import SpecLint.Proofs.Check.EvalFields
import SpecLint.Proofs.Lint.Findings

namespace SpecLint
open Text

def ThresholdForm (value : Text) : Prop := ∃ mark digits, value = "pass".toList ++ mark :: digits ∧
  (mark = '^' ∨ mark = '@') ∧ digits ≠ [] ∧ ∀ c ∈ digits, c.isDigit = true

-- A text names a key where the key stands in front of a colon, with a blank between or not.
def Names (key content : Text) : Prop :=
  key ++ [':'] <:+: lowercase content ∨ key ++ [' ',':'] <:+: lowercase content

theorem isThreshold_exact (value : Text) : isThreshold value = true ↔ ThresholdForm value := by
  unfold isThreshold ThresholdForm
  cases opens : after? "pass".toList value with
  | none =>
    have closed := (after?_none _ _).mp opens
    simp only [Bool.false_eq_true,false_iff,not_exists,not_and]
    intro mark digits same
    exact absurd ⟨mark :: digits,same.symm⟩ closed
  | some rest =>
    rw [(after?_exact _ _ _).mp opens]
    cases rest with
    | nil => simp
    | cons mark digits => simp [and_assoc]

theorem namesField_exact (key content : Text) :
    namesField (lowercase content) key = true ↔ Names key content := by
  rw [namesField,Bool.or_eq_true,occurs_exact,occurs_exact,Names]

theorem BaselineField.mem_all (field : BaselineField) : field ∈ all := by
  cases field <;> decide

theorem BaselineField.forall_key (holds : Text → Prop) : (∀ field : BaselineField, holds field.key) ↔
    ∀ key ∈ ["reference".toList,"preserve".toList,"evolve".toList], holds key := by
  change _ ↔ ∀ key ∈ all.map BaselineField.key, holds key
  rw [List.forall_mem_map]
  exact ⟨fun each field _ => each field,fun each field => each field (mem_all field)⟩

theorem Threshold.mem_all (threshold : Threshold) : threshold ∈ all := by
  cases threshold <;> decide

theorem Threshold.forall_key (holds : Text → Prop) : (∀ threshold : Threshold, holds threshold.key) ↔
    ∀ key ∈ ["preserve".toList,"evolve".toList], holds key := by
  change _ ↔ ∀ key ∈ all.map Threshold.key, holds key
  rw [List.forall_mem_map]
  exact ⟨fun each threshold _ => each threshold,fun each threshold => each threshold (mem_all threshold)⟩

theorem baselineFaults_harmless (content : Text) : Harmless (baselineFaults content) ↔
    ∀ field : BaselineField, Names field.key content := by
  rw [baselineFaults,harmless_filter fun _ => rfl]
  simp only [namesField_exact]
  exact ⟨fun named field => named field field.mem_all,fun named field _ => named field⟩

theorem thresholds_harmless (content : Text) (threshold : Threshold) :
    Harmless (thresholdMissing (.ofContent content) threshold) ∧
        Harmless (thresholdInvalid (.ofContent content) threshold) ↔
      ∃ value, LastValue threshold.key content value ∧ (value = [] ∨ ThresholdForm value) := by
  unfold thresholdMissing thresholdInvalid
  simp only [EvalFields.ofContent_threshold,← lastField?_exact,← isThreshold_exact]
  rw [harmless_when rfl]
  cases found : lastField? threshold.key content with
  | none => simp
  | some value =>
    dsimp only
    rw [harmless_unless rfl]
    simp

theorem gradingFaults_harmless (content : Text) : Harmless (gradingFaults (.ofContent content)) ↔
    ∀ value, LastValue "grading".toList content value → value = [] ∨ value ∈ gradingKinds := by
  unfold gradingFaults
  simp only [EvalFields.ofContent_grading,← lastField?_exact]
  cases found : lastField? "grading".toList content with
  | none => simp [Harmless]
  | some value =>
    dsimp only
    rw [harmless_unless rfl]
    simp

theorem evalFaults_harmless (content : Text) : Harmless (evalFaults content) ↔
    (∀ threshold : Threshold, ∃ value, LastValue threshold.key content value ∧
      (value = [] ∨ ThresholdForm value)) ∧
    ∀ value, LastValue "grading".toList content value → value = [] ∨ value ∈ gradingKinds := by
  rw [← gradingFaults_harmless,evalFaults,harmless_append,harmless_append,harmless_flatMap,
    harmless_flatMap]
  simp only [← thresholds_harmless,forall_and]
  exact and_congr_left fun _ => and_congr
    ⟨fun each threshold => each threshold threshold.mem_all,fun each threshold _ => each threshold⟩
    ⟨fun each threshold => each threshold threshold.mem_all,fun each threshold _ => each threshold⟩

-- What the check of a baseline and its evaluation asks of a function.
theorem evolutionFaults_harmless (function : FunctionBlock) : Harmless (evolutionFaults function) ↔
    (function.has HeaderName.baseline = true → function.has HeaderName.eval = true ∧
      ∀ field : BaselineField, Names field.key (function.contentOf HeaderName.baseline)) ∧
    (function.has HeaderName.eval = true →
      (∀ threshold : Threshold, ∃ value,
        LastValue threshold.key (function.contentOf HeaderName.eval) value ∧
          (value = [] ∨ ThresholdForm value)) ∧
      ∀ value, LastValue "grading".toList (function.contentOf HeaderName.eval) value →
        value = [] ∨ value ∈ gradingKinds) := by
  rw [← baselineFaults_harmless,← evalFaults_harmless,evolutionFaults]
  rw [harmless_append,harmless_append,harmless_when rfl]
  cases function.has HeaderName.baseline <;> cases function.has HeaderName.eval <;> simp [Harmless]

-- The faults that a look at the evolution of a function can end with.
def Fault.OfEvolution : Fault → Prop
  | .missingEval | .missingField _ | .missingThreshold _ | .invalidThreshold .. | .invalidGrading _ => True
  | _ => False

theorem thresholdFaults_kind (fields : EvalFields) (threshold : Threshold) :
    ∀ fault ∈ thresholdMissing fields threshold ++ thresholdInvalid fields threshold,
      fault.OfEvolution := by
  intro fault member
  unfold thresholdMissing thresholdInvalid at member
  cases found : fields.threshold threshold with
  | none =>
    simp only [found,List.append_nil,List.mem_ite_nil_right,List.mem_singleton] at member
    obtain ⟨_,rfl⟩ := member
    trivial
  | some value =>
    simp only [found,List.mem_append,List.mem_ite_nil_left,List.mem_ite_nil_right,
      List.mem_singleton] at member
    obtain ⟨_,rfl⟩ | ⟨_,rfl⟩ := member
    · trivial
    · trivial

theorem gradingFaults_kind (fields : EvalFields) : ∀ fault ∈ gradingFaults fields, fault.OfEvolution := by
  intro fault member
  unfold gradingFaults at member
  split at member
  · cases member
  · rw [List.mem_ite_nil_left,List.mem_singleton] at member
    obtain ⟨_,rfl⟩ := member
    trivial

theorem evolutionFaults_kind (function : FunctionBlock) :
    ∀ fault ∈ evolutionFaults function, fault.OfEvolution := by
  intro fault member
  simp only [evolutionFaults,baselineFaults,evalFaults,List.mem_append,List.mem_ite_nil_right,
    List.mem_singleton,List.mem_map,List.mem_flatMap] at member
  obtain ((⟨_,rfl⟩ | ⟨_,field,_,rfl⟩) | ⟨_,(⟨threshold,_,missing⟩ | ⟨threshold,_,invalid⟩) | grading⟩) :=
    member
  · trivial
  · trivial
  · exact thresholdFaults_kind _ threshold fault (List.mem_append_left _ missing)
  · exact thresholdFaults_kind _ threshold fault (List.mem_append_right _ invalid)
  · exact gradingFaults_kind _ fault grading

theorem Fault.OfEvolution.error {fault : Fault} (kind : fault.OfEvolution) : fault.severity = .error := by
  cases fault with
  | undefinedType type => cases kind
  | longRule position limit length => cases kind
  | tooManyFunctions count limit => cases kind
  | _ => rfl

end SpecLint
