import SpecLint.Proofs.Check.Builtins
import SpecLint.Proofs.Lint.Order

namespace SpecLint

-- No limit is lower and no builtin type is lost. The other settings are of no concern to a
-- document that has been read.
structure Config.Relaxes (loose strict : Config) : Prop where
  functions : strict.maxFunctions ≤ loose.maxFunctions
  inputs : strict.maxInputs ≤ loose.maxInputs
  ruleLength : strict.maxRuleLength ≤ loose.maxRuleLength
  rules : strict.maxRules ≤ loose.maxRules
  builtins : strict.vocabulary.builtinTypes.words ⊆ loose.vocabulary.builtinTypes.words

-- The same functions with more data beside them. The first block of data of a document is not
-- more of something: it begins the check of references.
structure Spec.Extends (more spec : Spec) : Prop where
  functions : more.functions = spec.functions
  data : spec.dataBlocks ⊆ more.dataBlocks
  begun : spec.dataBlocks = [] → more.dataBlocks = []

-- Some of the faults of a list, in their order, up to what their messages say.
def MilderFaults (some all : List Fault) : Prop := (some.map (·.mark)).Sublist (all.map (·.mark))

def Milder (some all : List Finding) : Prop := (some.map (·.mark)).Sublist (all.map (·.mark))

theorem MilderFaults.append {some all more others : List Fault} (first : MilderFaults some all)
    (second : MilderFaults more others) : MilderFaults (some ++ more) (all ++ others) := by
  unfold MilderFaults
  rw [List.map_append,List.map_append]
  exact List.Sublist.append first second

theorem MilderFaults.when {fewer all : Prop} [Decidable fewer] [Decidable all] {fault other : Fault}
    (same : fault.mark = other.mark) (implied : fewer → all) :
    MilderFaults (if fewer then [fault] else []) (if all then [other] else []) := by
  unfold MilderFaults
  by_cases found : fewer
  · rw [if_pos found,if_pos (implied found),List.map_singleton,List.map_singleton,same]
  · rw [if_neg found]
    exact List.nil_sublist _

namespace Milder

theorem refl (findings : List Finding) : Milder findings findings := List.Sublist.refl _

theorem append {some all more others : List Finding} (first : Milder some all)
    (second : Milder more others) : Milder (some ++ more) (all ++ others) := by
  unfold Milder
  rw [List.map_append,List.map_append]
  exact List.Sublist.append first second

theorem flatMap (values : List α) {some all : α → List Finding}
    (each : ∀ value, Milder (some value) (all value)) :
    Milder (values.flatMap some) (values.flatMap all) := by
  induction values with
  | nil => exact refl []
  | cons value values ih => exact (each value).append ih

theorem located {some all : List Fault} (faults : MilderFaults some all) (location : Text) :
    Milder (some.map (⟨·,location⟩)) (all.map (⟨·,location⟩)) := by
  have placed := List.Sublist.map (fun mark : Severity × Text => (mark,location)) faults
  rw [List.map_map,List.map_map] at placed
  unfold Milder
  rw [List.map_map,List.map_map]
  exact placed

end Milder

section Relaxed

variable {strict loose : Config} (relaxed : loose.Relaxes strict)
include relaxed

theorem inputFaults_milder (inputs : List Text) :
    MilderFaults (inputFaults loose inputs) (inputFaults strict inputs) := by
  refine MilderFaults.when rfl ?_
  intro tooMany
  exact Nat.lt_of_le_of_lt relaxed.inputs tooMany

theorem longRuleFaults_milder (position : Nat) (items : List Text) :
    MilderFaults (longRuleFaults loose position items) (longRuleFaults strict position items) := by
  induction items generalizing position with
  | nil => exact List.Sublist.refl _
  | cons item rest ih =>
    have later := ih (position + 1)
    unfold longRuleFaults
    dsimp only
    by_cases long : loose.maxRuleLength < item.length
    · have longer := Nat.lt_of_le_of_lt relaxed.ruleLength long
      rw [if_pos long,if_pos longer]
      exact List.Sublist.cons_cons _ later
    · rw [if_neg long]
      split
      · exact List.Sublist.cons _ later
      · exact later

theorem ruleFaults_milder (rules : Text) :
    MilderFaults (ruleFaults loose rules) (ruleFaults strict rules) := by
  unfold ruleFaults
  split
  · exact List.Sublist.refl _
  · refine MilderFaults.append (MilderFaults.when rfl ?_) (longRuleFaults_milder relaxed _ _)
    intro tooMany
    exact Nat.lt_of_le_of_lt relaxed.rules tooMany

theorem complexityFindings_milder (function : FunctionBlock) :
    Milder (complexityFindings loose function) (complexityFindings strict function) := by
  have sizes := (inputFaults_milder relaxed function.inputs).append
    (ruleFaults_milder relaxed (function.contentOf HeaderName.rules))
  exact Milder.located (sizes.append (List.Sublist.refl _)) function.location

variable {spec more : Spec} (extended : more.Extends spec)
include extended

theorem functionCountFindings_milder :
    Milder (functionCountFindings loose more) (functionCountFindings strict spec) := by
  unfold functionCountFindings
  rw [extended.functions]
  dsimp only
  by_cases tooMany : loose.maxFunctions < spec.functions.length
  · have beyond := Nat.lt_of_le_of_lt relaxed.functions tooMany
    rw [if_pos tooMany,if_pos beyond]
    exact List.Sublist.refl [((Severity.warning,"W011".toList),"spec".toList)]
  · rw [if_neg tooMany]
    exact List.nil_sublist _

theorem isKnownType_relaxed {type : Text}
    (known : isKnownType strict (definedTypes spec) type = true) :
    isKnownType loose (definedTypes more) type = true := by
  have defined : ∀ name ∈ definedTypes spec, name ∈ definedTypes more := by
    intro name member
    obtain ⟨block,inData,word,first⟩ := mem_definedTypes.mp member
    exact mem_definedTypes.mpr ⟨block,extended.data inData,word,first⟩
  simp only [isKnownType,Bool.or_eq_true,isBuiltinType_exact,List.contains_iff_mem] at known ⊢
  rcases known with (builtin | key) | written
  · exact .inl (.inl (relaxed.builtins builtin))
  · exact .inl (.inr (defined _ key))
  · exact .inr (defined _ written)

theorem referenceFindings_milder :
    Milder (referenceFindings loose more) (referenceFindings strict spec) := by
  unfold referenceFindings
  rw [extended.functions]
  by_cases begun : spec.dataBlocks = []
  · rw [if_pos (List.isEmpty_iff.mpr (extended.begun begun)),if_pos (List.isEmpty_iff.mpr begun)]
    exact Milder.refl []
  · have kept : more.dataBlocks ≠ [] := by
      intro none
      have inside := extended.data
      rw [none] at inside
      exact begun (List.subset_nil.mp inside)
    rw [if_neg (List.isEmpty_iff.not.mpr kept),if_neg (List.isEmpty_iff.not.mpr begun)]
    refine Milder.flatMap spec.functions ?_
    intro function
    unfold undefinedReferences
    by_cases known : isKnownType strict (definedTypes spec) function.returnType = true
    · rw [if_pos (by simp [isKnownType_relaxed relaxed extended known])]
      exact List.nil_sublist _
    · split
      · exact List.nil_sublist _
      · rename_i unknown
        simp only [Bool.or_eq_true,not_or] at unknown
        rw [if_neg (by simpa [known] using unknown.1)]
        exact Milder.refl _

-- Check by check the relaxed run finds no more than the other one.
theorem checkFindings_milder (check : Check) :
    Milder (check.findings loose more) (check.findings strict spec) := by
  cases check with
  | functionExists =>
    simp only [Check.findings,functionExistsFindings,extended.functions]
    exact Milder.refl _
  | requiredLandmarks =>
    simp only [Check.findings,extended.functions]
    exact Milder.refl _
  | dataReferences => exact referenceFindings_milder relaxed extended
  | complexity =>
    have each := Milder.flatMap spec.functions (complexityFindings_milder relaxed)
    simp only [Check.findings,extended.functions]
    exact (functionCountFindings_milder relaxed extended).append each
  | evolution =>
    simp only [Check.findings,extended.functions]
    exact Milder.refl _
  | determinism =>
    simp only [Check.findings,extended.functions]
    exact Milder.refl _

theorem findings_milder : Milder (more.findings loose) (spec.findings strict) :=
  Milder.flatMap Check.all (checkFindings_milder relaxed extended)

end Relaxed

def Verdict.diagnostics (verdict : Verdict) : List Diagnostic := verdict.errors ++ verdict.warnings

def Verdict.countAt (verdict : Verdict) (code location : Text) : Nat :=
  verdict.diagnostics.countP fun diagnostic => diagnostic.code = code ∧ diagnostic.location = location

theorem diagnosticsOf_milder {some all : List Finding} (milder : Milder some all) (severity : Severity) :
    ((diagnosticsOf severity some).map (·.mark)).Sublist ((diagnosticsOf severity all).map (·.mark)) := by
  rw [diagnosticsOf_marks,diagnosticsOf_marks]
  exact (List.Sublist.filter _ milder).map _

theorem countAt_marks (verdict : Verdict) (code location : Text) :
    verdict.countAt code location = (verdict.diagnostics.map (·.mark)).count (code,location) := by
  unfold Verdict.countAt
  rw [List.count_eq_countP,List.countP_map]
  refine congrArg (List.countP · _) ?_
  funext diagnostic
  rw [Bool.eq_iff_iff]
  simp [Diagnostic.mark]

-- A relaxed run has some of the diagnostics of the other one, in their order. Only the limits that
-- their messages name may differ.
theorem lint_relaxed {strict loose : Config} {spec more : Spec} (relaxed : loose.Relaxes strict)
    (extended : more.Extends spec) :
    (∀ code location,
      (more.lint loose).countAt code location ≤ (spec.lint strict).countAt code location) ∧
    ((more.lint loose).errors.map (·.mark)).Sublist ((spec.lint strict).errors.map (·.mark)) ∧
    ((more.lint loose).warnings.map (·.mark)).Sublist ((spec.lint strict).warnings.map (·.mark)) ∧
    ((spec.lint strict).valid = true → (more.lint loose).valid = true) := by
  have milder := diagnosticsOf_milder (findings_milder relaxed extended)
  have errors := milder .error
  have warnings := milder .warning
  rw [lint_findings,lint_findings]
  refine ⟨?_,errors,warnings,?_⟩
  · intro code location
    have both := errors.append warnings
    rw [← List.map_append,← List.map_append] at both
    rw [countAt_marks,countAt_marks]
    exact both.count_le _
  · intro valid
    have none : diagnosticsOf .error (spec.findings strict) = [] := List.isEmpty_iff.mp valid
    rw [none] at errors
    exact List.isEmpty_iff.mpr (List.map_eq_nil_iff.mp (List.sublist_nil.mp errors))

-- A higher limit leaves one of two long rules, in other words. A new type is defined, and the
-- arguments are still too many.
theorem lint_relaxed_rules :
    let strict := { Config.standard with maxInputs := 1, maxRuleLength := 3 }
    let loose := { strict with maxRuleLength := 5 }
    let spec := Spec.ofText .standard
      "DATA: Thing\nFUNCTION: f(a, b) → Widget\nRULES:\n- rule\n- longer".toList
    let more := { spec with
      dataBlocks := ⟨"DATA".toList,"Widget".toList,1,0,0⟩ :: spec.dataBlocks }
    loose.Relaxes strict ∧ more.Extends spec ∧
      (spec.lint strict).warnings.map (·.code) = ["E006".toList,"W010".toList,"W010".toList] ∧
      (more.lint loose).warnings.map (·.message) =
        ["RULES item 2 exceeds 5 characters (6 chars)".toList] ∧
      (more.lint loose).countAt "W010".toList "FUNCTION f".toList ≤
        (spec.lint strict).countAt "W010".toList "FUNCTION f".toList := by
  intro strict loose spec more
  have relaxed : loose.Relaxes strict :=
    ⟨Nat.le_refl _,Nat.le_refl _,by decide,Nat.le_refl _,List.Subset.refl _⟩
  have extended : more.Extends spec := ⟨rfl,List.subset_cons_self _ _,by decide +kernel⟩
  exact ⟨relaxed,extended,by decide +kernel,by decide +kernel,(lint_relaxed relaxed extended).1 _ _⟩

end SpecLint
