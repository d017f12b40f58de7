import SpecLint.Proofs.Lint.Locality
import SpecLint.Proofs.Spec.Restriction
import SpecLint.Proofs.WordSet

namespace SpecLint

-- The landmarks that some check looks for.
def checkedLandmarks : List Text :=
  [HeaderName.rules,HeaderName.doneWhen,HeaderName.examples,HeaderName.errors,HeaderName.baseline,
   HeaderName.eval,HeaderName.determinism]

theorem required_checked (landmark : Required) : landmark.name ∈ checkedLandmarks := by
  cases landmark <;> decide

-- The same settings with another table of landmarks.
def Config.withLandmarks (config : Config) (landmarks : WordSet) : Config :=
  { config with vocabulary := { config.vocabulary with functionLandmarks := landmarks } }

section
variable {keep : Text → Bool}

namespace FunctionBlock
variable (function : FunctionBlock) {name : Text} (kept : keep name = true)
include kept

theorem has_restrict : (function.restrict keep).has name = function.has name := by
  unfold has Dictionary.contains restrict
  rw [Dictionary.get?_restrict,if_pos kept]

theorem contentOf_restrict : (function.restrict keep).contentOf name = function.contentOf name := by
  unfold contentOf restrict
  rw [Dictionary.get?_restrict,if_pos kept]

end FunctionBlock

variable (all : ∀ name ∈ checkedLandmarks, keep name = true)
include all

-- A check is blind to every landmark that none of them looks for.
theorem Check.ofFunction_restrict (check : Check) (config : Config) (spec : Spec) (function : FunctionBlock) :
    check.ofFunction config (spec.restrict keep) (function.restrict keep) =
      check.ofFunction config spec function := by
  have rules := function.contentOf_restrict (all HeaderName.rules (by decide))
  have examples := function.contentOf_restrict (all HeaderName.examples (by decide))
  have baseline := all HeaderName.baseline (by decide)
  have eval := all HeaderName.eval (by decide)
  have determinism := all HeaderName.determinism (by decide)
  cases check with
  | functionExists => rfl
  | requiredLandmarks =>
    unfold ofFunction missingLandmarks
    have same : ∀ landmark : Required, (function.restrict keep).has landmark.name = function.has landmark.name :=
      fun landmark => function.has_restrict (all _ (required_checked landmark))
    simp only [same]
    rfl
  | dataReferences => rfl
  | complexity =>
    simp only [ofFunction,complexityFindings,rules,examples]
    rfl
  | evolution =>
    simp only [ofFunction,evolutionFindings,evolutionFaults,function.has_restrict baseline,
      function.has_restrict eval,function.contentOf_restrict baseline,function.contentOf_restrict eval]
    rfl
  | determinism =>
    simp only [ofFunction,determinismFindings,function.has_restrict determinism,
      function.contentOf_restrict determinism]
    rfl

theorem lint_restrict (config : Config) (spec : Spec) : (spec.restrict keep).lint config = spec.lint config := by
  have each : ∀ check : Check, check.findings config (spec.restrict keep) = check.findings config spec := by
    intro check
    have document : check.ofDocument config (spec.restrict keep) = check.ofDocument config spec := by
      cases check with
      | functionExists => simp [Check.ofDocument,functionExistsFindings,Spec.restrict]
      | complexity => simp [Check.ofDocument,functionCountFindings,Spec.restrict]
      | _ => rfl
    rw [check.findings_parts,check.findings_parts,document]
    apply congrArg
    change (spec.functions.map (·.restrict keep)).flatMap _ = _
    rw [List.flatMap_map]
    apply congrArg spec.functions.flatMap
    funext function
    exact check.ofFunction_restrict all config spec function
  rw [lint_findings,Spec.findings_all,lint_findings,Spec.findings_all]
  simp only [each]

end

-- Landmarks are named when a document is read. The checks know no table of them.
theorem lint_withLandmarks (config : Config) (landmarks : WordSet) (spec : Spec) :
    spec.lint (config.withLandmarks landmarks) = spec.lint config := by
  have complexity : complexityFindings (config.withLandmarks landmarks) = complexityFindings config := by
    funext function
    simp only [complexityFindings,ruleFaults,longRuleFaults_exact]
    rfl
  have each : ∀ check : Check, check.findings (config.withLandmarks landmarks) spec = check.findings config spec := by
    intro check
    cases check with
    | complexity =>
      simp only [Check.findings,complexity]
      rfl
    | _ => rfl
  rw [lint_findings,Spec.findings_all,lint_findings,Spec.findings_all]
  simp only [each]

-- Both documents are cut out of the one that is read with the words of both tables.
theorem ofText_agree {first second : Vocabulary} {keep : Text → Bool}
    (agree : ∀ name, keep name = true → first.isFunctionLandmark name = second.isFunctionLandmark name)
    (text : Text) : (Spec.ofText first text).restrict keep = (Spec.ofText second text).restrict keep := by
  let both : Vocabulary :=
    { first with functionLandmarks := .ofList (first.functionLandmarks.words ++ second.functionLandmarks.words) }
  have left : first.functionLandmarks.words ⊆ both.functionLandmarks.words := fun word member =>
    (WordSet.mem_ofList _ word).mpr (List.mem_append_left _ member)
  have right : second.functionLandmarks.words ⊆ both.functionLandmarks.words := fun word member =>
    (WordSet.mem_ofList _ word).mpr (List.mem_append_right _ member)
  rw [ofText_restrict left,ofText_restrict right,Spec.restrict_restrict,Spec.restrict_restrict]
  apply congrArg (Spec.restrict · _)
  funext name
  cases kept : keep name with
  | false => rfl
  | true => rw [agree name kept]

-- A smaller table of landmarks takes away what it does not name, under every function and nothing
-- else. A verdict depends on the table only as far as it names the landmarks that are checked.
theorem lintText_vocabulary (text : Text) :
    (∀ small large : Vocabulary, small.functionLandmarks.words ⊆ large.functionLandmarks.words →
      Spec.ofText small text = (Spec.ofText large text).restrict small.isFunctionLandmark) ∧
    ∀ (config : Config) (landmarks : WordSet),
      (∀ name ∈ [HeaderName.rules,HeaderName.doneWhen,HeaderName.examples,HeaderName.errors,
          HeaderName.baseline,HeaderName.eval,HeaderName.determinism],
        name ∈ landmarks.words ↔ name ∈ config.vocabulary.functionLandmarks.words) →
      lintText (config.withLandmarks landmarks) text = lintText config text := by
  refine ⟨fun small large narrower => ofText_restrict narrower text,?_⟩
  intro config landmarks agree
  let keep (name : Text) : Bool := checkedLandmarks.contains name
  have all : ∀ name ∈ checkedLandmarks, keep name = true := fun _ member => List.elem_eq_true_of_mem member
  have named : ∀ name, keep name = true →
      (config.withLandmarks landmarks).vocabulary.isFunctionLandmark name =
        config.vocabulary.isFunctionLandmark name := by
    intro name kept
    apply Bool.eq_iff_iff.mpr
    simpa [Config.withLandmarks,Vocabulary.isFunctionLandmark,WordSet.contains] using
      agree name (List.mem_of_elem_eq_true kept)
  calc lintText (config.withLandmarks landmarks) text
    _ = (Spec.ofText (config.withLandmarks landmarks).vocabulary text).lint config := lint_withLandmarks _ _ _
    _ = ((Spec.ofText (config.withLandmarks landmarks).vocabulary text).restrict keep).lint config :=
      (lint_restrict all config _).symm
    _ = ((Spec.ofText config.vocabulary text).restrict keep).lint config := by rw [ofText_agree named]
    _ = lintText config text := lint_restrict all config _

-- With notes and without reads. The rules that stand last are read with both tables.
theorem lintText_vocabulary_notes :
    let checked := [HeaderName.rules,HeaderName.doneWhen,HeaderName.examples,HeaderName.errors,
      HeaderName.baseline,HeaderName.eval,HeaderName.determinism]
    let small : Vocabulary := { Vocabulary.standard with functionLandmarks := .ofList checked }
    let landmarks := WordSet.ofList ("NOTES".toList :: checked)
    let text := "FUNCTION: f() → int\nRULES: x\nREADS: a\nNOTES: b\nRULES: y\nDATA: T\nERRORS: z".toList
    small.functionLandmarks.words ⊆ Vocabulary.standard.functionLandmarks.words ∧
      Spec.ofText small text = (Spec.ofText .standard text).restrict small.isFunctionLandmark ∧
      Spec.ofText small text ≠ Spec.ofText .standard text ∧
      (∀ name ∈ checked, name ∈ landmarks.words ↔ name ∈ Vocabulary.standard.functionLandmarks.words) ∧
      landmarks ≠ Vocabulary.standard.functionLandmarks ∧
      lintText (Config.standard.withLandmarks landmarks) text = lintText .standard text := by
  intro checked small landmarks text
  have narrower : small.functionLandmarks.words ⊆ Vocabulary.standard.functionLandmarks.words := by
    decide +kernel
  have agree : ∀ name ∈ checked, name ∈ landmarks.words ↔ name ∈ Vocabulary.standard.functionLandmarks.words := by
    decide +kernel
  obtain ⟨restricted,blind⟩ := lintText_vocabulary text
  exact ⟨narrower,restricted small .standard narrower,by decide +kernel,agree,by decide +kernel,
    blind .standard landmarks agree⟩

end SpecLint
