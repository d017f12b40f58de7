import SpecLint.Proofs.Check.EvalFields
import SpecLint.Proofs.Lint.Findings
import SpecLint.Proofs.Rules.Lines
import SpecLint.Proofs.Spec.Matching

namespace SpecLint
open Text

theorem Text.Alike.signature {content other : Text} (alike : Alike content other) :
    Signature.ofContent content = Signature.ofContent other := by
  unfold Signature.ofContent
  rw [alike.firstLine]

theorem field_solid : ∀ field ∈ BaselineField.all,
    Solid (field.key ++ [':']) ∧ Solid (field.key ++ [' ',':']) := by decide

theorem baselineFaults_alike {content other : Text} (alike : Alike content other) :
    baselineFaults content = baselineFaults other := by
  unfold baselineFaults
  congr 1
  apply List.filter_congr
  intro field member
  obtain ⟨tight,spaced⟩ := field_solid field member
  rw [namesField_lines alike.lines tight spaced]

theorem evalFaults_alike {content other : Text} (alike : Alike content other) :
    evalFaults content = evalFaults other := by
  have fields : EvalFields.ofContent content = EvalFields.ofContent other := by
    simp only [EvalFields.ofContent_fields,lastField?_lines alike.lines]
  rw [evalFaults,fields,evalFaults]

theorem levelFaults_alike {content other : Text} (alike : Alike content other) :
    levelFaults content = levelFaults other := by
  rw [levelFaults,lastField?_lines alike.lines,levelFaults]

namespace FunctionBlock.Matches

variable {function other : FunctionBlock} (same : function.Matches Alike other)
include same

theorem has (name : Text) : function.has name = other.has name := by
  have read := same.landmarks name
  unfold FunctionBlock.has Dictionary.contains
  generalize function.landmarks.get? name = mine at read ⊢
  generalize other.landmarks.get? name = theirs at read ⊢
  cases read with
  | none => rfl
  | some => rfl

theorem content (name : Text) : Alike (function.contentOf name) (other.contentOf name) := by
  have read := same.landmarks name
  unfold FunctionBlock.contentOf
  generalize function.landmarks.get? name = mine at read ⊢
  generalize other.landmarks.get? name = theirs at read ⊢
  cases read with
  | none => exact Alike.refl []
  | some landmarks => exact landmarks.content

theorem location : function.location = other.location := by
  unfold FunctionBlock.location
  rw [same.name]

theorem missing : missingLandmarks function = missingLandmarks other := by
  unfold missingLandmarks
  rw [same.location]
  congr 1
  apply List.filter_congr
  intro landmark _
  rw [same.has]

theorem references (config : Config) (defined : List Text) :
    undefinedReferences config defined function = undefinedReferences config defined other := by
  rw [undefinedReferences,same.returnType,same.location,undefinedReferences]

theorem complexity (config : Config) :
    complexityFindings config function = complexityFindings config other := by
  have rules := same.content HeaderName.rules
  have examples := same.content HeaderName.examples
  simp only [complexityFindings,ruleFaults,coverageFaults,same.inputs,same.location,rules.isEmpty,
    examples.isEmpty,ruleItems_lines rules.lines,branchCount_lines rules.lines,
    exampleCount_lines examples.lines]

theorem evolution : evolutionFindings function = evolutionFindings other := by
  have baseline := baselineFaults_alike (same.content HeaderName.baseline)
  have eval := evalFaults_alike (same.content HeaderName.eval)
  simp only [evolutionFindings,evolutionFaults,same.has,same.location,baseline,eval]

theorem determinism : determinismFindings function = determinismFindings other := by
  have level := levelFaults_alike (same.content HeaderName.determinism)
  simp only [determinismFindings,same.has,same.location,level]

end FunctionBlock.Matches

theorem flatMap_matches {related : α → α → Prop} {values others : List α}
    (each : List.Forall₂ related values others) {find : α → List β}
    (blind : ∀ value other, related value other → find value = find other) :
    values.flatMap find = others.flatMap find := by
  induction each with
  | nil => rfl
  | cons first _ ih => rw [List.flatMap_cons,List.flatMap_cons,blind _ _ first,ih]

theorem definedTypes_matches {spec other : Spec} (same : spec.Matches Alike other) :
    definedTypes spec = definedTypes other := by
  have words : spec.dataBlocks.filterMap (firstWord? ·.content) =
      other.dataBlocks.filterMap (firstWord? ·.content) := by
    refine List.forall₂_eq_eq_eq ▸ List.rel_filterMap ?_ same.dataBlocks
    intro block twin pair
    dsimp only
    rw [firstWord?_lines,firstWord?_lines,pair.content.lines]
    cases (trimmedLines twin.content).findSome? firstWord? with
    | none => exact .none
    | some word => exact .some rfl
  rw [definedTypes,words,definedTypes]

theorem check_matches {spec other : Spec} (same : spec.Matches Alike other) (config : Config)
    (check : Check) : check.findings config spec = check.findings config other := by
  have count := same.functions.length_eq
  have blocks := same.dataBlocks.length_eq
  cases check with
  | functionExists =>
    have empty : spec.functions.isEmpty = other.functions.isEmpty := by
      rw [Bool.eq_iff_iff,List.isEmpty_iff_length_eq_zero,List.isEmpty_iff_length_eq_zero,count]
    simp only [Check.findings,functionExistsFindings,empty]
  | requiredLandmarks => exact flatMap_matches same.functions fun _ _ pair => pair.missing
  | dataReferences =>
    have empty : spec.dataBlocks.isEmpty = other.dataBlocks.isEmpty := by
      rw [Bool.eq_iff_iff,List.isEmpty_iff_length_eq_zero,List.isEmpty_iff_length_eq_zero,blocks]
    simp only [Check.findings,referenceFindings,empty,definedTypes_matches same,
      flatMap_matches same.functions fun _ _ pair => pair.references config _]
  | complexity =>
    simp only [Check.findings,functionCountFindings,count,
      flatMap_matches same.functions fun _ _ pair => pair.complexity config]
  | evolution => exact flatMap_matches same.functions fun _ _ pair => pair.evolution
  | determinism => exact flatMap_matches same.functions fun _ _ pair => pair.determinism

theorem lint_matches {spec other : Spec} (same : spec.Matches Alike other) (config : Config) :
    spec.lint config = other.lint config := by
  have all : spec.findings config = other.findings config := by
    have first := check_matches same config .functionExists
    simp only [Check.findings] at first
    simp only [Spec.findings,first,check_matches same config]
  rw [lint_findings,all,lint_findings]

end SpecLint
