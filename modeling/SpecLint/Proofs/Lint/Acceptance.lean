import SpecLint.Proofs.Check.Complexity
import SpecLint.Proofs.Check.Evolution
import SpecLint.Proofs.Landmark.Outline
import SpecLint.Proofs.Spec.Grouping

namespace SpecLint
open Text

-- What is asked of one function of a document.
structure Accepted (config : Config) (function : FunctionBlock) : Prop where
  attached : ∀ name ∈ [HeaderName.rules,HeaderName.doneWhen,HeaderName.examples,HeaderName.errors],
    function.has name = true
  inputs : function.inputs.length ≤ config.maxInputs
  rules : function.contentOf HeaderName.rules ≠ [] →
    (ruleItems (function.contentOf HeaderName.rules)).length ≤ config.maxRules
  coverage : function.contentOf HeaderName.rules ≠ [] → function.contentOf HeaderName.examples ≠ [] →
    branchCount (function.contentOf HeaderName.rules) ≤
      exampleCount (function.contentOf HeaderName.examples)
  baseline : function.has HeaderName.baseline = true → function.has HeaderName.eval = true ∧
    ∀ key ∈ ["reference".toList,"preserve".toList,"evolve".toList],
      Names key (function.contentOf HeaderName.baseline)
  thresholds : function.has HeaderName.eval = true → ∀ key ∈ ["preserve".toList,"evolve".toList],
    ∃ value, LastValue key (function.contentOf HeaderName.eval) value ∧
      (value = [] ∨ ThresholdForm value)
  grading : function.has HeaderName.eval = true →
    ∀ value, LastValue "grading".toList (function.contentOf HeaderName.eval) value →
      value = [] ∨ value ∈ ["code".toList,"model".toList,"outcome".toList]
  determinism : function.has HeaderName.determinism = true →
    ∃ level ∈ ["strict".toList,"structural".toList,"semantic".toList],
      LastValue "level".toList (function.contentOf HeaderName.determinism) level

theorem missingLandmarks_clean (function : FunctionBlock) : Clean (missingLandmarks function) ↔
    ∀ name ∈ [HeaderName.rules,HeaderName.doneWhen,HeaderName.examples,HeaderName.errors],
      function.has name = true := by
  have located : missingLandmarks function =
      ((Required.all.filter (!function.has ·.name)).map .missingLandmark).map (⟨·,function.location⟩) := by
    rw [List.map_map]
    rfl
  rw [located,clean_located,harmless_filter fun _ => rfl]
  simp [Required.all,Required.name]

theorem referenceFindings_clean (config : Config) (spec : Spec) : Clean (referenceFindings config spec) := by
  intro finding member
  unfold referenceFindings at member
  split at member
  · cases member
  · obtain ⟨function,_,inside⟩ := List.mem_flatMap.mp member
    unfold undefinedReferences at inside
    split at inside
    · cases inside
    · rw [List.mem_singleton.mp inside]
      rfl

theorem functionCountFindings_clean (config : Config) (spec : Spec) :
    Clean (functionCountFindings config spec) := by
  unfold functionCountFindings
  dsimp only
  split
  · simp [Clean,Finding.ofSpec,Fault.severity]
  · simp [Clean]

theorem longRuleFaults_harmless (config : Config) (position : Nat) (items : List Text) :
    Harmless (longRuleFaults config position items) := by
  intro fault member
  obtain ⟨_,_,rfl⟩ := longRuleFaults_kind config position items fault member
  rfl

theorem ruleFaults_harmless (config : Config) (rules : Text) : Harmless (ruleFaults config rules) ↔
    (rules ≠ [] → (ruleItems rules).length ≤ config.maxRules) := by
  unfold ruleFaults
  split
  · rename_i empty
    simp [Harmless,List.isEmpty_iff.mp empty]
  · rename_i filled
    dsimp only
    rw [harmless_append,harmless_when rfl]
    simp [longRuleFaults_harmless,by simpa using filled]

theorem coverageFaults_harmless (rules examples : Text) : Harmless (coverageFaults rules examples) ↔
    (rules ≠ [] → examples ≠ [] → branchCount rules ≤ exampleCount examples) := by
  rw [coverageFaults,harmless_unless rfl]
  simp only [Bool.or_eq_true,List.isEmpty_iff,decide_eq_true_eq]
  tauto

theorem complexityFindings_clean (config : Config) (function : FunctionBlock) :
    Clean (complexityFindings config function) ↔ function.inputs.length ≤ config.maxInputs ∧
      (function.contentOf HeaderName.rules ≠ [] →
        (ruleItems (function.contentOf HeaderName.rules)).length ≤ config.maxRules) ∧
      (function.contentOf HeaderName.rules ≠ [] → function.contentOf HeaderName.examples ≠ [] →
        branchCount (function.contentOf HeaderName.rules) ≤
          exampleCount (function.contentOf HeaderName.examples)) := by
  rw [← ruleFaults_harmless,← coverageFaults_harmless,complexityFindings]
  rw [clean_located,harmless_append,harmless_append,inputFaults,harmless_when rfl,Nat.not_lt,and_assoc]

theorem levelFaults_harmless (content : Text) : Harmless (levelFaults content) ↔
    ∃ level ∈ determinismLevels, LastValue "level".toList content level := by
  simp only [← lastField?_exact,levelFaults]
  cases found : lastField? "level".toList content with
  | none => simp [Harmless,Fault.severity]
  | some level =>
    rw [Option.getD_some]
    split
    · rename_i empty
      rw [List.isEmpty_iff.mp empty]
      simp [Harmless,Fault.severity,determinismLevels]
    · rw [harmless_unless rfl]
      simp

theorem determinismFindings_clean (function : FunctionBlock) : Clean (determinismFindings function) ↔
    (function.has HeaderName.determinism = true → ∃ level ∈ determinismLevels,
      LastValue "level".toList (function.contentOf HeaderName.determinism) level) := by
  rw [← levelFaults_harmless,determinismFindings]
  split
  · rename_i attached
    simp [clean_located,attached]
  · rename_i absent
    simp [Clean,absent]

theorem accepted_exact (config : Config) (function : FunctionBlock) : Accepted config function ↔
    Clean (missingLandmarks function) ∧ Clean (complexityFindings config function) ∧
      Clean (evolutionFindings function) ∧ Clean (determinismFindings function) := by
  rw [missingLandmarks_clean,complexityFindings_clean,evolutionFindings,clean_located,
    evolutionFaults_harmless,determinismFindings_clean,
    BaselineField.forall_key (Names · (function.contentOf HeaderName.baseline)),
    Threshold.forall_key fun key => ∃ value, LastValue key (function.contentOf HeaderName.eval) value ∧
      (value = [] ∨ ThresholdForm value)]
  constructor
  · intro accepted
    exact ⟨accepted.attached,⟨accepted.inputs,accepted.rules,accepted.coverage⟩,
      ⟨accepted.baseline,fun attached => ⟨accepted.thresholds attached,accepted.grading attached⟩⟩,
      accepted.determinism⟩
  · intro clean
    obtain ⟨attached,⟨inputs,rules,coverage⟩,⟨baseline,eval⟩,determinism⟩ := clean
    exact ⟨attached,inputs,rules,coverage,baseline,fun attached => (eval attached).1,
      fun attached => (eval attached).2,determinism⟩

theorem functions_some (vocabulary : Vocabulary) (text : Text) :
    (Spec.ofText vocabulary text).functions ≠ [] ↔
      ∃ line ∈ split '\n' text, "FUNCTION:".toList <+: line := by
  have headings := functionsOf_headings vocabulary (scan text)
  have form : NameForm HeaderName.function := by decide
  have spelled : "FUNCTION:".toList = HeaderName.function ++ [':'] := by decide
  have header : ∀ line, (Header.ofLine? line).map (·.name) = some HeaderName.function ↔
      "FUNCTION:".toList <+: line := by
    intro line
    rw [Option.map_eq_some_iff]
    constructor
    · intro found
      obtain ⟨header,read,named⟩ := found
      obtain ⟨tail,same,_,_⟩ := (Header.ofLine?_exact _ _).mp read
      rw [spelled,same,named]
      exact ⟨tail,List.append_cons .. |>.symm⟩
    · intro opens
      rw [spelled] at opens
      obtain ⟨tail,rfl⟩ := opens
      rw [← List.append_cons]
      exact ⟨⟨_,_⟩,(Header.ofLine?_exact _ ⟨HeaderName.function,_⟩).mpr ⟨tail,rfl,form,rfl⟩,rfl⟩
  have named : HeaderName.function ∈ (scan text).map (·.name) ↔
      ∃ line ∈ split '\n' text, "FUNCTION:".toList <+: line := by
    rw [scan,outline_names,List.mem_filterMap]
    simp only [header]
  have mapped := congrArg (· = []) headings
  rw [← named,ofText_finished]
  simp only [List.map_eq_nil_iff,eq_iff_iff] at mapped
  rw [ne_eq,mapped,List.filter_eq_nil_iff]
  simp

theorem findings_clean (config : Config) (spec : Spec) : Clean (spec.findings config) ↔
    spec.functions ≠ [] ∧ ∀ function ∈ spec.functions, Accepted config function := by
  have present : Clean (functionExistsFindings spec) ↔ spec.functions ≠ [] := by
    unfold functionExistsFindings
    split
    · rename_i empty
      simp [Clean,Finding.ofSpec,Fault.severity,List.isEmpty_iff.mp empty]
    · rename_i filled
      simpa [Clean] using filled
  rw [Spec.findings,clean_append,present,clean_flatMap]
  simp only [Check.ofFunctions,List.forall_mem_cons,List.not_mem_nil,false_implies,implies_true,and_true,
    Check.findings,clean_append,clean_flatMap,referenceFindings_clean,functionCountFindings_clean,
    true_and,accepted_exact,forall_and]

-- A document is accepted exactly when it has a function and nothing is wrong with any of them.
theorem lintText_valid (config : Config) (text : Text) : (lintText config text).valid = true ↔
    (∃ line ∈ split '\n' text, "FUNCTION:".toList <+: line) ∧
      ∀ function ∈ (Spec.ofText config.vocabulary text).functions, Accepted config function := by
  rw [lintText,lint_findings,Verdict.valid_exact,findings_clean,functions_some]

-- A function with all that is asked of it, whose return type is still warned about.
example :
    let lines := ["DATA: Order", "FUNCTION: pick(orders) → Choice", "BASELINE: reference: v1", "preserve: order",
      "evolve: speed", "EVAL: preserve: pass^3", "evolve: pass@5", "grading: code", "DETERMINISM: level: strict",
      "RULES: - if empty, none", "- otherwise the first", "DONE_WHEN: picked", "EXAMPLES: [] → none", "[a] → a",
      "ERRORS: none"]
    let verdict := lintText .standard (join ['\n'] (lines.map (·.toList)))
    verdict.valid = true ∧ verdict.warnings.map (·.code) = ["E006".toList] := by
  decide +kernel

end SpecLint
