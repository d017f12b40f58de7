import SpecLint.Proofs.Check.EvalFields
import SpecLint.Proofs.Dictionary
import SpecLint.Proofs.Lint.Findings
import SpecLint.Proofs.Text.Letters

namespace SpecLint
open Text

def Landmark.asciiLower (landmark : Landmark) : Landmark :=
  { landmark with content := Text.asciiLower landmark.content }

def FunctionBlock.asciiLower (function : FunctionBlock) : FunctionBlock :=
  { function with
    returnType := Text.asciiLower function.returnType
    landmarks := function.landmarks.map (·.asciiLower) }

-- A document with its return types, its data and what stands under its functions in small letters
-- as far as these are ASCII. Documents with one such form differ in the case of those letters only.
def Spec.asciiLower (spec : Spec) : Spec :=
  { spec with
    functions := spec.functions.map (·.asciiLower)
    dataBlocks := spec.dataBlocks.map (·.asciiLower) }

theorem bulletItem?_asciiLower (line : Text) :
    bulletItem? (asciiLower line) = (bulletItem? line).map asciiLower := by
  unfold bulletItem?
  rw [trim_asciiLower,after?_asciiLower (by decide)]
  cases after? ['-'] (trim line) with
  | none => rfl
  | some rest =>
    simp only [Option.map_some,trim_asciiLower,asciiLower_isEmpty]
    split <;> rfl

theorem ruleItems_asciiLower (rules : Text) : ruleItems (asciiLower rules) = (ruleItems rules).map asciiLower := by
  have read : bulletItem? ∘ asciiLower = fun line => (bulletItem? line).map asciiLower :=
    funext bulletItem?_asciiLower
  have bulleted : (lines (asciiLower rules)).filterMap bulletItem? =
      ((lines rules).filterMap bulletItem?).map asciiLower := by
    rw [lines_asciiLower,List.filterMap_map,read,List.map_filterMap]
  simp only [ruleItems,bulleted,List.isEmpty_map,trimmedLines_asciiLower]
  split <;> rfl

theorem exampleCount_asciiLower (examples : Text) : exampleCount (asciiLower examples) = exampleCount examples := by
  have shown : isExample ∘ asciiLower = isExample := by
    funext line
    simp only [Function.comp_apply,isExample]
    rw [startsWith_asciiLower (by decide),occurs_asciiLower (by decide),occurs_asciiLower (by decide)]
  rw [exampleCount,trimmedLines_asciiLower,List.countP_map,shown,exampleCount]

theorem branchCount_asciiLower (rules : Text) : branchCount (asciiLower rules) = branchCount rules := by
  simp only [branchCount,lowercase_asciiLower,trim_asciiLower,ne_eq,asciiLower_eq_nil]

theorem longRuleFaults_asciiLower (config : Config) (position : Nat) (items : List Text) :
    longRuleFaults config position (items.map asciiLower) = longRuleFaults config position items := by
  induction items generalizing position with
  | nil => rfl
  | cons item rest ih => simp only [List.map_cons,longRuleFaults,ih,asciiLower_length]

theorem ruleFaults_asciiLower (config : Config) (rules : Text) :
    ruleFaults config (asciiLower rules) = ruleFaults config rules := by
  simp only [ruleFaults,asciiLower_isEmpty,ruleItems_asciiLower,List.length_map,longRuleFaults_asciiLower]

theorem coverageFaults_asciiLower (rules examples : Text) :
    coverageFaults (asciiLower rules) (asciiLower examples) = coverageFaults rules examples := by
  simp only [coverageFaults,asciiLower_isEmpty,branchCount_asciiLower,exampleCount_asciiLower]

theorem baselineFaults_asciiLower (content : Text) : baselineFaults (asciiLower content) = baselineFaults content := by
  rw [baselineFaults,lowercase_asciiLower,baselineFaults]

-- Each line is put in lowercase by itself.
theorem lastField?_asciiLower (key content : Text) : lastField? key (asciiLower content) = lastField? key content := by
  have read : (fun line => fieldValue? key (lowercase (trim line))) ∘ asciiLower =
      fun line => fieldValue? key (lowercase (trim line)) := by
    funext line
    rw [Function.comp_apply,trim_asciiLower,lowercase_asciiLower]
  rw [lastField?,lines_asciiLower,List.filterMap_map,read,lastField?]

theorem evalFaults_asciiLower (content : Text) : evalFaults (asciiLower content) = evalFaults content := by
  have fields : EvalFields.ofContent (asciiLower content) = EvalFields.ofContent content := by
    simp only [EvalFields.ofContent_fields,lastField?_asciiLower]
  rw [evalFaults,fields,evalFaults]

theorem levelFaults_asciiLower (content : Text) : levelFaults (asciiLower content) = levelFaults content := by
  rw [levelFaults,lastField?_asciiLower,levelFaults]

theorem isKnownType_asciiLower (config : Config) (defined : List Text) (type : Text) :
    isKnownType config defined (asciiLower type) = isKnownType config defined type := by
  simp only [isKnownType,TypeName.normalize,lowercase_asciiLower]

theorem definedTypes_asciiLower (spec : Spec) : definedTypes spec.asciiLower = definedTypes spec := by
  have word : (fun block : Landmark => firstWord? block.content) ∘ Landmark.asciiLower =
      fun block => (firstWord? block.content).map asciiLower := by
    funext block
    exact firstWord?_asciiLower block.content
  have lower : lowercase ∘ asciiLower = lowercase := funext lowercase_asciiLower
  unfold definedTypes Spec.asciiLower
  rw [List.filterMap_map,word,← List.map_filterMap,List.map_map,lower]

namespace FunctionBlock
variable (function : FunctionBlock)

theorem has_asciiLower (name : Text) : function.asciiLower.has name = function.has name := by
  rw [has,Dictionary.contains,asciiLower,Dictionary.get?_map,Option.isSome_map]
  rfl

theorem contentOf_asciiLower (name : Text) :
    function.asciiLower.contentOf name = Text.asciiLower (function.contentOf name) := by
  rw [contentOf,asciiLower,Dictionary.get?_map,contentOf]
  cases function.landmarks.get? name <;> rfl

theorem missing_asciiLower : missingLandmarks function.asciiLower = missingLandmarks function := by
  simp only [missingLandmarks,has_asciiLower]
  rfl

-- The message quotes the type as it is written.
theorem references_asciiLower (config : Config) (defined : List Text) :
    (undefinedReferences config defined function.asciiLower).map (·.mark) =
      (undefinedReferences config defined function).map (·.mark) := by
  unfold undefinedReferences
  rw [asciiLower,asciiLower_isEmpty,isKnownType_asciiLower]
  split <;> rfl

theorem complexity_asciiLower (config : Config) :
    complexityFindings config function.asciiLower = complexityFindings config function := by
  simp only [complexityFindings,contentOf_asciiLower,ruleFaults_asciiLower,coverageFaults_asciiLower]
  rfl

theorem evolution_asciiLower : evolutionFindings function.asciiLower = evolutionFindings function := by
  simp only [evolutionFindings,evolutionFaults,has_asciiLower,contentOf_asciiLower,baselineFaults_asciiLower,
    evalFaults_asciiLower]
  rfl

theorem determinism_asciiLower : determinismFindings function.asciiLower = determinismFindings function := by
  simp only [determinismFindings,has_asciiLower,contentOf_asciiLower,levelFaults_asciiLower]
  rfl

end FunctionBlock

-- Check by check a document is told the same in small letters, up to what the messages quote.
theorem check_asciiLower (config : Config) (spec : Spec) (check : Check) :
    (check.findings config spec.asciiLower).map (·.mark) = (check.findings config spec).map (·.mark) := by
  have each : ∀ find : FunctionBlock → List Finding,
      (∀ function, (find function.asciiLower).map (·.mark) = (find function).map (·.mark)) →
      (spec.asciiLower.functions.flatMap find).map (·.mark) = (spec.functions.flatMap find).map (·.mark) := by
    intro find same
    simp only [Spec.asciiLower,List.flatMap_map,List.map_flatMap,same]
  cases check with
  | functionExists => simp only [Check.findings,functionExistsFindings,Spec.asciiLower,List.isEmpty_map]
  | requiredLandmarks => exact each _ fun function => by rw [function.missing_asciiLower]
  | dataReferences =>
    have blocks : spec.asciiLower.dataBlocks.isEmpty = spec.dataBlocks.isEmpty := List.isEmpty_map
    simp only [Check.findings,referenceFindings,blocks,definedTypes_asciiLower]
    split
    · rfl
    · exact each _ fun function => function.references_asciiLower config _
  | complexity =>
    have count : functionCountFindings config spec.asciiLower = functionCountFindings config spec := by
      simp only [functionCountFindings,Spec.asciiLower,List.length_map]
    simp only [Check.findings,count,List.map_append]
    exact congrArg _ (each _ fun function => by rw [function.complexity_asciiLower])
  | evolution => exact each _ fun function => by rw [function.evolution_asciiLower]
  | determinism => exact each _ fun function => by rw [function.determinism_asciiLower]

theorem findings_asciiLower (config : Config) (spec : Spec) :
    (spec.asciiLower.findings config).map (·.mark) = (spec.findings config).map (·.mark) := by
  have first := check_asciiLower config spec .functionExists
  simp only [Check.findings] at first
  simp only [Spec.findings,List.map_append,List.map_flatMap,first,check_asciiLower]

-- Documents that differ in the case of ASCII letters are judged alike. Only messages may differ.
theorem lint_letters (config : Config) {spec other : Spec} (same : spec.asciiLower = other.asciiLower) :
    (spec.lint config).errors.map (·.mark) = (other.lint config).errors.map (·.mark) ∧
    (spec.lint config).warnings.map (·.mark) = (other.lint config).warnings.map (·.mark) ∧
    (spec.lint config).valid = (other.lint config).valid := by
  have marks : (spec.findings config).map (·.mark) = (other.findings config).map (·.mark) := by
    rw [← findings_asciiLower,same,findings_asciiLower]
  have diagnostics : ∀ severity, (diagnosticsOf severity (spec.findings config)).map (·.mark) =
      (diagnosticsOf severity (other.findings config)).map (·.mark) := by
    intro severity
    rw [diagnosticsOf_marks,marks,diagnosticsOf_marks]
  have valid := congrArg List.isEmpty (diagnostics .error)
  rw [List.isEmpty_map,List.isEmpty_map] at valid
  rw [lint_findings,lint_findings]
  exact ⟨diagnostics .error,diagnostics .warning,valid⟩

-- The sigma that ends a word is lowered as such in both. The warning quotes the type that it is about.
theorem lint_letters_sigma :
    let document (type data rules eval : Text) : Spec :=
      let landmarks := Dictionary.ofList [(HeaderName.rules,⟨HeaderName.rules,rules,2,0,0⟩),
        (HeaderName.eval,⟨HeaderName.eval,eval,3,0,0⟩)]
      ⟨[⟨[],"f".toList,[],type,landmarks,1⟩],[⟨HeaderName.data,data,5,0,0⟩],[],[]⟩
    let spec := document "List of ΟxΣ".toList "Widget rows".toList "- If a Or b".toList
      "Preserve: PASS^3\nGRADING: Human".toList
    let other := document "lISt oF ΟXΣ".toList "WIDGET Rows".toList "- iF A oR B".toList
      "prESERVE: pass^3\nGrading: hUMAN".toList
    spec.asciiLower = other.asciiLower ∧
      (spec.lint .standard).warnings ≠ (other.lint .standard).warnings ∧
      (spec.lint .standard).errors.map (·.mark) = (other.lint .standard).errors.map (·.mark) ∧
      (spec.lint .standard).warnings.map (·.mark) = (other.lint .standard).warnings.map (·.mark) ∧
      (spec.lint .standard).valid = (other.lint .standard).valid := by
  intro document spec other
  have same : spec.asciiLower = other.asciiLower := by decide +kernel
  exact ⟨same,by decide +kernel,lint_letters .standard same⟩

end SpecLint
