import Mathlib.Data.List.Perm.Basic
import SpecLint.Proofs.Check.Complexity
import SpecLint.Proofs.Check.Evolution
import SpecLint.Proofs.Interleaving
import SpecLint.Proofs.Lint.Order

namespace SpecLint

-- The same document with no other function than this one.
def Spec.only (spec : Spec) (function : FunctionBlock) : Spec := { spec with functions := [function] }

namespace Check

-- What a check says about the document as a whole.
def ofDocument (check : Check) (config : Config) (spec : Spec) : List Finding :=
  match check with
  | functionExists => functionExistsFindings spec
  | complexity => functionCountFindings config spec
  | _ => []

-- What a check says about one function of a document. Of the rest of the document only the blocks
-- of data are looked at.
def ofFunction (check : Check) (config : Config) (spec : Spec) (function : FunctionBlock) :
    List Finding :=
  match check with
  | functionExists => []
  | requiredLandmarks => missingLandmarks function
  | dataReferences =>
    if spec.dataBlocks.isEmpty then []
    else undefinedReferences config (definedTypes spec) function
  | complexity => complexityFindings config function
  | evolution => evolutionFindings function
  | determinism => determinismFindings function

theorem findings_parts (check : Check) (config : Config) (spec : Spec) :
    check.findings config spec =
      check.ofDocument config spec ++ spec.functions.flatMap (check.ofFunction config spec) := by
  cases check with
  | functionExists =>
    have nothing : spec.functions.flatMap (ofFunction .functionExists config spec) = [] :=
      List.flatMap_eq_nil_iff.mpr fun _ _ => rfl
    rw [nothing,List.append_nil]
    rfl
  | dataReferences =>
    change referenceFindings config spec = spec.functions.flatMap _
    unfold referenceFindings
    split
    · rename_i none
      symm
      refine List.flatMap_eq_nil_iff.mpr ?_
      intro function _
      exact if_pos none
    · rename_i some
      refine congrArg spec.functions.flatMap ?_
      funext function
      exact (if_neg some).symm
  | requiredLandmarks => rfl
  | complexity => rfl
  | evolution => rfl
  | determinism => rfl

-- What is said about a function does not depend on the other functions.
theorem ofFunction_others (check : Check) (config : Config) (spec : Spec)
    (functions : List FunctionBlock) :
    check.ofFunction config { spec with functions := functions } = check.ofFunction config spec := by
  cases check <;> rfl

end Check

-- What a single function is told where it is told so: at its own place, or at its determinism.
def Finding.Of (function : FunctionBlock) (finding : Finding) : Prop :=
  finding.fault.code ≠ "W011".toList ∧ finding.location =
    function.location ++ if finding.fault.code = "E070".toList then " DETERMINISM".toList else []

-- Faults that are neither about the level of determinism nor about the number of functions.
def Fault.Plain : Fault → Prop
  | .missingLevel | .invalidLevel _ | .tooManyFunctions .. => False
  | _ => True

theorem Fault.plain_code {fault : Fault} (plain : fault.Plain) :
    fault.code ≠ "W011".toList ∧ fault.code ≠ "E070".toList := by
  cases fault with
  | missingLandmark landmark => cases landmark <;> decide
  | missingField field => cases field <;> decide
  | missingThreshold threshold => cases threshold <;> decide
  | invalidThreshold threshold value => cases threshold <;> exact of_decide_eq_true rfl
  | missingLevel => cases plain
  | invalidLevel level => cases plain
  | tooManyFunctions count limit => cases plain
  | _ => exact of_decide_eq_true rfl

theorem Finding.of_plain {fault : Fault} (plain : fault.Plain) (function : FunctionBlock) :
    Finding.Of function ⟨fault,function.location⟩ := by
  obtain ⟨counted,level⟩ := Fault.plain_code plain
  refine ⟨counted,?_⟩
  rw [if_neg level,List.append_nil]

theorem ruleFaults_plain (config : Config) (rules : Text) :
    ∀ fault ∈ ruleFaults config rules, fault.Plain := by
  intro fault member
  rw [ruleFaults_parts,List.mem_append,List.mem_ite_nil_right,List.mem_singleton] at member
  rcases member with ⟨_,rfl⟩ | long
  · trivial
  · obtain ⟨_,_,rfl⟩ := longRuleFaults_kind config _ _ fault long
    trivial

theorem evolutionFaults_plain (function : FunctionBlock) :
    ∀ fault ∈ evolutionFaults function, fault.Plain := by
  intro fault member
  have kind := evolutionFaults_kind function fault member
  cases fault with
  | missingLevel => cases kind
  | invalidLevel level => cases kind
  | tooManyFunctions count limit => cases kind
  | _ => trivial

theorem levelFaults_code (content : Text) :
    ∀ fault ∈ levelFaults content, fault.code = "E070".toList := by
  intro fault member
  unfold levelFaults at member
  dsimp only at member
  split at member
  · cases List.mem_singleton.mp member
    rfl
  · rw [List.mem_ite_nil_left,List.mem_singleton] at member
    obtain ⟨_,rfl⟩ := member
    rfl

theorem Check.ofFunction_located (check : Check) (config : Config) (spec : Spec)
    (function : FunctionBlock) :
    ∀ finding ∈ check.ofFunction config spec function, finding.Of function := by
  intro finding member
  cases check with
  | functionExists => cases member
  | requiredLandmarks =>
    obtain ⟨landmark,_,rfl⟩ := List.mem_map.mp member
    exact Finding.of_plain (show Fault.Plain (.missingLandmark landmark) from trivial) function
  | dataReferences =>
    rw [ofFunction,List.mem_ite_nil_left,undefinedReferences,List.mem_ite_nil_left,
      List.mem_singleton] at member
    obtain ⟨_,_,rfl⟩ := member
    exact Finding.of_plain (show Fault.Plain (.undefinedType function.returnType) from trivial) function
  | complexity =>
    obtain ⟨fault,inside,rfl⟩ := List.mem_map.mp member
    refine Finding.of_plain ?_ function
    rcases List.mem_append.mp inside with sizes | coverage
    · rcases List.mem_append.mp sizes with inputs | rules
      · obtain ⟨_,_,rfl⟩ := inputFaults_kind _ _ fault inputs
        trivial
      · exact ruleFaults_plain _ _ fault rules
    · obtain ⟨_,_,rfl⟩ := coverageFaults_kind _ _ fault coverage
      trivial
  | evolution =>
    obtain ⟨fault,inside,rfl⟩ := List.mem_map.mp member
    exact Finding.of_plain (evolutionFaults_plain function fault inside) function
  | determinism =>
    rw [ofFunction,determinismFindings,List.mem_ite_nil_right] at member
    obtain ⟨fault,inside,rfl⟩ := List.mem_map.mp member.2
    have level := levelFaults_code _ fault inside
    refine ⟨?_,?_⟩
    · change fault.code ≠ _
      rw [level]
      decide
    · change _ = _ ++ if fault.code = _ then _ else _
      rw [if_pos level]
      rfl

namespace Spec

-- All diagnostics of one kind that the checks have about one function.
def diagnosticsFor (severity : Severity) (config : Config) (spec : Spec) (function : FunctionBlock) :
    List Diagnostic := diagnosticsOf severity (Check.all.flatMap (·.ofFunction config spec function))

-- What is said about the number of functions of a document.
def countDiagnostics (config : Config) (spec : Spec) : List Diagnostic :=
  if config.maxFunctions < spec.functions.length then
    [⟨"W011".toList,(Fault.tooManyFunctions spec.functions.length config.maxFunctions).message,
      "spec".toList⟩]
  else []

theorem diagnosticsFor_only (severity : Severity) (config : Config) (spec : Spec)
    (function : FunctionBlock) : (spec.only function).diagnosticsFor severity config function =
      spec.diagnosticsFor severity config function := by
  simp only [diagnosticsFor,only,Check.ofFunction_others]

theorem mem_diagnosticsFor {severity : Severity} {config : Config} {spec : Spec}
    {function : FunctionBlock} {diagnostic : Diagnostic}
    (member : diagnostic ∈ spec.diagnosticsFor severity config function) :
    diagnostic.code ≠ "W011".toList ∧ diagnostic.location =
      function.location ++ if diagnostic.code = "E070".toList then " DETERMINISM".toList else [] := by
  obtain ⟨finding,kept,rfl⟩ := List.mem_map.mp member
  obtain ⟨check,_,inside⟩ := List.mem_flatMap.mp (List.mem_filter.mp kept).1
  exact check.ofFunction_located config spec function finding inside

-- The checks are the rows of a table, the functions its columns; what is said about the document
-- stands in a column of its own.
theorem findings_interleaved (severity : Severity) (config : Config) (spec : Spec) :
    Interleaved (diagnosticsOf severity (Check.all.flatMap (·.ofDocument config spec)) ::
        spec.functions.map (spec.diagnosticsFor severity config))
      (diagnosticsOf severity (spec.findings config)) := by
  let cell (check : Check) (column : Option FunctionBlock) : List Diagnostic :=
    diagnosticsOf severity
      (column.elim (check.ofDocument config spec) (check.ofFunction config spec))
  have mixed := Interleaved.table Check.all (none :: spec.functions.map some) cell
  have rows : (Check.all.flatMap fun check => (none :: spec.functions.map some).flatMap (cell check)) =
      diagnosticsOf severity (spec.findings config) := by
    rw [findings_all,diagnosticsOf_flatMap]
    refine congrArg Check.all.flatMap ?_
    funext check
    rw [check.findings_parts,diagnosticsOf_append,diagnosticsOf_flatMap,List.flatMap_cons,
      List.flatMap_map]
    rfl
  have columns : ((none :: spec.functions.map some).map fun column => Check.all.flatMap (cell · column)) =
      diagnosticsOf severity (Check.all.flatMap (·.ofDocument config spec)) ::
        spec.functions.map (spec.diagnosticsFor severity config) := by
    rw [List.map_cons,List.map_map,diagnosticsOf_flatMap]
    refine congrArg _ (List.map_congr_left ?_)
    intro function _
    exact (diagnosticsOf_flatMap _ _ _).symm
  rw [rows,columns] at mixed
  exact mixed

theorem lint_diagnostics (config : Config) (spec : Spec) :
    (spec.lint config).errors = diagnosticsOf .error (spec.findings config) ∧
      (spec.lint config).warnings = diagnosticsOf .warning (spec.findings config) := by
  rw [lint_findings]
  exact ⟨rfl,rfl⟩

theorem document_findings (config : Config) {spec : Spec} (some : spec.functions ≠ []) :
    Check.all.flatMap (·.ofDocument config spec) = functionCountFindings config spec := by
  have present : functionExistsFindings spec = [] := if_neg (by simpa using some)
  simp [Check.all,Check.ofFunctions,Check.ofDocument,present]

theorem errors_interleaved (config : Config) {spec : Spec} (some : spec.functions ≠ []) :
    Interleaved (spec.functions.map (spec.diagnosticsFor .error config)) (spec.lint config).errors := by
  have mixed := findings_interleaved .error config spec
  have nothing : diagnosticsOf .error (functionCountFindings config spec) = [] := by
    unfold functionCountFindings
    dsimp only
    split <;> rfl
  rw [document_findings config some,nothing,← (lint_diagnostics config spec).1] at mixed
  exact mixed.of_cons_empty

theorem warnings_interleaved (config : Config) {spec : Spec} (some : spec.functions ≠ []) :
    Interleaved (spec.countDiagnostics config ::
      spec.functions.map (spec.diagnosticsFor .warning config)) (spec.lint config).warnings := by
  have mixed := findings_interleaved .warning config spec
  have count : diagnosticsOf .warning (functionCountFindings config spec) =
      spec.countDiagnostics config := by
    unfold functionCountFindings countDiagnostics
    dsimp only
    split <;> rfl
  rw [document_findings config some,count,← (lint_diagnostics config spec).2] at mixed
  exact mixed

theorem only_errors (config : Config) (spec : Spec) (function : FunctionBlock) :
    ((spec.only function).lint config).errors = spec.diagnosticsFor .error config function := by
  have some : (spec.only function).functions ≠ [] := List.cons_ne_nil _ _
  rw [← diagnosticsFor_only]
  exact (errors_interleaved config some).single

theorem only_warnings (config : Config) (spec : Spec) (function : FunctionBlock) :
    ((spec.only function).lint config).warnings.filter (·.code ≠ "W011".toList) =
      spec.diagnosticsFor .warning config function := by
  have some : (spec.only function).functions ≠ [] := List.cons_ne_nil _ _
  have count : ((spec.only function).countDiagnostics config).filter (·.code ≠ "W011".toList) = [] := by
    unfold countDiagnostics
    split <;> rfl
  have own : ((spec.only function).diagnosticsFor .warning config function).filter
      (·.code ≠ "W011".toList) = (spec.only function).diagnosticsFor .warning config function := by
    refine List.filter_eq_self.mpr ?_
    intro diagnostic member
    exact decide_eq_true (mem_diagnosticsFor member).1
  have mixed := (warnings_interleaved config some).filter (·.code ≠ "W011".toList)
  change Interleaved [_,_] _ at mixed
  rw [count,own,diagnosticsFor_only] at mixed
  exact mixed.of_cons_empty.single

theorem lint_reordered (config : Config) (spec : Spec) {functions : List FunctionBlock}
    (same : functions.Perm spec.functions) :
    (({ spec with functions := functions } : Spec).lint config).Reordered (spec.lint config) := by
  have each : ∀ check : Check, (check.findings config { spec with functions := functions }).Perm
      (check.findings config spec) := by
    intro check
    have document : check.ofDocument config { spec with functions := functions } =
        check.ofDocument config spec := by
      cases check with
      | functionExists =>
        simp only [Check.ofDocument,functionExistsFindings,same.isEmpty_eq]
      | complexity => simp only [Check.ofDocument,functionCountFindings,same.length_eq]
      | _ => rfl
    rw [check.findings_parts,check.findings_parts,document,check.ofFunction_others]
    exact (same.flatMap_right _).append_left _
  have found : (Spec.findings config { spec with functions := functions }).Perm (spec.findings config) :=
    List.Perm.flatMap_left Check.all fun check _ => each check
  have errors := diagnosticsOf_perm found .error
  rw [lint_findings,lint_findings]
  exact ⟨errors.isEmpty_eq,errors,diagnosticsOf_perm found .warning⟩

end Spec

-- A document with functions is told what each of them would be told alone, and beside that only
-- that there are too many of them.
theorem lint_local (config : Config) {spec : Spec} (some : spec.functions ≠ []) :
    let alone := fun function => (spec.only function).lint config
    let own := fun function => (alone function).warnings.filter (·.code ≠ "W011".toList)
    (Interleaved (spec.functions.map fun function => (alone function).errors)
        (spec.lint config).errors ∧
      (spec.lint config).errors.Perm (spec.functions.flatMap fun function => (alone function).errors)) ∧
    (Interleaved (spec.countDiagnostics config :: spec.functions.map own) (spec.lint config).warnings ∧
      (spec.lint config).warnings.Perm (spec.countDiagnostics config ++ spec.functions.flatMap own)) ∧
    (∀ diagnostic ∈ (spec.lint config).errors ++ (spec.lint config).warnings,
      diagnostic.code ≠ "W011".toList → ∃ function ∈ spec.functions,
        diagnostic ∈ (alone function).errors ++ own function ∧ diagnostic.location =
          function.location ++ if diagnostic.code = "E070".toList then " DETERMINISM".toList else []) ∧
    ∀ functions : List FunctionBlock, functions.Perm spec.functions →
      (({ spec with functions := functions } : Spec).lint config).Reordered (spec.lint config) := by
  intro alone own
  have errorsAlone : (fun function => (alone function).errors) = spec.diagnosticsFor .error config :=
    funext fun function => spec.only_errors config function
  have warningsAlone : own = spec.diagnosticsFor .warning config :=
    funext fun function => spec.only_warnings config function
  have errors := Spec.errors_interleaved config some
  have warnings := Spec.warnings_interleaved config some
  rw [errorsAlone,warningsAlone]
  refine ⟨⟨errors,errors.perm⟩,⟨warnings,warnings.perm⟩,?_,fun _ same => spec.lint_reordered config same⟩
  intro diagnostic member other
  rcases List.mem_append.mp member with error | warning
  · obtain ⟨function,inSpec,inside⟩ := List.mem_flatMap.mp (errors.perm.mem_iff.mp error)
    refine ⟨function,inSpec,?_,(Spec.mem_diagnosticsFor inside).2⟩
    exact List.mem_append_left _ (spec.only_errors config function ▸ inside)
  · rcases List.mem_append.mp (warnings.perm.mem_iff.mp warning) with count | own
    · unfold Spec.countDiagnostics at count
      split at count
      · cases List.mem_singleton.mp count
        exact absurd rfl other
      · cases count
    · obtain ⟨function,inSpec,inside⟩ := List.mem_flatMap.mp own
      exact ⟨function,inSpec,List.mem_append_right _ inside,(Spec.mem_diagnosticsFor inside).2⟩

-- Two functions with errors and warnings of several checks, and one function too many.
theorem lint_local_pair :
    let config := { Config.standard with maxFunctions := 1 }
    let spec := Spec.ofText config.vocabulary
      "DATA: Thing\nFUNCTION: f() → Widget\nDETERMINISM: loose\nFUNCTION: g(a) → Gadget\nRULES: - if a".toList
    let codes := fun diagnostics : List Diagnostic => diagnostics.map fun diagnostic =>
      (String.ofList diagnostic.code,String.ofList diagnostic.location)
    spec.functions ≠ [] ∧
      Interleaved (spec.functions.map fun function => ((spec.only function).lint config).errors)
        (spec.lint config).errors ∧
      Interleaved (spec.countDiagnostics config :: spec.functions.map fun function =>
        ((spec.only function).lint config).warnings.filter (·.code ≠ "W011".toList))
        (spec.lint config).warnings ∧
      codes (spec.lint config).errors =
        [("E002","FUNCTION f"), ("E003","FUNCTION f"), ("E004","FUNCTION f"), ("E005","FUNCTION f"),
          ("E003","FUNCTION g"), ("E004","FUNCTION g"), ("E005","FUNCTION g"),
          ("E070","FUNCTION f DETERMINISM")] ∧
      codes (spec.lint config).warnings =
        [("E006","FUNCTION f"), ("E006","FUNCTION g"), ("W011","spec")] := by
  intro config spec codes
  have some : spec.functions ≠ [] := by decide +kernel
  obtain ⟨⟨errors,_⟩,⟨warnings,_⟩,_⟩ := lint_local config some
  refine ⟨some,errors,warnings,?_,?_⟩
  · decide +kernel
  · decide +kernel

end SpecLint
