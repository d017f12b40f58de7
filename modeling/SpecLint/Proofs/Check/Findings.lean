import SpecLint.Check.Suite
import SpecLint.Proofs.Verdict

namespace SpecLint
open Text

def functionExistsFindings (spec : Spec) : List Finding :=
  if spec.functions.isEmpty then [.ofSpec .noFunction] else []

def missingLandmarks (function : FunctionBlock) : List Finding :=
  (Required.all.filter (!function.has ·.name)).map fun landmark =>
    ⟨.missingLandmark landmark,function.location⟩

def undefinedReferences (config : Config) (defined : List Text) (function : FunctionBlock) :
    List Finding :=
  if function.returnType.isEmpty || isKnownType config defined function.returnType then []
  else [⟨.undefinedType function.returnType,function.location⟩]

def referenceFindings (config : Config) (spec : Spec) : List Finding :=
  if spec.dataBlocks.isEmpty then []
  else spec.functions.flatMap (undefinedReferences config (definedTypes spec))

def functionCountFindings (config : Config) (spec : Spec) : List Finding :=
  let count := spec.functions.length
  if count > config.maxFunctions then [.ofSpec (.tooManyFunctions count config.maxFunctions)]
  else []

def inputFaults (config : Config) (inputs : List Text) : List Fault :=
  if inputs.length > config.maxInputs then [.tooManyInputs inputs.length config.maxInputs] else []

def longRuleFaults (config : Config) (position : Nat) : (items : List Text) → List Fault
  | [] => []
  | item :: rest =>
    let later := longRuleFaults config (position + 1) rest
    if item.length > config.maxRuleLength then
      .longRule position config.maxRuleLength item.length :: later
    else later

def ruleFaults (config : Config) (rules : Text) : List Fault :=
  if rules.isEmpty then []
  else
    let items := ruleItems rules
    (if items.length > config.maxRules then [.tooManyRules items.length config.maxRules] else []) ++
      longRuleFaults config 1 items

def coverageFaults (rules examples : Text) : List Fault :=
  if rules.isEmpty || examples.isEmpty || branchCount rules ≤ exampleCount examples then []
  else [.tooFewExamples (exampleCount examples) (branchCount rules)]

def complexityFindings (config : Config) (function : FunctionBlock) : List Finding :=
  let rules := function.contentOf HeaderName.rules
  let examples := function.contentOf HeaderName.examples
  let faults := inputFaults config function.inputs ++ ruleFaults config rules ++
    coverageFaults rules examples
  faults.map (⟨·,function.location⟩)

def baselineFaults (content : Text) : List Fault :=
  (BaselineField.all.filter (!namesField (lowercase content) ·.key)).map .missingField

def thresholdMissing (fields : EvalFields) (threshold : Threshold) : List Fault :=
  if (fields.threshold threshold).isNone then [.missingThreshold threshold] else []

def thresholdInvalid (fields : EvalFields) (threshold : Threshold) : List Fault :=
  match fields.threshold threshold with
  | none => []
  | some value =>
    if value.isEmpty || isThreshold value then [] else [.invalidThreshold threshold value]

def gradingFaults (fields : EvalFields) : List Fault :=
  match fields.grading with
  | none => []
  | some value =>
    if value.isEmpty || gradingKinds.contains value then [] else [.invalidGrading value]

def evalFaults (content : Text) : List Fault :=
  let fields := EvalFields.ofContent content
  Threshold.all.flatMap (thresholdMissing fields) ++ Threshold.all.flatMap (thresholdInvalid fields) ++
    gradingFaults fields

def evolutionFaults (function : FunctionBlock) : List Fault :=
  let hasBaseline := function.has HeaderName.baseline
  let hasEval := function.has HeaderName.eval
  (if hasBaseline && !hasEval then [.missingEval] else []) ++
    (if hasBaseline then baselineFaults (function.contentOf HeaderName.baseline) else []) ++
    (if hasEval then evalFaults (function.contentOf HeaderName.eval) else [])

def evolutionFindings (function : FunctionBlock) : List Finding :=
  (evolutionFaults function).map (⟨·,function.location⟩)

def levelFaults (content : Text) : List Fault :=
  let level := (lastField? "level".toList content).getD []
  if level.isEmpty then [.missingLevel]
  else if determinismLevels.contains level then []
  else [.invalidLevel level]

def determinismFindings (function : FunctionBlock) : List Finding :=
  if function.has HeaderName.determinism then
    let location := function.location ++ ' ' :: HeaderName.determinism
    (levelFaults (function.contentOf HeaderName.determinism)).map (⟨·,location⟩)
  else []

namespace Verdict

theorem record_functionExists (spec : Spec) (verdict : Verdict) :
    verdict.checkFunctionExists spec = verdict.record (functionExistsFindings spec) :=
  record_if _ (record_error rfl _ verdict).symm verdict.record_nil.symm

theorem record_landmarks (verdict : Verdict) (function : FunctionBlock) :
    verdict.checkLandmarks function = verdict.record (missingLandmarks function) := by
  refine foldl_record_unless ?_ Required.all verdict
  intro verdict landmark
  rw [checkLandmark,record_error (by rfl)]

theorem record_reference (config : Config) (defined : List Text) (verdict : Verdict) (function : FunctionBlock) :
    verdict.checkReference config defined function =
      verdict.record (undefinedReferences config defined function) :=
  record_if _ verdict.record_nil.symm (record_warning rfl _ verdict).symm

theorem record_dataReferences (config : Config) (spec : Spec) (verdict : Verdict) :
    verdict.checkDataReferences config spec = verdict.record (referenceFindings config spec) :=
  record_if _ verdict.record_nil.symm (foldl_record (record_reference config _) spec.functions verdict)

theorem record_functionCount (config : Config) (spec : Spec) (verdict : Verdict) :
    verdict.checkFunctionCount config spec.functions.length =
      verdict.record (functionCountFindings config spec) :=
  record_if _ (record_warning rfl _ verdict).symm verdict.record_nil.symm

theorem record_inputs (config : Config) (inputs : List Text) (location : Text) (verdict : Verdict) :
    verdict.checkInputs config inputs location =
      verdict.record ((inputFaults config inputs).map (⟨·,location⟩)) :=
  error_when rfl _ location verdict

theorem record_ruleLengths (config : Config) (location : Text) (position : Nat) (items : List Text)
    (verdict : Verdict) : checkRuleLengths config location position items verdict =
      verdict.record ((longRuleFaults config position items).map (⟨·,location⟩)) := by
  induction items generalizing position verdict with
  | nil => exact verdict.record_nil.symm
  | cons item rest ih =>
    rw [checkRuleLengths,ih,longRuleFaults]
    split
    · rw [← record_warning rfl,record_append,List.map_cons]
      rfl
    · rfl

theorem record_rules (config : Config) (rules location : Text) (verdict : Verdict) :
    verdict.checkRules config rules location =
      verdict.record ((ruleFaults config rules).map (⟨·,location⟩)) := by
  unfold checkRules ruleFaults
  split
  · exact verdict.record_nil.symm
  · dsimp only
    rw [record_ruleLengths,checkRuleCount,error_when rfl,record_append,← List.map_append]

theorem record_coverage (rules examples location : Text) (verdict : Verdict) :
    verdict.checkCoverage rules examples location =
      verdict.record ((coverageFaults rules examples).map (⟨·,location⟩)) := by
  unfold checkCoverage coverageFaults
  rw [← error_unless rfl]
  cases rules.isEmpty || examples.isEmpty with
  | true => rfl
  | false => simp only [Bool.false_or,Bool.false_eq_true,if_false,decide_eq_true_eq,← Nat.not_lt,ite_not]

theorem record_sizes (config : Config) (verdict : Verdict) (function : FunctionBlock) :
    verdict.checkSizes config function = verdict.record (complexityFindings config function) := by
  rw [checkSizes,record_coverage,record_rules,record_inputs,complexityFindings,List.map_append,List.map_append,
    ← record_append,← record_append]

theorem record_complexity (config : Config) (spec : Spec) (verdict : Verdict) :
    verdict.checkComplexity config spec = verdict.record
      (functionCountFindings config spec ++ spec.functions.flatMap (complexityFindings config)) := by
  rw [checkComplexity,record_functionCount,foldl_record (record_sizes config),record_append]

theorem record_baseline (content location : Text) (verdict : Verdict) :
    verdict.checkBaseline content location =
      verdict.record ((baselineFaults content).map (⟨·,location⟩)) := by
  rw [baselineFaults,List.map_map]
  refine foldl_record_unless ?_ BaselineField.all verdict
  intro verdict field
  rw [checkBaselineField,← record_error rfl]
  rfl

theorem record_thresholdGiven (fields : EvalFields) (location : Text) (verdict : Verdict)
    (threshold : Threshold) : verdict.checkThresholdGiven fields location threshold =
      verdict.record ((thresholdMissing fields threshold).map (⟨·,location⟩)) :=
  error_when rfl _ location verdict

theorem record_thresholdForm (fields : EvalFields) (location : Text) (verdict : Verdict)
    (threshold : Threshold) : verdict.checkThresholdForm fields location threshold =
      verdict.record ((thresholdInvalid fields threshold).map (⟨·,location⟩)) := by
  unfold checkThresholdForm thresholdInvalid
  cases fields.threshold threshold with
  | none => exact verdict.record_nil.symm
  | some value => exact error_unless rfl _ location verdict

theorem record_grading (fields : EvalFields) (location : Text) (verdict : Verdict) :
    verdict.checkGrading fields location = verdict.record ((gradingFaults fields).map (⟨·,location⟩)) := by
  unfold checkGrading gradingFaults
  cases fields.grading with
  | none => exact verdict.record_nil.symm
  | some value => exact error_unless rfl _ location verdict

theorem record_eval (content location : Text) (verdict : Verdict) :
    verdict.checkEval content location = verdict.record ((evalFaults content).map (⟨·,location⟩)) := by
  rw [checkEval,foldl_record (record_thresholdGiven _ location),foldl_record (record_thresholdForm _ location),
    record_grading,record_append,record_append,evalFaults,List.map_append,List.map_append,List.map_flatMap,
    List.map_flatMap,List.append_assoc]

-- A block that is not there has nothing recorded of it.
theorem record_present {pass : Verdict → Verdict} {faults : List Fault} {location : Text}
    (each : ∀ verdict, pass verdict = verdict.record (faults.map (⟨·,location⟩))) (present : Bool)
    (verdict : Verdict) : (if present then pass verdict else verdict) =
      verdict.record ((if present then faults else []).map (⟨·,location⟩)) := by
  rw [apply_ite (List.map _)]
  exact record_if _ (each verdict) verdict.record_nil.symm

theorem record_pair (verdict : Verdict) (function : FunctionBlock) :
    verdict.checkPair function = verdict.record (evolutionFindings function) := by
  rw [checkPair,record_present (record_eval _ _),record_present (record_baseline _ _),checkPaired,error_when rfl,
    record_append,record_append,evolutionFindings,evolutionFaults,List.map_append,List.map_append,
    List.append_assoc]

theorem record_level (content location : Text) (verdict : Verdict) :
    verdict.checkLevel content location = verdict.record ((levelFaults content).map (⟨·,location⟩)) := by
  rw [levelFaults,apply_ite (List.map _),apply_ite (List.map _)]
  refine record_if _ (record_error rfl _ verdict).symm ?_
  exact record_if _ verdict.record_nil.symm (record_error rfl _ verdict).symm

theorem record_declared (verdict : Verdict) (function : FunctionBlock) :
    verdict.checkDeclared function = verdict.record (determinismFindings function) :=
  record_if _ (record_level _ _ verdict) verdict.record_nil.symm

end Verdict

namespace Check

-- What a check finds in a document, in the order in which it says so.
def findings (check : Check) (config : Config) (spec : Spec) : List Finding :=
  match check with
  | functionExists => functionExistsFindings spec
  | requiredLandmarks => spec.functions.flatMap missingLandmarks
  | dataReferences => referenceFindings config spec
  | complexity =>
    functionCountFindings config spec ++ spec.functions.flatMap (complexityFindings config)
  | evolution => spec.functions.flatMap evolutionFindings
  | determinism => spec.functions.flatMap determinismFindings

-- A check says of every verdict the same, behind what the verdict says already.
theorem record_findings (check : Check) (config : Config) (spec : Spec) (verdict : Verdict) :
    check.record config spec verdict = verdict.record (check.findings config spec) := by
  cases check with
  | functionExists => exact Verdict.record_functionExists spec verdict
  | requiredLandmarks => exact Verdict.foldl_record Verdict.record_landmarks spec.functions verdict
  | dataReferences => exact Verdict.record_dataReferences config spec verdict
  | complexity => exact Verdict.record_complexity config spec verdict
  | evolution => exact Verdict.foldl_record Verdict.record_pair spec.functions verdict
  | determinism => exact Verdict.foldl_record Verdict.record_declared spec.functions verdict

end Check
end SpecLint
