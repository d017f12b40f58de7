import SpecLint.Config
import SpecLint.Rules.Branches
import SpecLint.Rules.Items
import SpecLint.Spec.Basic
import SpecLint.Verdict

namespace SpecLint.Verdict
open Text

def checkFunctionCount (config : Config) (count : Nat) (verdict : Verdict) : Verdict :=
  if count > config.maxFunctions then
    verdict.warning (.tooManyFunctions count config.maxFunctions) specLocation
  else verdict

def checkInputs (config : Config) (inputs : List Text) (location : Text) (verdict : Verdict) : Verdict :=
  if inputs.length > config.maxInputs then
    verdict.error (.tooManyInputs inputs.length config.maxInputs) location
  else verdict

-- Lengths are counted in characters and positions from one.
def checkRuleLengths (config : Config) (location : Text) :
    (position : Nat) → (items : List Text) → Verdict → Verdict
  | _, [], verdict => verdict
  | position, item :: rest, verdict =>
    checkRuleLengths config location (position + 1) rest
      (if item.length > config.maxRuleLength then
        verdict.warning (.longRule position config.maxRuleLength item.length) location
      else verdict)

def checkRuleCount (config : Config) (count : Nat) (location : Text) (verdict : Verdict) : Verdict :=
  if count > config.maxRules then verdict.error (.tooManyRules count config.maxRules) location
  else verdict

def checkRules (config : Config) (rules location : Text) (verdict : Verdict) : Verdict :=
  if rules.isEmpty then verdict
  else
    let items := ruleItems rules
    checkRuleLengths config location 1 items (checkRuleCount config items.length location verdict)

-- Every branch of the rules asks for an example. An empty block is reported as missing or not at
-- all, never here.
def checkCoverage (rules examples location : Text) (verdict : Verdict) : Verdict :=
  if rules.isEmpty || examples.isEmpty then verdict
  else if exampleCount examples < branchCount rules then
    verdict.error (.tooFewExamples (exampleCount examples) (branchCount rules)) location
  else verdict

def checkSizes (config : Config) (verdict : Verdict) (function : FunctionBlock) : Verdict :=
  let location := function.location
  let rules := function.contentOf HeaderName.rules
  let examples := function.contentOf HeaderName.examples
  let sized := checkRules config rules location (checkInputs config function.inputs location verdict)
  checkCoverage rules examples location sized

def checkComplexity (config : Config) (spec : Spec) (verdict : Verdict) : Verdict :=
  spec.functions.foldl (checkSizes config) (checkFunctionCount config spec.functions.length verdict)

end SpecLint.Verdict
