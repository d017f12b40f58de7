import SpecLint.Landmark.Header

namespace SpecLint
open Text

inductive Severity where
  | error
  | warning
deriving DecidableEq

inductive Required where
  | rules
  | doneWhen
  | examples
  | errors
deriving DecidableEq

namespace Required

def all : List Required := [.rules, .doneWhen, .examples, .errors]

def name : Required → Text
  | rules => HeaderName.rules
  | doneWhen => HeaderName.doneWhen
  | examples => HeaderName.examples
  | errors => HeaderName.errors

def code : Required → Text
  | rules => "E002".toList
  | doneWhen => "E003".toList
  | examples => "E004".toList
  | errors => "E005".toList

end Required

inductive BaselineField where
  | reference
  | preserve
  | evolve
deriving DecidableEq

namespace BaselineField

def all : List BaselineField := [.reference, .preserve, .evolve]

def key : BaselineField → Text
  | reference => "reference".toList
  | preserve => "preserve".toList
  | evolve => "evolve".toList

def code : BaselineField → Text
  | reference => "E050".toList
  | preserve => "E051".toList
  | evolve => "E052".toList

end BaselineField

inductive Threshold where
  | preserve
  | evolve
deriving DecidableEq

namespace Threshold

def all : List Threshold := [.preserve, .evolve]

def key : Threshold → Text
  | preserve => "preserve".toList
  | evolve => "evolve".toList

def absentCode : Threshold → Text
  | preserve => "E061".toList
  | evolve => "E062".toList

def invalidCode : Threshold → Text
  | preserve => "E063".toList
  | evolve => "E064".toList

end Threshold

-- What can be wrong with a document, with the values that its message names.
inductive Fault where
  | unreadable (reason : Text)
  | noFunction
  | missingLandmark (landmark : Required)
  | undefinedType (type : Text)
  | tooManyRules (count limit : Nat)
  | tooManyInputs (count limit : Nat)
  | tooFewExamples (examples branches : Nat)
  | longRule (position limit length : Nat)
  | tooManyFunctions (count limit : Nat)
  | missingField (field : BaselineField)
  | missingEval
  | missingThreshold (threshold : Threshold)
  | invalidThreshold (threshold : Threshold) (value : Text)
  | invalidGrading (value : Text)
  | missingLevel
  | invalidLevel (level : Text)
deriving DecidableEq

namespace Fault

def code : Fault → Text
  | unreadable _ => "E000".toList
  | noFunction => "E001".toList
  | missingLandmark landmark => landmark.code
  | undefinedType _ => "E006".toList
  | tooManyRules .. => "E010".toList
  | tooManyInputs .. => "E011".toList
  | tooFewExamples .. => "E012".toList
  | longRule .. => "W010".toList
  | tooManyFunctions .. => "W011".toList
  | missingField field => field.code
  | missingEval => "E060".toList
  | missingThreshold threshold => threshold.absentCode
  | invalidThreshold threshold _ => threshold.invalidCode
  | invalidGrading _ => "E065".toList
  | missingLevel | invalidLevel _ => "E070".toList

def message : Fault → Text
  | unreadable reason => "Failed to read file: ".toList ++ reason
  | noFunction => "No FUNCTION block found".toList
  | missingLandmark landmark => "FUNCTION missing ".toList ++ landmark.name ++ " landmark".toList
  | undefinedType type =>
    "Return type '".toList ++ type ++ "' may reference undefined DATA type".toList
  | tooManyRules count limit =>
    "RULES block has ".toList ++ decimal count ++ " items (max ".toList ++ decimal limit ++ [')']
  | tooManyInputs count limit =>
    "FUNCTION has ".toList ++ decimal count ++ " inputs (max ".toList ++ decimal limit ++ [')']
  | tooFewExamples examples branches =>
    "EXAMPLES has ".toList ++ decimal examples ++ " items but RULES has ".toList ++
      decimal branches ++ " branches".toList
  | longRule position limit length =>
    "RULES item ".toList ++ decimal position ++ " exceeds ".toList ++ decimal limit ++
      " characters (".toList ++ decimal length ++ " chars)".toList
  | tooManyFunctions count limit =>
    "Spec has ".toList ++ decimal count ++ " FUNCTION blocks (max recommended: ".toList ++
      decimal limit ++ [')']
  | missingField field => "BASELINE missing '".toList ++ field.key ++ "' field".toList
  | missingEval => "BASELINE present without EVAL landmark".toList
  | missingThreshold threshold => "EVAL missing '".toList ++ threshold.key ++ "' threshold".toList
  | invalidThreshold threshold value =>
    "Invalid ".toList ++ threshold.key ++ " threshold '".toList ++ value ++
      "' (expected pass^k or pass@k)".toList
  | invalidGrading value =>
    "Invalid grading type '".toList ++ value ++ "' (expected: code, model, or outcome)".toList
  | missingLevel => "DETERMINISM requires level field (strict, structural, or semantic)".toList
  | invalidLevel level =>
    "DETERMINISM level must be strict, structural, or semantic, got: ".toList ++ level

end Fault
end SpecLint
