import SpecLint.Check.Field
import SpecLint.Spec.Basic
import SpecLint.Verdict

namespace SpecLint
open Text

-- A baseline names its fields anywhere in its text.
def namesField (content key : Text) : Bool :=
  occurs (key ++ [':']) content || occurs (key ++ [' ', ':']) content

-- `pass^k` or `pass@k` for a number k.
def isThreshold (value : Text) : Bool :=
  match after? "pass".toList value with
  | some (mark :: digits) =>
    (mark == '^' || mark == '@') && !digits.isEmpty && digits.all Char.isDigit
  | _ => false

def gradingKinds : List Text := ["code".toList, "model".toList, "outcome".toList]

-- The fields of an evaluation, each with the value that its block gives it so far.
structure EvalFields where
  preserve : Option Text
  evolve : Option Text
  grading : Option Text
deriving DecidableEq

namespace EvalFields

def start : EvalFields := ⟨none,none,none⟩

-- A line is tried for one key after the other, and its value takes the place of an earlier one.
def readLine (fields : EvalFields) (line : Text) : EvalFields :=
  match fieldValue? "preserve".toList line with
  | some value => { fields with preserve := some value }
  | none =>
    match fieldValue? "evolve".toList line with
    | some value => { fields with evolve := some value }
    | none =>
      match fieldValue? "grading".toList line with
      | some value => { fields with grading := some value }
      | none => fields

def ofContent (content : Text) : EvalFields :=
  (lines content).foldl (fun fields line => fields.readLine (lowercase (trim line))) start

def threshold (fields : EvalFields) : Threshold → Option Text
  | .preserve => fields.preserve
  | .evolve => fields.evolve

end EvalFields

namespace Verdict

def checkBaselineField (content location : Text) (verdict : Verdict) (field : BaselineField) : Verdict :=
  if namesField content field.key then verdict else verdict.error (.missingField field) location

def checkBaseline (content location : Text) (verdict : Verdict) : Verdict :=
  BaselineField.all.foldl (checkBaselineField (lowercase content) location) verdict

def checkThresholdGiven (fields : EvalFields) (location : Text) (verdict : Verdict) (threshold : Threshold) :
    Verdict :=
  if (fields.threshold threshold).isNone then verdict.error (.missingThreshold threshold) location
  else verdict

-- An empty value is allowed: it leaves the threshold open.
def checkThresholdForm (fields : EvalFields) (location : Text) (verdict : Verdict) (threshold : Threshold) :
    Verdict :=
  match fields.threshold threshold with
  | none => verdict
  | some value =>
    if value.isEmpty || isThreshold value then verdict
    else verdict.error (.invalidThreshold threshold value) location

def checkGrading (fields : EvalFields) (location : Text) (verdict : Verdict) : Verdict :=
  match fields.grading with
  | none => verdict
  | some value =>
    if value.isEmpty || gradingKinds.contains value then verdict
    else verdict.error (.invalidGrading value) location

def checkEval (content location : Text) (verdict : Verdict) : Verdict :=
  let fields := EvalFields.ofContent content
  let given := Threshold.all.foldl (checkThresholdGiven fields location) verdict
  checkGrading fields location (Threshold.all.foldl (checkThresholdForm fields location) given)

-- A baseline is only of use beside an evaluation; an evaluation may stand alone.
def checkPaired (hasBaseline hasEval : Bool) (location : Text) (verdict : Verdict) : Verdict :=
  if hasBaseline && !hasEval then verdict.error .missingEval location else verdict

def checkPair (verdict : Verdict) (function : FunctionBlock) : Verdict :=
  let location := function.location
  let hasBaseline := function.has HeaderName.baseline
  let hasEval := function.has HeaderName.eval
  let paired := checkPaired hasBaseline hasEval location verdict
  let based :=
    if hasBaseline then checkBaseline (function.contentOf HeaderName.baseline) location paired
    else paired
  if hasEval then checkEval (function.contentOf HeaderName.eval) location based else based

def checkEvolution (spec : Spec) (verdict : Verdict) : Verdict := spec.functions.foldl checkPair verdict

end Verdict
end SpecLint
