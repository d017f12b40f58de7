import SpecLint.Spec.Basic
import SpecLint.Verdict

namespace SpecLint.Verdict

def checkFunctionExists (spec : Spec) (verdict : Verdict) : Verdict :=
  if spec.functions.isEmpty then verdict.error .noFunction specLocation else verdict

def checkLandmark (function : FunctionBlock) (verdict : Verdict) (landmark : Required) : Verdict :=
  if function.has landmark.name then verdict
  else verdict.error (.missingLandmark landmark) function.location

def checkLandmarks (verdict : Verdict) (function : FunctionBlock) : Verdict :=
  Required.all.foldl (checkLandmark function) verdict

def checkRequiredLandmarks (spec : Spec) (verdict : Verdict) : Verdict :=
  spec.functions.foldl checkLandmarks verdict

end SpecLint.Verdict
