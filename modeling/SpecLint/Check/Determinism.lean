import SpecLint.Check.Field
import SpecLint.Spec.Basic
import SpecLint.Verdict

namespace SpecLint
open Text

def determinismLevels : List Text := ["strict".toList, "structural".toList, "semantic".toList]

namespace Verdict

-- A level without a value counts as missing.
def checkLevel (content location : Text) (verdict : Verdict) : Verdict :=
  let level := (lastField? "level".toList content).getD []
  if level.isEmpty then verdict.error .missingLevel location
  else if determinismLevels.contains level then verdict
  else verdict.error (.invalidLevel level) location

def checkDeclared (verdict : Verdict) (function : FunctionBlock) : Verdict :=
  if function.has HeaderName.determinism then
    let location := function.location ++ ' ' :: HeaderName.determinism
    checkLevel (function.contentOf HeaderName.determinism) location verdict
  else verdict

def checkDeterminism (spec : Spec) (verdict : Verdict) : Verdict :=
  spec.functions.foldl checkDeclared verdict

end Verdict
end SpecLint
