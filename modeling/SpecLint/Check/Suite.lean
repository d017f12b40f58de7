import SpecLint.Check.Complexity
import SpecLint.Check.Determinism
import SpecLint.Check.Evolution
import SpecLint.Check.References
import SpecLint.Check.Structure

namespace SpecLint

inductive Check where
  | functionExists
  | requiredLandmarks
  | dataReferences
  | complexity
  | evolution
  | determinism
deriving DecidableEq

namespace Check

-- What a check leaves behind when it has gone over a document: only more errors and warnings.
def record (check : Check) (config : Config) (spec : Spec) (verdict : Verdict) : Verdict :=
  match check with
  | functionExists => verdict.checkFunctionExists spec
  | requiredLandmarks => verdict.checkRequiredLandmarks spec
  | dataReferences => verdict.checkDataReferences config spec
  | complexity => verdict.checkComplexity config spec
  | evolution => verdict.checkEvolution spec
  | determinism => verdict.checkDeterminism spec

def ofFunctions : List Check :=
  [.requiredLandmarks, .dataReferences, .complexity, .evolution, .determinism]

end Check

end SpecLint
