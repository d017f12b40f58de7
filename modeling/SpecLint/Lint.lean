import SpecLint.Check.Suite
import SpecLint.Spec.Parse

namespace SpecLint

-- Without any function there is nothing else to say about a document.
def Spec.lint (config : Config) (spec : Spec) : Verdict :=
  let opened := Check.functionExists.record config spec .start
  if spec.functions.isEmpty then opened.judge
  else
    let step (verdict : Verdict) (check : Check) := check.record config spec verdict
    (Check.ofFunctions.foldl step opened).judge

def lintText (config : Config) (text : Text) : Verdict :=
  (Spec.ofText config.vocabulary text).lint config

end SpecLint
