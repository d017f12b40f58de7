import SpecLint.Landmark.Header
import SpecLint.Text.Lowercase
import SpecLint.WordSet

namespace SpecLint
open Text

-- The words a document is read with: the landmarks that attach to a function, and the return
-- types that need no definition. Types are looked up in lowercase.
structure Vocabulary where
  functionLandmarks : WordSet
  builtinTypes : WordSet
deriving DecidableEq

namespace Vocabulary

def defaultFunctionLandmarks : WordSet := .ofList
  [HeaderName.rules, HeaderName.doneWhen, HeaderName.examples, HeaderName.errors,
   "READS".toList, "WRITES".toList, "TRIGGERS".toList, "NOT_ALLOWED".toList, "HANDOFF".toList,
   "UNCERTAIN".toList, HeaderName.baseline, HeaderName.eval, HeaderName.determinism]

def defaultBuiltinTypes : WordSet := .ofList
  ["string".toList, "int".toList, "integer".toList, "number".toList, "bool".toList,
   "boolean".toList, "float".toList, "double".toList, "list".toList, "array".toList, "map".toList,
   "dict".toList, "any".toList, "void".toList, "none".toList, "null".toList, "result".toList,
   "output".toList, "sum".toList, "filtered".toList, "valid".toList, "issues".toList,
   "timestamp".toList, "id".toList]

def standard : Vocabulary := ⟨defaultFunctionLandmarks,defaultBuiltinTypes⟩

def isFunctionLandmark (vocabulary : Vocabulary) (name : Text) : Bool :=
  vocabulary.functionLandmarks.contains name

def isBuiltinType (vocabulary : Vocabulary) (name : Text) : Bool :=
  vocabulary.builtinTypes.contains name

def withBuiltinTypes (vocabulary : Vocabulary) (types : List Text) : Vocabulary :=
  { vocabulary with builtinTypes := .ofList (types.map lowercase) }

end Vocabulary
end SpecLint
