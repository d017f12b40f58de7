import SpecLint.Config
import SpecLint.Spec.Basic
import SpecLint.Verdict

namespace SpecLint
open Text

namespace TypeName

def collections : List Text := ["listof".toList, "arrayof".toList, "setof".toList]

-- The element type of a collection. A name that is nothing but the word stays as it is.
def element? (name : Text) : Option Text :=
  collections.findSome? fun collection => (after? collection name).filter (!·.isEmpty)

-- Type names are compared in lowercase, without blanks and underscores, and by their elements.
def normalize (name : Text) : Text :=
  let compact := (lowercase name).filter fun c => !isBlank c && c != '_'
  (element? compact).getD compact

end TypeName

-- A block of data defines the type that its first word names.
def definedTypes (spec : Spec) : List Text :=
  (spec.dataBlocks.filterMap (firstWord? ·.content)).map lowercase

-- A defined name with underscores is met by the return type as it is written.
def isKnownType (config : Config) (defined : List Text) (type : Text) : Bool :=
  config.vocabulary.isBuiltinType (TypeName.normalize type) ||
    defined.contains (TypeName.normalize type) || defined.contains (lowercase type)

namespace Verdict

def checkReference (config : Config) (defined : List Text) (verdict : Verdict) (function : FunctionBlock) :
    Verdict :=
  if function.returnType.isEmpty || isKnownType config defined function.returnType then verdict
  else verdict.warning (.undefinedType function.returnType) function.location

-- A document that defines no data is not expected to define its types.
def checkDataReferences (config : Config) (spec : Spec) (verdict : Verdict) : Verdict :=
  if spec.dataBlocks.isEmpty then verdict
  else spec.functions.foldl (checkReference config (definedTypes spec)) verdict

end Verdict
end SpecLint
