import SpecLint.Dictionary
import SpecLint.Landmark.Scan

namespace SpecLint

-- A function of a document: its signature and the landmarks attached to it, by name.
structure FunctionBlock where
  signature : Text
  name : Text
  inputs : List Text
  returnType : Text
  landmarks : Dictionary Landmark
  lineNumber : Nat
deriving DecidableEq

namespace FunctionBlock

def has (function : FunctionBlock) (name : Text) : Bool := function.landmarks.contains name

-- A landmark that is not attached reads like an empty one.
def contentOf (function : FunctionBlock) (name : Text) : Text :=
  ((function.landmarks.get? name).map (·.content)).getD []

def location (function : FunctionBlock) : Text :=
  "FUNCTION ".toList ++ if function.name.isEmpty then "(unnamed)".toList else function.name

end FunctionBlock

structure Spec where
  functions : List FunctionBlock
  dataBlocks : List Landmark
  constraints : List Landmark
  rawText : Text
deriving DecidableEq

def Spec.isEmpty (spec : Spec) : Bool :=
  spec.functions.isEmpty && spec.dataBlocks.isEmpty && spec.constraints.isEmpty

end SpecLint
