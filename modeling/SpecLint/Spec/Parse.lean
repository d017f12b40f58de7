import SpecLint.Signature
import SpecLint.Spec.Basic
import SpecLint.Vocabulary

namespace SpecLint

namespace FunctionBlock

def ofHeader (header : Landmark) : FunctionBlock :=
  let signature := Signature.ofContent header.content
  { signature := signature.line
    name := signature.name
    inputs := signature.inputs
    returnType := signature.returnType
    landmarks := .empty
    lineNumber := header.lineNumber }

-- Of a repeated name the last one stays.
def attach (function : FunctionBlock) (landmark : Landmark) : FunctionBlock :=
  { function with landmarks := function.landmarks.insert landmark.name landmark }

end FunctionBlock

-- A document as far as its landmarks are read, and the place of the function that a landmark
-- would attach to now.
structure Draft where
  spec : Spec
  current : Option Nat
deriving DecidableEq

namespace Draft

def start (text : Text) : Draft := ⟨⟨[],[],[],text⟩,none⟩

-- The names that begin a block of the document itself come before the vocabulary, so they never
-- attach to a function whatever it says. Data and constraints end the function above them.
def read (vocabulary : Vocabulary) (draft : Draft) (landmark : Landmark) : Draft :=
  let spec := draft.spec
  if landmark.name = HeaderName.function then
    ⟨{ spec with functions := spec.functions ++ [.ofHeader landmark] },some spec.functions.length⟩
  else if landmark.name = HeaderName.data then
    ⟨{ spec with dataBlocks := spec.dataBlocks ++ [landmark] },none⟩
  else if landmark.name = HeaderName.constraint then
    ⟨{ spec with constraints := spec.constraints ++ [landmark] },none⟩
  else if vocabulary.isFunctionLandmark landmark.name then
    match draft.current with
    | none => draft
    | some place =>
      ⟨{ spec with functions := spec.functions.modify place (·.attach landmark) },some place⟩
  else draft

end Draft

def Spec.ofText (vocabulary : Vocabulary) (text : Text) : Spec :=
  ((scan text).foldl (Draft.read vocabulary) (.start text)).spec

end SpecLint
