import SpecLint.Landmark.Header

namespace SpecLint
open Text

-- A header together with the block of text it owns. The offsets count bytes of the document and
-- lines are numbered from one.
structure Landmark where
  name : Text
  content : Text
  lineNumber : Nat
  startOffset : Nat
  endOffset : Nat
deriving DecidableEq

def Landmark.render (landmark : Landmark) : Text := landmark.name ++ ": ".toList ++ landmark.content

-- What a header line carries comes before the body, on a line of its own. Both are trimmed.
def blockContent (inline body : Text) : Text :=
  if inline.isEmpty then body
  else if body.isEmpty then inline
  else inline ++ '\n' :: body

-- A block reaches to the next header or to the end of the document.
def blockEnd (total : Nat) : List Landmark → Nat
  | [] => total
  | next :: _ => next.startOffset

-- The lines before the first header of a run of lines, and the landmarks from that header on.
structure Outline where
  lead : List Text
  landmarks : List Landmark

-- Lines are read from the last to the first: the lead of what follows a header is its body. The
-- number and the offset are those of the first line, `total` is the length of the document.
def outline (total : Nat) : (number offset : Nat) → List Text → Outline
  | _, _, [] => ⟨[],[]⟩
  | number, offset, line :: rest =>
    let below := outline total (number + 1) (offset + byteLength line + 1) rest
    match Header.ofLine? (dropReturn line) with
    | none => ⟨line :: below.lead,below.landmarks⟩
    | some header =>
      ⟨[],{ name := header.name
            content := blockContent header.inline (trim (join ['\n'] below.lead))
            lineNumber := number
            startOffset := offset
            endOffset := blockEnd total below.landmarks } :: below.landmarks⟩

def scan (text : Text) : List Landmark :=
  (outline (byteLength text) 1 0 (split '\n' text)).landmarks

end SpecLint
