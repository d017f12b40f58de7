import SpecLint.Text.Lines

namespace SpecLint
open Text

structure Signature where
  line : Text
  name : Text
  inputs : List Text
  returnType : Text
deriving DecidableEq

namespace Signature

def isNameChar (c : Char) : Bool := c.isAlphanum || c == '_'

def afterArrow? : Text → Option Text
  | '→' :: rest => some rest
  | '-' :: '>' :: rest => some rest
  | _ => none

-- Inputs are separated by commas; a blank one is left out.
def splitInputs (inputs : Text) : List Text := ((split ',' inputs).map trim).filter (!·.isEmpty)

-- Reads `name(inputs) → type`. Each part ends where its class of characters ends, so there is
-- one way to read a line. The first closing bracket ends the inputs.
def ofLine? (line : Text) : Option Signature := do
  let name := line.takeWhile isNameChar
  let opened ← after? ['('] (trimStart (line.dropWhile isNameChar))
  let closed ← after? [')'] (opened.dropWhile (· != ')'))
  let result ← afterArrow? (trimStart closed)
  if name.isEmpty || (trim result).isEmpty then none
  else some ⟨line,name,splitInputs (opened.takeWhile (· != ')')),trim result⟩

-- A line of another form is taken whole as the name.
def ofContent (content : Text) : Signature :=
  let line := trim (firstLine content)
  (ofLine? line).getD ⟨line,line,[],[]⟩

end Signature
end SpecLint
