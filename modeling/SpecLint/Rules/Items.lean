import SpecLint.Text.Lines

namespace SpecLint
open Text

-- The item of a bulleted line. A bullet with nothing after it is no item.
def bulletItem? (line : Text) : Option Text :=
  match after? ['-'] (trim line) with
  | none => none
  | some rest => if (trim rest).isEmpty then none else some (trim rest)

-- Bulleted lines are the items where there are any; otherwise every line that is not blank is one.
def ruleItems (rules : Text) : List Text :=
  let bulleted := (lines rules).filterMap bulletItem?
  if bulleted.isEmpty then trimmedLines rules else bulleted

def isExample (line : Text) : Bool :=
  startsWith ['('] line || occurs ['→'] line || occurs ['-', '>'] line

def exampleCount (examples : Text) : Nat := (trimmedLines examples).countP isExample

end SpecLint
