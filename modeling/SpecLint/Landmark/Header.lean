import SpecLint.Text.Lines

namespace SpecLint
open Text

structure Header where
  name : Text
  inline : Text
deriving DecidableEq

-- A name has at least two characters: a capital, then capitals and underscores, all of them ASCII.
def isHeaderName : Text → Bool
  | [] => false
  | first :: rest => first.isUpper && !rest.isEmpty && rest.all fun c => c.isUpper || c == '_'

-- Only the first colon of a line can end a name, and an indented line is no header.
def Header.ofLine? (line : Text) : Option Header :=
  match line.dropWhile (· != ':') with
  | [] => none
  | _ :: inline =>
    let name := line.takeWhile (· != ':')
    if isHeaderName name then some ⟨name,trim inline⟩ else none

namespace HeaderName

def function : Text := "FUNCTION".toList
def data : Text := "DATA".toList
def constraint : Text := "CONSTRAINT".toList
def rules : Text := "RULES".toList
def doneWhen : Text := "DONE_WHEN".toList
def examples : Text := "EXAMPLES".toList
def errors : Text := "ERRORS".toList
def baseline : Text := "BASELINE".toList
def eval : Text := "EVAL".toList
def determinism : Text := "DETERMINISM".toList

end HeaderName
end SpecLint
