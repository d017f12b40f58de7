namespace SpecLint

-- A text is its Unicode scalar values in order. Lists keep every function below structural,
-- and no scalar value is ever cut in half.
abbrev Text := List Char

namespace Text

-- Spans of a document are measured in bytes of its UTF-8 encoding.
def byteLength : Text → Nat
  | [] => 0
  | c :: text => c.utf8Size + byteLength text

def after? : (opening text : Text) → Option Text
  | [], text => some text
  | _ :: _, [] => none
  | expected :: opening, c :: text => if c = expected then after? opening text else none

def startsWith (opening text : Text) : Bool := (after? opening text).isSome

def occurs (part : Text) : Text → Bool
  | [] => part.isEmpty
  | c :: text => startsWith part (c :: text) || occurs part text

-- Cutting at every separator gives one more part than there are separators, so the text is
-- always the parts joined again and an empty text has one empty part.
def split (separator : Char) : Text → List Text
  | [] => [[]]
  | c :: text =>
    if c = separator then [] :: split separator text
    else (split separator text).modifyHead (c :: ·)

def join (glue : Text) (parts : List Text) : Text := glue.intercalate parts

def decimal (n : Nat) : Text := Nat.toDigits 10 n

-- Reads a run of digits, most significant first. The caller has checked that they are digits.
def decimalValue (digits : Text) : Nat := Nat.ofDigitChars 10 digits 0

end Text
end SpecLint
