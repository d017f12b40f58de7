import SpecLint.Json.Basic
import SpecLint.Json.Quoted

namespace SpecLint.Json
open Text

def isSpace (c : Char) : Bool := c == ' ' || c == '\n' || c == '\r' || c == '\t'

def skipSpace (text : Text) : Text := text.dropWhile isSpace

def takeDigits (text : Text) : Text × Text :=
  (text.takeWhile Char.isDigit,text.dropWhile Char.isDigit)

-- Digits after a point. None at all is an error, no point is not.
def readFraction? : Text → Option (Text × Text)
  | '.' :: rest =>
    let (digits,rest) := takeDigits rest
    if digits.isEmpty then none else some ('.' :: digits,rest)
  | text => some ([],text)

def readExponent? : Text → Option (Text × Text)
  | [] => some ([],[])
  | c :: rest =>
    if c = 'e' ∨ c = 'E' then
      let (sign,rest) := match rest with
        | '+' :: rest => (['+'],rest)
        | '-' :: rest => (['-'],rest)
        | _ => ([],rest)
      let (digits,rest) := takeDigits rest
      if digits.isEmpty then none else some (c :: sign ++ digits,rest)
    else some ([],c :: rest)

-- A number has no leading zero. It is a natural number when it is written with digits alone.
def readNumber? (text : Text) : Option (Json × Text) := do
  let (sign,rest) := match text with
    | '-' :: rest => (['-'],rest)
    | _ => ([],text)
  let (digits,rest) := takeDigits rest
  if digits.isEmpty || (digits.head? = some '0' && digits.length > 1) then none
  else do
    let (fraction,rest) ← readFraction? rest
    let (exponent,rest) ← readExponent? rest
    if sign.isEmpty && fraction.isEmpty && exponent.isEmpty then
      some (number (decimalValue digits),rest)
    else some (numeral (sign ++ digits ++ fraction ++ exponent),rest)

def readWord? (text : Text) : Option (Json × Text) :=
  match after? "null".toList text, after? "true".toList text, after? "false".toList text with
  | some rest, _, _ => some (null,rest)
  | _, some rest, _ => some (bool true,rest)
  | _, _, some rest => some (bool false,rest)
  | none, none, none => none

mutual

-- A value and the rest after it. The fuel bounds the steps; every two steps take a character.
def readValue : (fuel : Nat) → Text → Option (Json × Text)
  | 0, _ => none
  | _, [] => none
  | fuel + 1, c :: rest =>
    if c = '"' then (readQuoted fuel rest).map fun (text,rest) => (string text,rest)
    else if c = '[' then
      match skipSpace rest with
      | ']' :: rest => some (array [],rest)
      | rest => (readItems fuel rest).map fun (items,rest) => (array items,rest)
    else if c = '\x7b' then
      match skipSpace rest with
      | '\x7d' :: rest => some (object [],rest)
      | rest => (readMembers fuel rest).map fun (members,rest) => (object members,rest)
    else if c = '-' ∨ c.isDigit then readNumber? (c :: rest)
    else readWord? (c :: rest)

def readItems : (fuel : Nat) → Text → Option (List Json × Text)
  | 0, _ => none
  | fuel + 1, text => do
    let (item,rest) ← readValue fuel text
    match skipSpace rest with
    | ',' :: rest => do
      let (items,rest) ← readItems fuel (skipSpace rest)
      return (item :: items,rest)
    | ']' :: rest => some ([item],rest)
    | _ => none

def readMembers : (fuel : Nat) → Text → Option (List (Text × Json) × Text)
  | 0, _ => none
  | fuel + 1, text => do
    let quoted ← after? ['"'] text
    let (name,rest) ← readQuoted fuel quoted
    let rest ← after? [':'] (skipSpace rest)
    let (value,rest) ← readValue fuel (skipSpace rest)
    match skipSpace rest with
    | ',' :: rest => do
      let (members,rest) ← readMembers fuel (skipSpace rest)
      return ((name,value) :: members,rest)
    | '\x7d' :: rest => some ([(name,value)],rest)
    | _ => none

end

-- A document is one value with nothing but blanks around it.
def parse? (text : Text) : Option Json := do
  let (json,rest) ← readValue (2 * text.length + 2) (skipSpace text)
  if (skipSpace rest).isEmpty then some json else none

end SpecLint.Json
