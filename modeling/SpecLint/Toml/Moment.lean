import SpecLint.Text.Basic

namespace SpecLint.Toml
open Text

def fixedDigits? (count : Nat) (text : Text) : Option (Nat × Text) :=
  let digits := text.take count
  if digits.length = count && digits.all Char.isDigit then
    some (decimalValue digits,text.drop count)
  else none

def within? (low high : Nat) (text : Text) : Option (Nat × Text) := do
  let (n,rest) ← fixedDigits? 2 text
  if low ≤ n ∧ n ≤ high then some (n,rest) else none

def isLeapYear (year : Nat) : Bool := year % 4 == 0 && (year % 100 != 0 || year % 400 == 0)

def daysIn (year month : Nat) : Nat :=
  if month = 2 then (if isLeapYear year then 29 else 28)
  else if month = 4 ∨ month = 6 ∨ month = 9 ∨ month = 11 then 30
  else 31

def date? (text : Text) : Option Text := do
  let (year,rest) ← fixedDigits? 4 text
  let (month,rest) ← within? 1 12 (← after? ['-'] rest)
  let (_,rest) ← within? 1 (daysIn year month) (← after? ['-'] rest)
  return rest

-- A time to the second, with any number of further places. A minute may have a leap second.
def time? (text : Text) : Option Text := do
  let (_,rest) ← within? 0 23 text
  let (_,rest) ← within? 0 59 (← after? [':'] rest)
  let (_,rest) ← within? 0 60 (← after? [':'] rest)
  match rest with
  | '.' :: rest =>
    if (rest.head?).any Char.isDigit then some (rest.dropWhile Char.isDigit) else none
  | _ => some rest

-- The distance to universal time, when there is one.
def offset? : Text → Option Text
  | [] => some []
  | c :: rest =>
    if c = 'Z' ∨ c = 'z' then some rest
    else if c = '+' ∨ c = '-' then do
      let (_,rest) ← within? 0 23 rest
      let (_,rest) ← within? 0 59 (← after? [':'] rest)
      return rest
    else some (c :: rest)

def isTime (word : Text) : Bool := time? word == some []

def isTimeWithOffset (word : Text) : Bool := ((time? word).bind offset?) == some []

def isDate (word : Text) : Bool := date? word == some []

def isJoinedMoment (word : Text) : Bool :=
  match date? word with
  | some (c :: rest) => (c == 'T' || c == 't') && isTimeWithOffset rest
  | _ => false

end SpecLint.Toml
