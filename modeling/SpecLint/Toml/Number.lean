import SpecLint.Text.Hex
import SpecLint.Toml.Basic
import SpecLint.WordSize

namespace SpecLint.Toml
open Text

-- Digits with single underscores between them; the underscores are dropped.
def grouped? (isDigit : Char → Bool) : Text → Option Text
  | [] => none
  | [c] => if isDigit c then some [c] else none
  | c :: '_' :: rest => if isDigit c then (grouped? isDigit rest).map (c :: ·) else none
  | c :: rest => if isDigit c then (grouped? isDigit rest).map (c :: ·) else none

-- A decimal whole number has no leading zero.
def wholeDigits? (text : Text) : Option Text :=
  if text.head? = some '0' ∧ text ≠ ['0'] then none else grouped? Char.isDigit text

structure Signed where
  negative : Bool
  text : Text

def Signed.ofText : Text → Signed
  | '-' :: rest => ⟨true,rest⟩
  | '+' :: rest => ⟨false,rest⟩
  | text => ⟨false,text⟩

def integerOf? (negative : Bool) (magnitude : Nat) : Option Value :=
  if negative then
    if magnitude ≤ signedLimit then some (.integer (-magnitude)) else none
  else if magnitude < signedLimit then some (.integer magnitude)
  else none

def isDigitOf (base : Nat) (c : Char) : Bool := (hexValue? c).any (· < base)

def valueOf (base : Nat) (digits : Text) : Nat :=
  digits.foldl (fun value c => base * value + (hexValue? c).getD 0) 0

-- The base that a marker such as `0x` announces. Such a number has no sign.
def based? : Text → Option (Nat × Text)
  | '0' :: 'x' :: rest => some (16,rest)
  | '0' :: 'o' :: rest => some (8,rest)
  | '0' :: 'b' :: rest => some (2,rest)
  | _ => none

def integer? (word : Text) : Option Value :=
  match based? word with
  | some (base,rest) => do
    integerOf? false (valueOf base (← grouped? (isDigitOf base) rest))
  | none => do
    let signed := Signed.ofText word
    integerOf? signed.negative (decimalValue (← wholeDigits? signed.text))

-- Whether `digits · 10 ^ exponent` is too large for a double. Half a step above the greatest
-- double is the first number that is not rounded to it.
def overflows (digits : Text) (exponent : Int) : Bool :=
  let bound := Nat.pow 2 1024 - Nat.pow 2 970
  let digits := digits.dropWhile (· == '0')
  let places := digits.length + exponent
  if digits.isEmpty || places < 309 then false
  else if places > 309 then true
  else if exponent < 0 then bound * Nat.pow 10 exponent.natAbs ≤ decimalValue digits
  else bound ≤ decimalValue digits * Nat.pow 10 exponent.natAbs

def exponent? (text : Text) : Option Int := do
  let signed := Signed.ofText text
  let magnitude := decimalValue (← grouped? Char.isDigit signed.text)
  return if signed.negative then -magnitude else magnitude

def isExponentMark (c : Char) : Bool := c == 'e' || c == 'E'

-- A fraction has a point or an exponent, with digits on both sides of a point.
def fraction? (word : Text) : Option Value := do
  let signed := Signed.ofText word
  let mantissa := signed.text.takeWhile (!isExponentMark ·)
  let exponent ← match signed.text.dropWhile (!isExponentMark ·) with
    | [] => some none
    | _ :: rest => (exponent? rest).map some
  let whole ← wholeDigits? (mantissa.takeWhile (· != '.'))
  let places ← match mantissa.dropWhile (· != '.') with
    | [] => if exponent.isSome then some [] else none
    | _ :: rest => grouped? Char.isDigit rest
  if !signed.negative && overflows (whole ++ places) (exponent.getD 0 - places.length) then none
  else some .fraction

def special? (word : Text) : Option Value :=
  let text := (Signed.ofText word).text
  if text == "inf".toList || text == "nan".toList then some .fraction else none

end SpecLint.Toml
