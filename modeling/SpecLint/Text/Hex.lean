import SpecLint.Text.Basic

namespace SpecLint.Text

def hexValue? (c : Char) : Option Nat :=
  if c.isDigit then some (c.toNat - '0'.toNat)
  else if 'a' ≤ c ∧ c ≤ 'f' then some (c.toNat - 'a'.toNat + 10)
  else if 'A' ≤ c ∧ c ≤ 'F' then some (c.toNat - 'A'.toNat + 10)
  else none

def readHex : (count value : Nat) → Text → Option (Nat × Text)
  | 0, value, text => some (value,text)
  | _ + 1, _, [] => none
  | count + 1, value, c :: text => do readHex count (16 * value + (← hexValue? c)) text

-- Surrogates and numbers beyond the last plane are no characters.
def character? (n : Nat) : Option Char := if n.isValidChar then some (Char.ofNat n) else none

end SpecLint.Text
