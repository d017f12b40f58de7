import SpecLint.Text.Basic

namespace SpecLint.Text

-- The characters with the Unicode property White_Space.
def isBlank (c : Char) : Bool :=
  let n := c.toNat
  (0x9 ≤ n && n ≤ 0xD) || n == 0x20 || n == 0x85 || n == 0xA0 || n == 0x1680 ||
    (0x2000 ≤ n && n ≤ 0x200A) || n == 0x2028 || n == 0x2029 || n == 0x202F || n == 0x205F ||
    n == 0x3000

def trimStart (text : Text) : Text := text.dropWhile isBlank

-- A blank is dropped exactly when nothing after it is kept.
def trimEnd : Text → Text
  | [] => []
  | c :: text =>
    match trimEnd text with
    | [] => if isBlank c then [] else [c]
    | kept => c :: kept

def trim (text : Text) : Text := trimEnd (trimStart text)

def firstWord? (text : Text) : Option Text :=
  match (trimStart text).takeWhile (fun c => !isBlank c) with
  | [] => none
  | word => some word

end SpecLint.Text
