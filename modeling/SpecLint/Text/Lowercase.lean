import SpecLint.Text.CaseTable

namespace SpecLint.Text

-- Lowercase of one character, wherever it stands. Only the dotted capital I needs two characters.
def lowerChar (c : Char) : Text :=
  if c.toNat < 0x80 then [c.toLower]
  else if c = 'İ' then ['i', '\u0307']
  else match caseRuns.findSome? (·.small? c.toNat) with
    | some n => [Char.ofNat n]
    | none => [c]

-- Whether the nearest character that counts for casing is a letter with case.
def meetsCased (text : Text) : Bool :=
  match text.dropWhile isCaseIgnorable with
  | [] => false
  | c :: _ => isCased c

-- A capital sigma at the end of a word becomes the final form: a cased letter stands before it
-- and none after it. The text before is held nearest character first.
def lowerSigma (before after : Text) : Char :=
  if meetsCased before && !meetsCased after then 'ς' else 'σ'

def lowerFrom (before : Text) : Text → Text
  | [] => []
  | c :: text =>
    (if c = 'Σ' then [lowerSigma before text] else lowerChar c) ++ lowerFrom (c :: before) text

def lowercase (text : Text) : Text := lowerFrom [] text

end SpecLint.Text
