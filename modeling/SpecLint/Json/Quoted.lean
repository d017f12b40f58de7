import SpecLint.Text.Hex

namespace SpecLint.Json
open Text

def hexDigit (n : Nat) : Char := Nat.digitChar n

-- Quotes, backslashes and control characters cannot stand in a string as they are. Five controls
-- have a letter of their own, the others are written by their number.
def escapeChar (c : Char) : Text :=
  if c = '"' then ['\\', '"']
  else if c = '\\' then ['\\', '\\']
  else if c = '\x08' then ['\\', 'b']
  else if c = '\x0c' then ['\\', 'f']
  else if c = '\n' then ['\\', 'n']
  else if c = '\r' then ['\\', 'r']
  else if c = '\t' then ['\\', 't']
  else if c.toNat < 0x20 then
    ['\\', 'u', '0', '0', hexDigit (c.toNat / 16), hexDigit (c.toNat % 16)]
  else [c]

def quote (text : Text) : Text := '"' :: text.flatMap escapeChar ++ ['"']

-- A character by its number. One beyond the first plane is written as two surrogates, and a
-- surrogate that stands alone is no character.
def readCharacter? (text : Text) : Option (Char × Text) := do
  let (high,rest) ← readHex 4 0 text
  if 0xD800 ≤ high ∧ high < 0xDC00 then do
    let (low,rest) ← readHex 4 0 (← after? ['\\', 'u'] rest)
    if 0xDC00 ≤ low ∧ low < 0xE000 then do
      return (← character? (0x10000 + (high - 0xD800) * 0x400 + (low - 0xDC00)),rest)
    else none
  else do return (← character? high,rest)

def readEscape? : Text → Option (Char × Text)
  | [] => none
  | c :: rest =>
    if c = '"' ∨ c = '\\' ∨ c = '/' then some (c,rest)
    else if c = 'b' then some ('\x08',rest)
    else if c = 'f' then some ('\x0c',rest)
    else if c = 'n' then some ('\n',rest)
    else if c = 'r' then some ('\r',rest)
    else if c = 't' then some ('\t',rest)
    else if c = 'u' then readCharacter? rest
    else none

-- The text up to the closing quote, and the rest after it. The fuel bounds the number of
-- characters; the length of the input always suffices.
def readQuoted : (fuel : Nat) → Text → Option (Text × Text)
  | 0, _ => none
  | _, [] => none
  | fuel + 1, c :: rest =>
    if c = '"' then some ([],rest)
    else if c = '\\' then do
      let (c,rest) ← readEscape? rest
      let (text,rest) ← readQuoted fuel rest
      return (c :: text,rest)
    else if c.toNat < 0x20 then none
    else do
      let (text,rest) ← readQuoted fuel rest
      return (c :: text,rest)

end SpecLint.Json
