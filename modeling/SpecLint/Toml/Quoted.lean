import SpecLint.Text.Hex

namespace SpecLint.Toml
open Text

def escapeChar (c : Char) : Text :=
  if c = '"' then ['\\', '"']
  else if c = '\\' then ['\\', '\\']
  else if c = '\x08' then ['\\', 'b']
  else if c = '\t' then ['\\', 't']
  else if c = '\n' then ['\\', 'n']
  else if c = '\x0c' then ['\\', 'f']
  else if c = '\r' then ['\\', 'r']
  else if c.toNat < 0x20 ∨ c = '\x7f' then
    ['\\', 'u', '0', '0', (Nat.digitChar (c.toNat / 16)).toUpper,
      (Nat.digitChar (c.toNat % 16)).toUpper]
  else [c]

def quote (text : Text) : Text := '"' :: text.flatMap escapeChar ++ ['"']

-- What a comment or a string may hold as it is: no control character but the tab.
def isPlain (c : Char) : Bool := c == '\t' || (0x20 ≤ c.toNat && c != '\x7f')

def lineFeed? : Text → Option Text
  | '\n' :: rest => some rest
  | '\r' :: '\n' :: rest => some rest
  | _ => none

def isSpace (c : Char) : Bool := c == ' ' || c == '\t'

def skipLines : (fuel : Nat) → Text → Text
  | 0, text => text
  | fuel + 1, text =>
    match lineFeed? (text.dropWhile isSpace) with
    | some rest => skipLines fuel rest
    | none => text.dropWhile isSpace

def readCharacter? (digits : Nat) (text : Text) : Option (Char × Text) := do
  let (n,rest) ← readHex digits 0 text
  return (← character? n,rest)

def readEscape? : Text → Option (Char × Text)
  | [] => none
  | c :: rest =>
    if c = '"' ∨ c = '\\' then some (c,rest)
    else if c = 'b' then some ('\x08',rest)
    else if c = 't' then some ('\t',rest)
    else if c = 'n' then some ('\n',rest)
    else if c = 'f' then some ('\x0c',rest)
    else if c = 'r' then some ('\r',rest)
    else if c = 'u' then readCharacter? 4 rest
    else if c = 'U' then readCharacter? 8 rest
    else none

-- The text up to the closing quote, and the rest after it. Here and below the fuel bounds the
-- number of characters.
def readBasic : (fuel : Nat) → Text → Option (Text × Text)
  | 0, _ => none
  | _, [] => none
  | fuel + 1, c :: rest =>
    if c = '"' then some ([],rest)
    else if c = '\\' then do
      let (c,rest) ← readEscape? rest
      let (text,rest) ← readBasic fuel rest
      return (c :: text,rest)
    else if isPlain c then do
      let (text,rest) ← readBasic fuel rest
      return (c :: text,rest)
    else none

def readLiteral : Text → Option (Text × Text)
  | [] => none
  | c :: rest =>
    if c = '\'' then some ([],rest)
    else if isPlain c then do
      let (text,rest) ← readLiteral rest
      return (c :: text,rest)
    else none

-- Three quotes close a block, and up to two more may stand right before them.
def closeBlock? (quote : Char) (text : Text) : Option (Text × Text) :=
  let (quotes,rest) := (text.takeWhile (· == quote),text.dropWhile (· == quote))
  if 3 ≤ quotes.length ∧ quotes.length ≤ 5 then some (quotes.drop 3,rest) else none

-- A line ending in a backslash continues at the next character that is not blank.
def continued? (fuel : Nat) (text : Text) : Option Text :=
  (lineFeed? (text.dropWhile isSpace)).map (skipLines fuel)

def readBasicBlock : (fuel : Nat) → Text → Option (Text × Text)
  | 0, _ => none
  | _, [] => none
  | fuel + 1, c :: rest =>
    match closeBlock? '"' (c :: rest) with
    | some closed => some closed
    | none =>
      if startsWith ['"', '"', '"'] (c :: rest) then none
      else if c = '\\' then
        match continued? fuel rest with
        | some rest => readBasicBlock fuel rest
        | none => do
          let (c,rest) ← readEscape? rest
          let (text,rest) ← readBasicBlock fuel rest
          return (c :: text,rest)
      else match lineFeed? (c :: rest) with
        | some rest => do
          let (text,rest) ← readBasicBlock fuel rest
          return ('\n' :: text,rest)
        | none =>
          if isPlain c then do
            let (text,rest) ← readBasicBlock fuel rest
            return (c :: text,rest)
          else none

def readLiteralBlock : (fuel : Nat) → Text → Option (Text × Text)
  | 0, _ => none
  | _, [] => none
  | fuel + 1, c :: rest =>
    match closeBlock? '\'' (c :: rest) with
    | some closed => some closed
    | none =>
      if startsWith ['\'', '\'', '\''] (c :: rest) then none
      else match lineFeed? (c :: rest) with
        | some rest => do
          let (text,rest) ← readLiteralBlock fuel rest
          return ('\n' :: text,rest)
        | none =>
          if isPlain c then do
            let (text,rest) ← readLiteralBlock fuel rest
            return (c :: text,rest)
          else none

-- A line feed right after the opening of a block is not part of it.
def dropFirstFeed (text : Text) : Text := (lineFeed? text).getD text

def readString (fuel : Nat) (text : Text) : Option (Text × Text) :=
  match after? ['"', '"', '"'] text, after? ['\'', '\'', '\''] text with
  | some rest, _ => readBasicBlock fuel (dropFirstFeed rest)
  | none, some rest => readLiteralBlock fuel (dropFirstFeed rest)
  | none, none =>
    match text with
    | '"' :: rest => readBasic fuel rest
    | '\'' :: rest => readLiteral rest
    | _ => none

end SpecLint.Toml
