import SpecLint.Toml.Moment
import SpecLint.Toml.Number
import SpecLint.Toml.Quoted
import SpecLint.Toml.Table

namespace SpecLint.Toml
open Text

def skipSpace (text : Text) : Text := text.dropWhile isSpace

def skipComment (text : Text) : Text := text.dropWhile isPlain

-- The end of a statement: blanks, perhaps a comment, then a line feed or the end of the document.
def endLine? (text : Text) : Option Text :=
  let rest := match skipSpace text with
    | '#' :: rest => skipComment rest
    | rest => rest
  if rest.isEmpty then some [] else lineFeed? rest

def skipGap : (fuel : Nat) → Text → Option Text
  | 0, _ => none
  | fuel + 1, text =>
    match skipSpace text with
    | '#' :: rest => do skipGap fuel (← lineFeed? (skipComment rest))
    | '\n' :: rest => skipGap fuel rest
    | '\r' :: rest => do skipGap fuel (← after? ['\n'] rest)
    | rest => some rest

def isBareChar (c : Char) : Bool := c.isAlphanum || c == '_' || c == '-'

def readSimpleKey? (fuel : Nat) (text : Text) : Option (Text × Text) :=
  match text with
  | '"' :: rest => readBasic fuel rest
  | '\'' :: rest => readLiteral rest
  | _ =>
    if (text.takeWhile isBareChar).isEmpty then none
    else some (text.takeWhile isBareChar,text.dropWhile isBareChar)

def readPath : (fuel : Nat) → Text → Option (List Text × Text)
  | 0, _ => none
  | fuel + 1, text => do
    let (key,rest) ← readSimpleKey? fuel (skipSpace text)
    match skipSpace rest with
    | '.' :: rest => do
      let (path,rest) ← readPath fuel rest
      return (key :: path,rest)
    | rest => some ([key],rest)

def readKey? (fuel : Nat) (text : Text) : Option (List Text × Text) := do
  let (path,rest) ← readPath fuel text
  if path.length < depthLimit then some (path,rest) else none

-- Numbers, moments and the truth values are words of these characters.
def isWordChar (c : Char) : Bool := c.isAlphanum || c == '+' || c == '-' || c == '.' || c == '_' ||
  c == ':'

def scalar? (word : Text) : Option Value :=
  if word = "true".toList then some (.boolean true)
  else if word = "false".toList then some (.boolean false)
  else if isDate word || isTime word || isJoinedMoment word then some .moment
  else (special? word).or ((fraction? word).or (integer? word))

-- A date and a time may also be joined by a single blank.
def readScalar? (text : Text) : Option (Value × Text) :=
  let word := text.takeWhile isWordChar
  let rest := text.dropWhile isWordChar
  match rest with
  | ' ' :: more =>
    if isDate word && (more.head?).any Char.isDigit then
      if isTimeWithOffset (more.takeWhile isWordChar) then some (.moment,more.dropWhile isWordChar)
      else none
    else (scalar? word).map (·,rest)
  | _ => (scalar? word).map (·,rest)

mutual

-- A value and the rest after it. The depth is what nesting is still allowed; the fuel bounds the
-- steps and never runs out before the text does.
def readValue : (fuel depth : Nat) → Text → Option (Value × Text)
  | 0, _, _ => none
  | _, _, [] => none
  | fuel + 1, depth, c :: rest =>
    if c = '"' ∨ c = '\'' then
      (readString fuel (c :: rest)).map fun (text,rest) => (.string text,rest)
    else if c = '[' then
      if depth = 0 then none
      else (readArray fuel (depth - 1) rest).map fun (items,rest) => (.array items,rest)
    else if c = '\x7b' then
      if depth = 0 then none
      else
        match skipSpace rest with
        | '\x7d' :: rest => some (.table .inline [],rest)
        | rest => do
          let (pairs,rest) ← readPairs fuel (depth - 1) rest
          return (← inlineTable? pairs,rest)
    else readScalar? (c :: rest)

-- The items of an array up to its closing bracket. A comma may follow the last one.
def readArray : (fuel depth : Nat) → Text → Option (List Value × Text)
  | 0, _, _ => none
  | fuel + 1, depth, text => do
    match ← skipGap fuel text with
    | ']' :: rest => some ([],rest)
    | text => do
      let (item,rest) ← readValue fuel depth text
      match ← skipGap fuel rest with
      | ',' :: rest => do
        let (items,rest) ← readArray fuel depth rest
        return (item :: items,rest)
      | ']' :: rest => some ([item],rest)
      | _ => none

-- The pairs of a table written in place, on one line and with nothing after the last one.
def readPairs : (fuel depth : Nat) → Text → Option (List (List Text × Value) × Text)
  | 0, _, _ => none
  | fuel + 1, depth, text => do
    let (path,rest) ← readKey? fuel text
    let (value,rest) ← readValue fuel depth (skipSpace (← after? ['='] rest))
    match skipSpace rest with
    | ',' :: rest => do
      let (pairs,rest) ← readPairs fuel depth rest
      return ((path,value) :: pairs,rest)
    | '\x7d' :: rest => some ([(path,value)],rest)
    | _ => none

end

def readStatement? (fuel : Nat) (text : Text) : Option (Statement × Text) :=
  match text with
  | '[' :: '[' :: rest => do
    let (path,rest) ← readKey? fuel rest
    return (.element path,← endLine? (← after? [']', ']'] rest))
  | '[' :: rest => do
    let (path,rest) ← readKey? fuel rest
    return (.header path,← endLine? (← after? [']'] rest))
  | _ => do
    let (path,rest) ← readKey? fuel text
    let (value,rest) ← readValue fuel (depthLimit - 1) (skipSpace (← after? ['='] rest))
    return (.assign path value,← endLine? rest)

def readStatements : (fuel : Nat) → Text → Option (List Statement)
  | 0, _ => none
  | fuel + 1, text =>
    match skipSpace text with
    | [] => some []
    | '#' :: rest => do readStatements fuel (← endLine? ('#' :: rest))
    | '\n' :: rest => readStatements fuel rest
    | '\r' :: rest => do readStatements fuel (← after? ['\n'] rest)
    | text => do
      let (statement,rest) ← readStatement? fuel text
      return statement :: (← readStatements fuel rest)

-- A byte-order mark may stand before the document.
def parse? (text : Text) : Option Entries := do
  let text := (after? ['\ufeff'] text).getD text
  let statements ← readStatements (2 * text.length + 2) text
  return (← build? [] ⟨.header,[]⟩ statements).entries

end SpecLint.Toml
