import SpecLint.Text.Basic

namespace SpecLint
open Text

-- Words are delimited in ASCII: any other letter separates like a blank.
def isWordChar (c : Char) : Bool := c.isAlphanum || c == '_'

def joins (beside : Option Char) : Bool := beside.any isWordChar

-- A phrase is a word, or a word followed in the same clause by one of several closing words. When
-- `whole` is false a closing word may also be the end of a longer one.
inductive Phrase where
  | word (keyword : Text)
  | pair (opener : Text) (closers : List Text) (whole : Bool)

namespace Phrase

def endsWord (word text : Text) : Bool :=
  match after? word text with
  | none => false
  | some rest => !joins rest.head?

def atWord (word : Text) (before : Option Char) (text : Text) : Bool :=
  !joins before && endsWord word text

def closer? (closers : List Text) (whole : Bool) (before : Option Char) (text : Text) :
    Option Text :=
  closers.find? fun word => !(whole && joins before) && endsWord word text

def endsClause (c : Char) : Bool := c == ',' || c == '\n'

-- For each place of a text, how far the last closing word of its clause reaches from there. The
-- place at the end of the text is counted too.
def clauseEnds (closers : List Text) (whole : Bool) : (before : Option Char) → Text →
    List (Option Nat)
  | _, [] => [none]
  | before, c :: rest =>
    let below := clauseEnds closers whole (some c) rest
    let later := if endsClause c then none else below.headD none
    (match later with
      | some length => some (length + 1)
      | none => (closer? closers whole before (c :: rest)).map List.length) :: below

def opens (word : Text) : (before : Option Char) → Text → List Bool
  | _, [] => []
  | before, c :: rest => atWord word before (c :: rest) :: opens word (some c) rest

-- For each place the length of the phrase that begins there. A phrase with a closing word is made
-- as long as its clause allows.
def lengths (text : Text) : Phrase → List (Option Nat)
  | word keyword =>
    (opens keyword none text).map fun here => if here then some keyword.length else none
  | pair opener closers whole =>
    let ends := (clauseEnds closers whole none text).drop opener.length
    (opens opener none text).zipWith
      (fun here reach => if here then reach.map (opener.length + ·) else none) ends

-- Occurrences are taken from left to right. Each one is passed over whole before the next one
-- begins: `skip` places still belong to the one found last.
def countApart : (skip : Nat) → List (Option Nat) → Nat
  | _, [] => 0
  | skip + 1, _ :: rest => countApart skip rest
  | 0, none :: rest => countApart 0 rest
  | 0, some length :: rest => countApart (length - 1) rest + 1

def count (phrase : Phrase) (text : Text) : Nat := countApart 0 (phrase.lengths text)

end Phrase
end SpecLint
