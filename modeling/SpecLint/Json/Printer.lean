import SpecLint.Json.Basic
import SpecLint.Json.Quoted

namespace SpecLint.Json
open Text

-- Compact JSON is one line without blanks. Spread JSON gives each item a line of its own, two
-- blanks deeper than what holds it.
inductive Layout where
  | compact
  | spread
deriving DecidableEq

namespace Layout

def newLine (layout : Layout) (depth : Nat) : Text :=
  match layout with
  | compact => []
  | spread => '\n' :: List.replicate (2 * depth) ' '

def colon : Layout → Text
  | compact => [':']
  | spread => [':', ' ']

-- Nothing is broken where there is nothing to hold.
def enclose (layout : Layout) (depth : Nat) (opening closing : Char) (parts : List Text) : Text :=
  match parts with
  | [] => [opening, closing]
  | _ =>
    opening :: layout.newLine (depth + 1) ++ join (',' :: layout.newLine (depth + 1)) parts ++
      layout.newLine depth ++ [closing]

end Layout

mutual

def print (layout : Layout) (depth : Nat) : Json → Text
  | null => "null".toList
  | bool true => "true".toList
  | bool false => "false".toList
  | number value => decimal value
  | numeral written => written
  | string value => quote value
  | array items => layout.enclose depth '[' ']' (printItems layout (depth + 1) items)
  | object members => layout.enclose depth '\x7b' '\x7d' (printMembers layout (depth + 1) members)
termination_by structural json => json

def printItems (layout : Layout) (depth : Nat) : List Json → List Text
  | [] => []
  | item :: rest => print layout depth item :: printItems layout depth rest
termination_by structural items => items

def printMembers (layout : Layout) (depth : Nat) : List (Text × Json) → List Text
  | [] => []
  | member :: rest => printMember layout depth member :: printMembers layout depth rest
termination_by structural members => members

def printMember (layout : Layout) (depth : Nat) : Text × Json → Text
  | (name,value) => quote name ++ layout.colon ++ print layout depth value
termination_by structural member => member

end

def render (layout : Layout) (json : Json) : Text := print layout 0 json

end SpecLint.Json
