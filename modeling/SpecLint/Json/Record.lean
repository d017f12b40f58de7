import SpecLint.Dictionary
import SpecLint.Json.Basic
import SpecLint.WordSize

namespace SpecLint.Json

-- The values of the named fields, in the order of the names. Other members are ignored. An array
-- gives the fields by position and may stop early, but holds nothing else.
def fields? (names : List Text) : Json → Option (List (Option Json))
  | object members => some (names.map (member? · members))
  | array items =>
    if items.length ≤ names.length then
      some (items.map some ++ List.replicate (names.length - items.length) none)
    else none
  | _ => none

def text? : Json → Option Text
  | string value => some value
  | _ => none

def bool? : Json → Option Bool
  | bool value => some value
  | _ => none

def word? : Json → Option Nat
  | number value => if value < wordLimit then some value else none
  | _ => none

def list? (item? : Json → Option α) : Json → Option (List α)
  | array items => items.mapM item?
  | _ => none

def dictionary? (value? : Json → Option α) : Json → Option (Dictionary α)
  | object members => do
    let entries ← members.mapM fun member => (value? member.2).map (member.1,·)
    return .ofList entries
  | _ => none

-- A field that is absent has its default; one that is present has to be right.
def orDefault (value? : Json → Option α) (default : α) : Option Json → Option α
  | none => some default
  | some json => value? json

def texts (items : List Text) : Json := array (items.map string)

end SpecLint.Json
