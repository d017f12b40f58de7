import SpecLint.Text.Basic

namespace SpecLint.Toml

-- How a table came to be decides what may still be added to it: one with a header of its own, one
-- made by a dotted key, one implied by the header of a deeper table, and one written in place.
inductive Origin where
  | header
  | dotted
  | implied
  | inline
deriving DecidableEq

-- A value of a document. Fractions and moments are checked when they are read and carry nothing,
-- since no setting has such a value. `tables` is an array that grows by headers.
inductive Value where
  | string (value : Text)
  | integer (value : Int)
  | boolean (value : Bool)
  | fraction
  | moment
  | array (items : List Value)
  | table (origin : Origin) (entries : List (Text × Value))
  | tables (items : List Value)

abbrev Entries := List (Text × Value)

-- A line of a document: a key with its value, or the header of a table or of a further element.
inductive Statement where
  | assign (path : List Text) (value : Value)
  | header (path : List Text)
  | element (path : List Text)

-- Neither keys nor values nest this deep.
def depthLimit : Nat := 80

end SpecLint.Toml
