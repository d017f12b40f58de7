import SpecLint.Text.Basic

namespace SpecLint

-- A JSON value. Natural numbers are values; any other number is kept as it is written, because
-- nothing here computes with it. An object keeps its members as they stand.
inductive Json where
  | null
  | bool (value : Bool)
  | number (value : Nat)
  | numeral (written : Text)
  | string (value : Text)
  | array (items : List Json)
  | object (members : List (Text × Json))

namespace Json

-- Of repeated names the last member counts.
def member? (name : Text) (members : List (Text × Json)) : Option Json :=
  members.reverse.lookup name

end Json
end SpecLint
