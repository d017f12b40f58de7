import SpecLint.Text.Lines
import SpecLint.Text.Lowercase

namespace SpecLint
open Text

-- The value of a line `key: value` or `key : value`, which ends at a second colon. The line has
-- been trimmed and lowercased.
def fieldValue? (key line : Text) : Option Text :=
  match after? key line with
  | none => none
  | some rest =>
    if startsWith [':'] rest || startsWith [' ', ':'] rest then
      some (trim (((split ':' line)[1]?).getD []))
    else none

-- A key may stand on several lines of a block; the last one holds.
def lastField? (key content : Text) : Option Text :=
  ((lines content).filterMap fun line => fieldValue? key (lowercase (trim line))).getLast?

end SpecLint
