import SpecLint.Text.Blank

namespace SpecLint.Text

-- A line may end in a carriage return before its line feed; one of them belongs to the ending.
def dropReturn (line : Text) : Text :=
  if line.getLast? = some '\r' then line.dropLast else line

def linesOfPieces : List Text → List Text
  | [] => []
  | [last] => if last.isEmpty then [] else [last]
  | piece :: pieces => dropReturn piece :: linesOfPieces pieces

-- The lines of a block. A line feed ends a line, so nothing follows the last one, and a carriage
-- return is part of an ending only where a line feed follows it.
def lines (text : Text) : List Text := linesOfPieces (split '\n' text)

def firstLine (text : Text) : Text := (lines text).headD []

def trimmedLines (text : Text) : List Text := ((lines text).map trim).filter (!·.isEmpty)

end SpecLint.Text
