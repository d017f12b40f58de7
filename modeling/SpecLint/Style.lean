import SpecLint.Text.Basic

namespace SpecLint

inductive Style where
  | failure
  | success
  | caution
  | count
  | name
  | aside
deriving DecidableEq

namespace Style

def escape : Char := '\x1b'

def reset : Text := [escape, '[', '0', 'm']

def codes : Style → Text
  | failure => "1;31".toList
  | success => "1;32".toList
  | caution => "1;33".toList
  | count => "33".toList
  | name => "36".toList
  | aside => "2".toList

def opening (style : Style) : Text := escape :: '[' :: style.codes ++ ['m']

-- A reset inside the text would end the style early, so the style is opened again after it.
def resume (style : Style) : Text → Text
  | '\x1b' :: '[' :: '0' :: 'm' :: rest => reset ++ style.opening ++ resume style rest
  | c :: rest => c :: resume style rest
  | [] => []

-- Without colour a style leaves no trace.
def paint (style : Style) (color : Bool) (text : Text) : Text :=
  if color then style.opening ++ style.resume text ++ reset else text

end Style
end SpecLint
