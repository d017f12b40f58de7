import SpecLint.Text.Basic

namespace SpecLint
open Text

-- An option of a command: `--long value`, and with a letter also `-l value`. It says which values
-- it takes and what it is for.
structure OptionForm where
  long : Text
  short : Option Char
  accepts : Text → Bool
  meaning : Text

-- What a command takes: options in any order, each at most once, and so many other arguments.
structure CommandForm where
  options : List OptionForm
  operands : Nat

-- The options that were given, by their long names, and the other arguments in order.
structure Arguments where
  values : List (Text × Text)
  operands : List Text

inductive Refusal where
  | usage
  | help
deriving DecidableEq

inductive Item where
  | option (form : OptionForm) (value : Text)
  | operand (value : Text)
  | help
  | invalid

-- How an argument reads by itself: an option may still need the next one as its value.
inductive Word where
  | item (item : Item)
  | pending (form : OptionForm)
  | separator

def beginsOption (argument : Text) : Bool := argument.head? = some '-' && argument.length > 1

def Word.ofLong (forms : List OptionForm) (text : Text) : Word :=
  let name := text.takeWhile (· != '=')
  match forms.find? (·.long == name), text.dropWhile (· != '=') with
  | some form, [] => .pending form
  | some form, _ :: value => .item (.option form value)
  | none, rest => .item (if name = "help".toList ∧ rest = [] then .help else .invalid)

-- A value may follow the letter at once, with or without an equals sign.
def Word.ofShort (forms : List OptionForm) (letter : Char) (text : Text) : Word :=
  match forms.find? (·.short = some letter) with
  | none => .item (if letter = 'h' then .help else .invalid)
  | some form =>
    match text with
    | [] => .pending form
    | '=' :: value => .item (.option form value)
    | value => .item (.option form value)

-- A single dash is an ordinary argument.
def Word.ofText (forms : List OptionForm) : Text → Word
  | '-' :: '-' :: text => if text.isEmpty then .separator else .ofLong forms text
  | '-' :: letter :: text => .ofShort forms letter text
  | text => .item (.operand text)

-- After the separator every argument is taken as it is. What looks like an option is never the
-- value of another one.
def readItems (forms : List OptionForm) : List Text → List Item
  | [] => []
  | argument :: rest =>
    match Word.ofText forms argument with
    | .separator => rest.map .operand
    | .item item => item :: readItems forms rest
    | .pending form =>
      match rest with
      | [] => [.invalid]
      | value :: rest =>
        if beginsOption value then [.invalid] else .option form value :: readItems forms rest

namespace Arguments

def none : Arguments := ⟨[],[]⟩

def value? (arguments : Arguments) (long : Text) : Option Text := arguments.values.lookup long

def take (form : CommandForm) (arguments : Arguments) : Item → Except Refusal Arguments
  | .option option value =>
    if (arguments.value? option.long).isSome || !option.accepts value then .error .usage
    else .ok { arguments with values := arguments.values ++ [(option.long,value)] }
  | .operand value =>
    if value.isEmpty || form.operands ≤ arguments.operands.length then .error .usage
    else .ok { arguments with operands := arguments.operands ++ [value] }
  | .help => .error .help
  | .invalid => .error .usage

-- Arguments are taken from left to right; the first that does not fit decides.
def read (form : CommandForm) (arguments : List Text) : Except Refusal Arguments :=
  (readItems form.options arguments).foldlM (take form) none

end Arguments
end SpecLint
