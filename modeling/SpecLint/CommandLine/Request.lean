import SpecLint.CommandLine.Arguments
import SpecLint.Config
import SpecLint.Render
import SpecLint.WordSize

namespace SpecLint
open Text

structure Overrides where
  maxFunctions : Option Nat
  maxInputs : Option Nat
  maxRuleLength : Option Nat
  maxRules : Option Nat
deriving DecidableEq

def Overrides.apply (overrides : Overrides) (config : Config) : Config :=
  { config with
    maxFunctions := overrides.maxFunctions.getD config.maxFunctions
    maxInputs := overrides.maxInputs.getD config.maxInputs
    maxRuleLength := overrides.maxRuleLength.getD config.maxRuleLength
    maxRules := overrides.maxRules.getD config.maxRules }

-- What help may be about: the program, or one of its commands.
inductive Topic where
  | program
  | lint
  | parse
  | init
  | help
deriving DecidableEq

def Topic.named? (name : Text) : Option Topic :=
  if name = "lint".toList then some .lint
  else if name = "parse".toList then some .parse
  else if name = "init".toList then some .init
  else if name = "help".toList then some .help
  else none

inductive Request where
  | lint (path : Text) (configPath : Option Text) (overrides : Overrides) (format : Format)
  | parse (path : Text) (format : Format)
  | init (output : Text)
  | help (topic : Topic)
  | version
deriving DecidableEq

def formatOf? (name : Text) : Option Format :=
  if name = "text".toList then some .text
  else if name = "json".toList then some (.json .compact)
  else if name = "json-pretty".toList then some (.json .spread)
  else none

-- A limit is a 64-bit word in decimal, perhaps with a plus sign.
def limitOf? (text : Text) : Option Nat :=
  let digits := (after? ['+'] text).getD text
  if digits.isEmpty || !digits.all Char.isDigit then none
  else if decimalValue digits < wordLimit then some (decimalValue digits)
  else none

namespace Request

def pathOption (long : String) (short : Char) (meaning : String) : OptionForm :=
  ⟨long.toList,some short,fun value => !value.isEmpty,meaning.toList⟩

def limitOption (long meaning : String) : OptionForm :=
  ⟨long.toList,none,fun value => (limitOf? value).isSome,meaning.toList⟩

def formatOption : OptionForm :=
  { long := "format".toList
    short := some 'f'
    accepts := fun value => (formatOf? value).isSome
    meaning :=
      "Output format [default: text] [possible values: text, json, json-pretty]".toList }

def lintForm : CommandForm :=
  { options :=
      [pathOption "config" 'c' "Path to a TOML configuration file",
        limitOption "max-functions" "Maximum FUNCTION blocks before warning",
        limitOption "max-inputs" "Maximum inputs per function",
        limitOption "max-rule-length" "Maximum characters per rule item",
        limitOption "max-rules" "Maximum items per RULES block", formatOption]
    operands := 1 }

def parseForm : CommandForm := ⟨[formatOption],1⟩

def initForm : CommandForm :=
  ⟨[pathOption "output" 'o' "Output path for config file [default: simplex-lint.toml]"],0⟩

def formatIn (arguments : Arguments) : Format :=
  ((arguments.value? "format".toList).bind formatOf?).getD .text

def limitIn (arguments : Arguments) (long : String) : Option Nat :=
  (arguments.value? long.toList).bind limitOf?

def ofLint (arguments : Arguments) : Request :=
  .lint (arguments.operands.headD ['.']) (arguments.value? "config".toList)
    { maxFunctions := limitIn arguments "max-functions"
      maxInputs := limitIn arguments "max-inputs"
      maxRuleLength := limitIn arguments "max-rule-length"
      maxRules := limitIn arguments "max-rules" }
    (formatIn arguments)

def ofParse (arguments : Arguments) : Option Request :=
  arguments.operands.head?.map fun path => .parse path (formatIn arguments)

def ofInit (arguments : Arguments) : Request :=
  .init ((arguments.value? "output".toList).getD "simplex-lint.toml".toList)

-- What a command makes of its arguments; help on it may be asked for among them.
def orHelp (topic : Topic) (make : Arguments → Option Request) :
    Except Refusal Arguments → Option Request
  | .ok arguments => make arguments
  | .error .help => some (.help topic)
  | .error .usage => none

-- Behind the word for help there may be the name of one command and nothing else, as no command
-- has commands below it.
def ofHelp : List Text → Option Request
  | [] => some (.help .program)
  | [name] => (Topic.named? name).map .help
  | _ => none

-- The first argument names the command. Only the version and the help may stand in its place.
-- There is no request when the arguments do not fit.
def ofArguments : List Text → Option Request
  | [] => none
  | command :: rest =>
    match Topic.named? command with
    | some .lint => orHelp .lint (fun found => some (ofLint found)) (Arguments.read lintForm rest)
    | some .parse => orHelp .parse ofParse (Arguments.read parseForm rest)
    | some .init => orHelp .init (fun found => some (ofInit found)) (Arguments.read initForm rest)
    | some .help => ofHelp rest
    | _ =>
      if command = "--version".toList ∨ startsWith ['-', 'V'] command then some .version
      else if command = "--help".toList ∨ startsWith ['-', 'h'] command then some (.help .program)
      else none

end Request
end SpecLint
