import SpecLint.Config
import SpecLint.Toml.Reader
import SpecLint.WordSize

namespace SpecLint
open Text Toml

namespace Toml.Value

def text? : Value → Option Text
  | .string value => some value
  | _ => none

def count? : Value → Option Nat
  | .integer value => if 0 ≤ value then some value.toNat else none
  | _ => none

def items? : Value → Option (List Value)
  | .array items => some items
  | .tables items => some items
  | _ => none

def texts? (value : Value) : Option (List Text) := value.items?.bind (·.mapM text?)

def wordSet? (value : Value) : Option WordSet := value.texts?.map .ofList

-- A setting that is absent has its default; one that is present has to fit.
def orDefault (read : Value → Option α) (default : α) : Option Value → Option α
  | none => some default
  | some value => read value

-- The values of the named fields in order. An array gives them by position, and a moment is a
-- record of its own kind that has none of them.
def fields? (names : List Text) : Value → Option (List (Option Value))
  | .table _ entries => some (names.map (entries.lookup ·))
  | .array items | .tables items => some ((List.range names.length).map (items[·]?))
  | .moment => some (names.map fun _ => none)
  | _ => none

end Toml.Value

open Toml.Value

def Vocabulary.ofToml? (value : Value) : Option Vocabulary := do
  match ← value.fields? ["function_landmarks".toList, "builtin_types".toList] with
  | [functionLandmarks, builtinTypes] =>
    return {
      functionLandmarks :=
        ← orDefault wordSet? Vocabulary.standard.functionLandmarks functionLandmarks
      builtinTypes := ← orDefault wordSet? Vocabulary.standard.builtinTypes builtinTypes }
  | _ => none

def Config.ofEntries? (entries : Entries) : Option Config := do
  return {
    maxFunctions :=
      ← orDefault count? standard.maxFunctions (entries.lookup "max_functions".toList)
    maxInputs := ← orDefault count? standard.maxInputs (entries.lookup "max_inputs".toList)
    maxRuleLength :=
      ← orDefault count? standard.maxRuleLength (entries.lookup "max_rule_length".toList)
    maxRules := ← orDefault count? standard.maxRules (entries.lookup "max_rules".toList)
    extensions := ← orDefault texts? standard.extensions (entries.lookup "extensions".toList)
    vocabulary :=
      ← orDefault Vocabulary.ofToml? standard.vocabulary (entries.lookup "vocabulary".toList) }

def Config.ofToml? (text : Text) : Option Config := do Config.ofEntries? (← Toml.parse? text)

def tomlItem (item : Text) : Text := "    ".toList ++ Toml.quote item ++ ",\n".toList

-- An array of more than one item has a line for each.
def tomlArray (items : List Text) : Text :=
  match items with
  | [] => "[]".toList
  | [item] => '[' :: Toml.quote item ++ [']']
  | _ => "[\n".toList ++ items.flatMap tomlItem ++ [']']

def tomlLine (key : String) (value : Text) : Text :=
  key.toList ++ " = ".toList ++ value ++ ['\n']

-- Integers of the format are signed, so the upper half of the words cannot be written.
def Config.isWritable (config : Config) : Bool :=
  [config.maxFunctions, config.maxInputs, config.maxRuleLength, config.maxRules].all (· < signedLimit)

def Config.toml (config : Config) : Text :=
  tomlLine "max_functions" (decimal config.maxFunctions) ++
    tomlLine "max_inputs" (decimal config.maxInputs) ++
    tomlLine "max_rule_length" (decimal config.maxRuleLength) ++
    tomlLine "max_rules" (decimal config.maxRules) ++
    tomlLine "extensions" (tomlArray config.extensions) ++
    "\n[vocabulary]\n".toList ++
    tomlLine "function_landmarks" (tomlArray config.vocabulary.functionLandmarks.words) ++
    tomlLine "builtin_types" (tomlArray config.vocabulary.builtinTypes.words)

end SpecLint
