import SpecLint.Config
import SpecLint.Json.Record

namespace SpecLint
open Json

def Vocabulary.json (vocabulary : Vocabulary) : Json := .object
  [("function_landmarks".toList,texts vocabulary.functionLandmarks.words),
   ("builtin_types".toList,texts vocabulary.builtinTypes.words)]

def Json.wordSet? (json : Json) : Option WordSet := (json.list? text?).map .ofList

-- A table of words that is given replaces the standard one; the other table stays.
def Vocabulary.ofJson? (json : Json) : Option Vocabulary := do
  match ← json.fields? ["function_landmarks".toList, "builtin_types".toList] with
  | [functionLandmarks, builtinTypes] =>
    return {
      functionLandmarks :=
        ← orDefault wordSet? Vocabulary.standard.functionLandmarks functionLandmarks
      builtinTypes := ← orDefault wordSet? Vocabulary.standard.builtinTypes builtinTypes }
  | _ => none

def Config.json (config : Config) : Json := .object
  [("max_functions".toList,.number config.maxFunctions),
   ("max_inputs".toList,.number config.maxInputs),
   ("max_rule_length".toList,.number config.maxRuleLength),
   ("max_rules".toList,.number config.maxRules),
   ("extensions".toList,texts config.extensions),
   ("vocabulary".toList,config.vocabulary.json)]

def Config.ofJson? (json : Json) : Option Config := do
  match ← json.fields? ["max_functions".toList, "max_inputs".toList, "max_rule_length".toList,
      "max_rules".toList, "extensions".toList, "vocabulary".toList] with
  | [maxFunctions, maxInputs, maxRuleLength, maxRules, extensions, vocabulary] =>
    return {
      maxFunctions := ← orDefault word? standard.maxFunctions maxFunctions
      maxInputs := ← orDefault word? standard.maxInputs maxInputs
      maxRuleLength := ← orDefault word? standard.maxRuleLength maxRuleLength
      maxRules := ← orDefault word? standard.maxRules maxRules
      extensions := ← orDefault (list? text?) standard.extensions extensions
      vocabulary := ← orDefault Vocabulary.ofJson? standard.vocabulary vocabulary }
  | _ => none

end SpecLint
