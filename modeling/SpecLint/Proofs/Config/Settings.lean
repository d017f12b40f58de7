import SpecLint.CommandLine.Request
import SpecLint.Proofs.Config.Toml

namespace SpecLint
open Text Toml

-- What a file of settings assigns. Each key is assigned by itself.
structure Settings where
  maxFunctions : Option Nat
  maxInputs : Option Nat
  maxRuleLength : Option Nat
  maxRules : Option Nat
  extensions : Option (List Text)
  functionLandmarks : Option (List Text)
  builtinTypes : Option (List Text)

def countValue (n : Nat) : Value := .integer n

def Overrides.unset : Overrides := ⟨none,none,none,none⟩

namespace Settings

def unset : Settings := ⟨none,none,none,none,none,none,none⟩

-- Both tables of words stand in one table, which may be written in any of its forms or be absent.
inductive WordsIn (settings : Settings) : Option Value → Prop where
  | absent (landmarks : settings.functionLandmarks = none) (types : settings.builtinTypes = none) :
      WordsIn settings none
  | table {origin : Origin} {words : Entries}
      (landmarks : words.lookup "function_landmarks".toList = settings.functionLandmarks.map textsValue)
      (types : words.lookup "builtin_types".toList = settings.builtinTypes.map textsValue) :
      WordsIn settings (some (.table origin words))

-- The entries of a document that assigns these settings, in any order and among any others.
structure AssignedIn (settings : Settings) (entries : Entries) : Prop where
  maxFunctions : entries.lookup "max_functions".toList = settings.maxFunctions.map countValue
  maxInputs : entries.lookup "max_inputs".toList = settings.maxInputs.map countValue
  maxRuleLength : entries.lookup "max_rule_length".toList = settings.maxRuleLength.map countValue
  maxRules : entries.lookup "max_rules".toList = settings.maxRules.map countValue
  extensions : entries.lookup "extensions".toList = settings.extensions.map textsValue
  vocabulary : settings.WordsIn (entries.lookup "vocabulary".toList)

-- For each key the limit of the run, or else what the file assigns, or else the default.
def under (settings : Settings) (limits : Overrides) : Config where
  maxFunctions := (limits.maxFunctions.or settings.maxFunctions).getD Config.standard.maxFunctions
  maxInputs := (limits.maxInputs.or settings.maxInputs).getD Config.standard.maxInputs
  maxRuleLength := (limits.maxRuleLength.or settings.maxRuleLength).getD Config.standard.maxRuleLength
  maxRules := (limits.maxRules.or settings.maxRules).getD Config.standard.maxRules
  extensions := settings.extensions.getD Config.standard.extensions
  vocabulary :=
    { functionLandmarks :=
        (settings.functionLandmarks.map .ofList).getD Vocabulary.standard.functionLandmarks
      builtinTypes := (settings.builtinTypes.map .ofList).getD Vocabulary.standard.builtinTypes }

-- A value that its reader knows again takes the place of the default.
theorem orDefault_assigned {read : Value → Option α} {write : β → Value} {made : β → α}
    (known : ∀ value, read (write value) = some (made value)) (default : α) (assigned : Option β) :
    Value.orDefault read default (assigned.map write) = some ((assigned.map made).getD default) := by
  cases assigned with
  | none => rfl
  | some value => exact known value

theorem extensions_assigned (assigned : Option (List Text)) (default : List Text) :
    Value.orDefault Value.texts? default (assigned.map textsValue) = some (assigned.getD default) := by
  rw [orDefault_assigned Config.texts?_written,Option.map_id']

theorem count_assigned (assigned : Option Nat) (default : Nat) :
    Value.orDefault Value.count? default (assigned.map countValue) = some (assigned.getD default) := by
  have known (n : Nat) : Value.count? (countValue n) = some n := Config.count?_written n
  rw [orDefault_assigned known,Option.map_id']

-- A table of words that is not assigned keeps its default beside the other one.
theorem words_assigned {settings : Settings} {value : Option Value} (assigned : settings.WordsIn value)
    (limits : Overrides) : Value.orDefault Vocabulary.ofToml? Config.standard.vocabulary value =
      some (settings.under limits).vocabulary := by
  cases assigned with
  | absent landmarks types =>
    rw [under,landmarks,types]
    rfl
  | @table origin words landmarks types =>
    change (do
      return Vocabulary.mk
        (← Value.orDefault Value.wordSet? Vocabulary.standard.functionLandmarks
          (words.lookup "function_landmarks".toList))
        (← Value.orDefault Value.wordSet? Vocabulary.standard.builtinTypes
          (words.lookup "builtin_types".toList))) = some _
    rw [landmarks,types,orDefault_assigned Config.wordSet?_texts,orDefault_assigned Config.wordSet?_texts]
    rfl

theorem ofEntries?_assigned {settings : Settings} {entries : Entries} (assigned : settings.AssignedIn entries) :
    Config.ofEntries? entries = some (settings.under .unset) := by
  obtain ⟨functions,inputs,ruleLength,rules,extensions,vocabulary⟩ := assigned
  rw [Config.ofEntries?,functions,inputs,ruleLength,rules,extensions,words_assigned vocabulary .unset]
  simp only [count_assigned,extensions_assigned]
  rfl

theorem apply_under (settings : Settings) (limits : Overrides) :
    limits.apply (settings.under .unset) = settings.under limits := by
  obtain ⟨functions,inputs,ruleLength,rules⟩ := limits
  cases functions <;> cases inputs <;> cases ruleLength <;> cases rules <;> rfl

end Settings
end SpecLint
