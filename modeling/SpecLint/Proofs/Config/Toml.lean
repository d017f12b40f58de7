import SpecLint.Proofs.Toml.Document
import SpecLint.Proofs.WordSet

namespace SpecLint
open Text Toml

def textsValue (items : List Text) : Value := .array (items.map .string)

def Vocabulary.entries (vocabulary : Vocabulary) : Entries :=
  [("function_landmarks".toList,textsValue vocabulary.functionLandmarks.words),
    ("builtin_types".toList,textsValue vocabulary.builtinTypes.words)]

namespace Config

-- Words that stand between quotes as they are.
def Plain (config : Config) : Prop :=
  (∀ extension ∈ config.extensions, PlainWord extension) ∧
    (∀ word ∈ config.vocabulary.functionLandmarks.words, PlainWord word) ∧
    ∀ word ∈ config.vocabulary.builtinTypes.words, PlainWord word

instance (config : Config) : Decidable config.Plain := inferInstanceAs (Decidable (_ ∧ _))

-- The document that a configuration is written as.
def document (config : Config) : Document where
  lines := [⟨"max_functions",.count config.maxFunctions⟩, ⟨"max_inputs",.count config.maxInputs⟩,
    ⟨"max_rule_length",.count config.maxRuleLength⟩, ⟨"max_rules",.count config.maxRules⟩,
    ⟨"extensions",.words config.extensions⟩]
  groups := [⟨"vocabulary",[⟨"function_landmarks",.words config.vocabulary.functionLandmarks.words⟩,
    ⟨"builtin_types",.words config.vocabulary.builtinTypes.words⟩]⟩]

def limits (config : Config) : List Nat :=
  [config.maxFunctions, config.maxInputs, config.maxRuleLength, config.maxRules]

theorem isWritable_iff (config : Config) :
    config.isWritable = true ↔ ∀ limit ∈ config.limits, limit < signedLimit := by
  simp only [isWritable,limits,List.all_eq_true,decide_eq_true_eq]

theorem document_text (config : Config) : config.document.text = config.toml := by
  simp only [toml,document,Document.text,Group.text,Line.text,Written.text,List.flatMap_cons,List.flatMap_nil,
    List.append_nil,List.append_assoc]
  rfl

theorem document_fits {config : Config} (writable : config.isWritable = true) (plain : config.Plain) :
    config.document.Fits := by
  have small := (isWritable_iff config).mp writable
  simp only [limits,List.forall_mem_cons] at small
  obtain ⟨functions,inputs,ruleLength,rules,_⟩ := small
  obtain ⟨extensions,landmarks,types⟩ := plain
  refine ⟨?lines,?groups,?keys⟩
  case lines =>
    simp only [document,List.forall_mem_cons,Line.Fits,Written.Fits]
    exact ⟨⟨by decide,functions⟩,⟨by decide,inputs⟩,⟨by decide,ruleLength⟩,⟨by decide,rules⟩,
      ⟨by decide,extensions⟩,List.forall_mem_nil _⟩
  case groups =>
    simp only [document,List.forall_mem_singleton,Group.Fits,List.forall_mem_cons,Line.Fits,Written.Fits,
      Line.entry,List.map_cons,List.map_nil]
    exact ⟨by decide,⟨⟨by decide,landmarks⟩,by decide,types⟩,by decide⟩
  case keys =>
    simp only [document,Document.entries,Line.entry,Group.entry,List.map_cons,List.map_nil,List.cons_append,
      List.nil_append]
    decide

-- The tables that its text makes.
def entries (config : Config) : Entries :=
  [("max_functions".toList,.integer config.maxFunctions),
    ("max_inputs".toList,.integer config.maxInputs),
    ("max_rule_length".toList,.integer config.maxRuleLength),
    ("max_rules".toList,.integer config.maxRules),
    ("extensions".toList,textsValue config.extensions),
    ("vocabulary".toList,.table .header config.vocabulary.entries)]

theorem parse?_toml {config : Config} (writable : config.isWritable = true) (plain : config.Plain) :
    parse? config.toml = some config.entries := by
  rw [← document_text,parse?_document (document_fits writable plain)]
  rfl

theorem texts?_written (items : List Text) : (textsValue items).texts? = some items := by
  change (items.map Value.string).mapM Value.text? = some items
  induction items with
  | nil => rfl
  | cons item items ih =>
    simp only [List.map_cons,List.mapM_cons,ih]
    rfl

theorem wordSet?_texts (words : List Text) : (textsValue words).wordSet? = some (.ofList words) := by
  rw [Value.wordSet?,texts?_written,Option.map_some]

theorem wordSet?_written (set : WordSet) : (textsValue set.words).wordSet? = some set := by
  rw [wordSet?_texts,WordSet.ofList_words]

theorem count?_written (n : Nat) : Value.count? (.integer n) = some n := by
  simp [Value.count?]

theorem vocabulary_written (vocabulary : Vocabulary) :
    Vocabulary.ofToml? (.table .header vocabulary.entries) = some vocabulary := by
  change (do
    return Vocabulary.mk (← (textsValue vocabulary.functionLandmarks.words).wordSet?)
      (← (textsValue vocabulary.builtinTypes.words).wordSet?)) = some vocabulary
  rw [wordSet?_written,wordSet?_written]
  rfl

-- Every key is written, so no default takes the place of a value.
theorem ofEntries?_entries (config : Config) : ofEntries? config.entries = some config := by
  change (do
    return Config.mk (← Value.count? (.integer config.maxFunctions)) (← Value.count? (.integer config.maxInputs))
      (← Value.count? (.integer config.maxRuleLength)) (← Value.count? (.integer config.maxRules))
      (← (textsValue config.extensions).texts?)
      (← Vocabulary.ofToml? (.table .header config.vocabulary.entries))) = some config
  rw [count?_written,count?_written,count?_written,count?_written,texts?_written,vocabulary_written]
  rfl

theorem ofToml?_toml {config : Config} (writable : config.isWritable = true) (plain : config.Plain) :
    ofToml? config.toml = some config := by
  rw [ofToml?,parse?_toml writable plain]
  exact ofEntries?_entries config

end Config
end SpecLint
