import SpecLint.Proofs.Check.References
import SpecLint.Proofs.Files.Tree
import SpecLint.Proofs.WordSet

namespace SpecLint
open Text

theorem isBuiltinType_exact (vocabulary : Vocabulary) (name : Text) :
    vocabulary.isBuiltinType name = true ↔ name ∈ vocabulary.builtinTypes.words :=
  List.contains_iff_mem

namespace TypeName

-- A name that is looked up by something else than its lowercase: characters of it are dropped, or
-- it reads as a collection of something.
def Folded (name : Text) : Prop :=
  (∃ c ∈ name, isBlank c = true ∨ c = '_') ∨
    ∃ collection ∈ collections, ∃ element ≠ [], lowercase name = collection ++ element

theorem element?_none {name : Text}
    (alone : ∀ collection ∈ collections, ∀ element ≠ [], name ≠ collection ++ element) :
    element? name = none := by
  unfold element?
  refine List.findSome?_eq_none_iff.mpr ?_
  intro collection member
  cases opens : after? collection name with
  | none => rfl
  | some element =>
    have whole := (after?_exact _ _ _).mp opens
    cases element with
    | nil => rfl
    | cons c element => exact absurd whole (alone collection member _ (List.cons_ne_nil _ _))

theorem normalize_plain {name : Text} (plain : ¬Folded name) : normalize name = lowercase name := by
  obtain ⟨solid,alone⟩ := not_or.mp plain
  have compact : (lowercase name).filter (fun c => !isBlank c && c != '_') = lowercase name := by
    refine List.filter_eq_self.mpr ?_
    intro c inside
    by_contra dropped
    have fold : isBlank c = true ∨ c = '_' := by
      cases blank : isBlank c with
      | true => exact .inl rfl
      | false => simpa [blank] using dropped
    have steady : Steady c := by
      rcases fold with blank | underscore
      · exact blank_steady blank
      · rw [underscore]
        decide
    exact solid ⟨c,lowercase_steady steady inside,fold⟩
  have single : element? (lowercase name) = none := by
    refine element?_none ?_
    intro collection member element some whole
    exact alone ⟨collection,member,element,some,whole⟩
  rw [normalize,compact,single,Option.getD_none]

end TypeName

-- A builtin type of a configuration: the word that declares it, and what its table holds for that
-- word. Words that are given are put in lowercase, those of a file stand as they are.
inductive Declared (config : Config) : (word entry : Text) → Prop where
  | given {vocabulary : Vocabulary} {words : List Text}
      (table : config.vocabulary = vocabulary.withBuiltinTypes words) (member : word ∈ words) :
      Declared config word (lowercase word)
  | loaded {tree : FileTree} {path : Text} (read : Config.load tree path = .ok config)
      (member : word ∈ config.vocabulary.builtinTypes.words) : Declared config word word

theorem Declared.mem_table {config : Config} {word entry : Text} (declared : Declared config word entry) :
    entry ∈ config.vocabulary.builtinTypes.words := by
  cases declared with
  | given table member =>
    rw [table]
    exact (WordSet.mem_ofList _ _).mpr (List.mem_map_of_mem member)
  | loaded _ member => exact member

-- A declared word is met where it is looked up as its table holds it. Any other one is flagged,
-- unless its key happens to be another builtin type or a defined one.
theorem builtin_exact {config : Config} {spec : Spec} {function : FunctionBlock} {entry : Text}
    (declared : Declared config function.returnType entry) (inSpec : function ∈ spec.functions)
    (data : spec.dataBlocks ≠ []) (some : function.returnType ≠ []) :
    Flagged config spec function ↔
      (TypeName.Folded function.returnType ∨ lowercase function.returnType ≠ entry) ∧
      TypeName.normalize function.returnType ∉ config.vocabulary.builtinTypes.words ∧
      TypeName.normalize function.returnType ∉ definedTypes spec ∧
      lowercase function.returnType ∉ definedTypes spec := by
  have unknown : Flagged config spec function ↔
      TypeName.normalize function.returnType ∉ config.vocabulary.builtinTypes.words ∧
      TypeName.normalize function.returnType ∉ definedTypes spec ∧
      lowercase function.returnType ∉ definedTypes spec := by
    rw [flagged_exact config inSpec data,isKnownType,← Bool.not_eq_true]
    simp only [Bool.or_eq_true,isBuiltinType_exact,List.contains_iff_mem,not_or,and_assoc]
    exact and_iff_right some
  rw [unknown]
  constructor
  · intro unmet
    refine ⟨?_,unmet⟩
    by_contra plain
    obtain ⟨solid,same⟩ := not_or.mp plain
    have key := TypeName.normalize_plain solid
    rw [not_ne_iff.mp same] at key
    exact unmet.1 (key ▸ declared.mem_table)
  · intro flagged
    exact flagged.2

theorem builtin_widget :
    let config := { Config.standard with
      vocabulary := Vocabulary.standard.withBuiltinTypes ["Widget".toList] }
    let spec := Spec.ofText config.vocabulary "DATA: Other\nFUNCTION: f() → Widget".toList
    ∃ function ∈ spec.functions, function.returnType = "Widget".toList ∧
      Declared config function.returnType "widget".toList ∧ ¬Flagged config spec function := by
  intro config spec
  have parts : spec.dataBlocks ≠ [] ∧
      ∃ function ∈ spec.functions, function.returnType = "Widget".toList := by decide +kernel
  obtain ⟨data,function,inSpec,returned⟩ := parts
  have declared : Declared config function.returnType (lowercase function.returnType) :=
    .given rfl (by rw [returned]; exact List.mem_singleton.mpr rfl)
  have known : TypeName.normalize "Widget".toList ∈ config.vocabulary.builtinTypes.words := by
    decide +kernel
  have lower : lowercase function.returnType = "widget".toList := by
    rw [returned]
    decide +kernel
  refine ⟨function,inSpec,returned,lower ▸ declared,?_⟩
  intro flagged
  have unmet := (builtin_exact declared inSpec data (by simp [returned])).mp flagged
  rw [returned] at unmet
  exact unmet.2.1 known

-- A file keeps the capitals of its words, and no table is asked for a word with an underscore.
theorem builtin_unmet :
    (let file := "[vocabulary]\nbuiltin_types = [\"Widget\"]\n".toList
      let tree := FileTree.ofEntries [("lint.toml".toList,.file (FileTree.encode file))]
      let config := { Config.standard with
        vocabulary := { Vocabulary.standard with builtinTypes := .ofList ["Widget".toList] } }
      let spec := Spec.ofText config.vocabulary "DATA: Other\nFUNCTION: f() → Widget".toList
      Config.load tree "lint.toml".toList = .ok config ∧
        "Widget".toList ∈ config.vocabulary.builtinTypes.words ∧
        ∃ function ∈ spec.functions, function.returnType = "Widget".toList ∧
          Flagged config spec function) ∧
    (let config := { Config.standard with
        vocabulary := Vocabulary.standard.withBuiltinTypes ["order_item".toList] }
      let spec := Spec.ofText config.vocabulary "DATA: Other\nFUNCTION: f() → order_item".toList
      ∃ function ∈ spec.functions, function.returnType = "order_item".toList ∧
        Flagged config spec function) := by
  have single : ∀ content : ByteArray, (FileTree.ofEntries [("lint.toml".toList,.file content)]).read
      "lint.toml".toList = Content.decode content := fun _ => rfl
  refine ⟨?_,by decide +kernel⟩
  intro file tree config spec
  have fits : Config.ofToml? file = some config := by decide +kernel
  refine ⟨Config.load_text ((single _).trans (Content.decode_encode file)) fits,?_⟩
  decide +kernel

end SpecLint
