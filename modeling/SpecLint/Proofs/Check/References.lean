import SpecLint.Proofs.Check.Findings
import SpecLint.Proofs.Text.Lowercase
import SpecLint.Proofs.Text.Prefix
import SpecLint.Spec.Parse

namespace SpecLint
open Text

-- The check of references warns about the return type of this function.
def Flagged (config : Config) (spec : Spec) (function : FunctionBlock) : Prop :=
  (Fault.undefinedType function.returnType).diagnostic function.location ∈
    (Check.dataReferences.record config spec .start).warnings

instance (config : Config) (spec : Spec) (function : FunctionBlock) :
    Decidable (Flagged config spec function) := inferInstanceAs (Decidable (_ ∈ _))

theorem firstWord?_visible {text word : Text} (first : firstWord? text = some word) :
    ∀ c ∈ word, isBlank c = false := by
  intro c member
  unfold firstWord? at first
  split at first
  · cases first
  · cases Option.some.inj first
    simpa using List.mem_takeWhile_imp member

theorem firstWord?_some {text word : Text} (first : firstWord? text = some word) : word ≠ [] := by
  unfold firstWord? at first
  split at first
  · cases first
  · rename_i filled
    rw [← Option.some.inj first]
    simpa using filled

theorem mem_definedTypes {spec : Spec} {name : Text} : name ∈ definedTypes spec ↔
    ∃ block ∈ spec.dataBlocks, ∃ word, firstWord? block.content = some word ∧ lowercase word = name := by
  simp only [definedTypes,List.mem_map,List.mem_filterMap]
  constructor
  · intro defined
    obtain ⟨word,⟨block,member,first⟩,same⟩ := defined
    exact ⟨block,member,word,first,same⟩
  · intro defined
    obtain ⟨block,member,word,first,same⟩ := defined
    exact ⟨word,⟨block,member,first⟩,same⟩

theorem definedTypes_visible {spec : Spec} {name : Text} (defined : name ∈ definedTypes spec) :
    ∀ c ∈ name, isBlank c = false := by
  obtain ⟨block,_,word,first,rfl⟩ := mem_definedTypes.mp defined
  intro c member
  cases blank : isBlank c with
  | false => rfl
  | true =>
    have inside := lowercase_steady (blank_steady blank) member
    rw [firstWord?_visible first c inside] at blank
    cases blank

namespace TypeName

-- What stands before the name of the elements of a collection.
def openings : List Text := ["list of ".toList,"array of ".toList,"set of ".toList]

-- A collection is looked up by its elements without underscores, or by its own name where nothing
-- is left of them.
def elementKey (opening word : Text) : Text :=
  let element := (lowercase word).filter (· != '_')
  if element.isEmpty then opening.filter (!isBlank ·) else element

theorem openings_form : ∀ opening ∈ openings, opening = opening.dropLast ++ [' '] ∧
    lowercase opening.dropLast = opening.dropLast ∧
    opening.filter (fun c => !isBlank c && c != '_') = opening.filter (!isBlank ·) ∧
    opening.filter (!isBlank ·) ∈ collections := by
  decide

theorem collections_heads : ∀ collection ∈ collections, ∀ other ∈ collections, other ≠ collection →
    collection.head?.isSome ∧ other.head?.isSome ∧ other.head? ≠ collection.head? := by
  decide

theorem lowercase_opening {opening : Text} (member : opening ∈ openings) (word : Text) :
    lowercase (opening ++ word) = opening ++ lowercase word := by
  obtain ⟨ending,lower,_⟩ := openings_form opening member
  have cut := lowercase_append (show isBlank ' ' = true by decide) opening.dropLast word
  rw [lower,List.append_cons,← ending,List.append_cons,← ending] at cut
  exact cut

-- No collection begins like another one.
theorem after?_collection {collection other : Text} (member : collection ∈ collections)
    (inside : other ∈ collections) (different : other ≠ collection) (element : Text) :
    after? other (collection ++ element) = none := by
  obtain ⟨some,filled,heads⟩ := collections_heads collection member other inside different
  rw [after?_none]
  intro opens
  obtain ⟨rest,same⟩ := opens
  have first := congrArg List.head? same
  rw [List.head?_append,List.head?_append,Option.or_of_isSome filled,Option.or_of_isSome some] at first
  exact heads first

theorem findSome?_only {values : List α} {value : α} (member : value ∈ values) {find : α → Option β}
    (others : ∀ other ∈ values, other ≠ value → find other = none) :
    values.findSome? find = find value := by
  cases found : find value with
  | none =>
    rw [List.findSome?_eq_none_iff]
    intro other inside
    by_cases same : other = value
    · rw [same,found]
    · exact others other inside same
  | some result =>
    obtain ⟨above,below,rfl,fresh⟩ := List.eq_append_cons_of_mem member
    have nothing : above.findSome? find = none := by
      rw [List.findSome?_eq_none_iff]
      intro other inside
      exact others other (List.mem_append_left _ inside) (ne_of_mem_of_not_mem inside fresh)
    rw [List.findSome?_append,nothing,Option.none_or,List.findSome?_cons_of_isSome (by simp [found]),found]

theorem element?_collection {collection : Text} (member : collection ∈ collections) (element : Text) :
    element? (collection ++ element) = if element.isEmpty then none else some element := by
  have own : after? collection (collection ++ element) = some element :=
    (after?_exact _ _ _).mpr rfl
  rw [element?,findSome?_only member,own]
  · cases element <;> rfl
  · intro other inside different
    rw [after?_collection member inside different]
    rfl

theorem normalize_collection {opening word type : Text} (member : opening ∈ openings)
    (visible : ∀ c ∈ word, isBlank c = false) (written : SameLetters type (opening ++ word)) :
    normalize type = elementKey opening word := by
  obtain ⟨_,_,compact,collection⟩ := openings_form opening member
  have element : (lowercase word).filter (fun c => !isBlank c && c != '_') =
      (lowercase word).filter (· != '_') := by
    apply List.filter_congr
    intro c inside
    cases blank : isBlank c with
    | false => rfl
    | true =>
      have original := visible c (lowercase_steady (blank_steady blank) inside)
      rw [blank] at original
      cases original
  unfold normalize elementKey
  rw [lowercase_letters written,lowercase_opening member,List.filter_append,compact,element]
  dsimp only
  rw [element?_collection collection]
  split
  · rename_i empty
    rw [List.isEmpty_iff.mp empty,List.append_nil]
    rfl
  · rfl

-- Without underscores a word is looked up as it was defined.
theorem elementKey_plain (opening : Text) {word : Text} (some : word ≠ []) (plain : '_' ∉ word) :
    elementKey opening word = lowercase word := by
  have whole : (lowercase word).filter (· != '_') = lowercase word := by
    apply List.filter_eq_self.mpr
    intro c inside
    have other : c ≠ '_' := by
      intro same
      rw [same] at inside
      exact plain (lowercase_steady (by decide) inside)
    simpa using other
  have filled : lowercase word ≠ [] := lowercase_eq_nil.not.mpr some
  unfold elementKey
  rw [whole]
  exact if_neg (by simpa using filled)

end TypeName

-- The message quotes the type, so a warning with this message is about no other type.
theorem undefinedType_inj {type other location place : Text}
    (same : (Fault.undefinedType type).diagnostic location = (Fault.undefinedType other).diagnostic place) :
    type = other := by
  have message : (Fault.undefinedType type).message = (Fault.undefinedType other).message :=
    congrArg Diagnostic.message same
  exact List.append_cancel_left (List.append_cancel_right message)

theorem flagged_exact (config : Config) {spec : Spec} {function : FunctionBlock}
    (inSpec : function ∈ spec.functions) (data : spec.dataBlocks ≠ []) : Flagged config spec function ↔
      function.returnType ≠ [] ∧ isKnownType config (definedTypes spec) function.returnType = false := by
  have filled : ¬spec.dataBlocks.isEmpty = true := by simpa using data
  have warnings : (Check.dataReferences.record config spec .start).warnings =
      diagnosticsOf .warning (spec.functions.flatMap (undefinedReferences config (definedTypes spec))) := by
    rw [Check.record_findings,Check.findings,referenceFindings,if_neg filled]
    rfl
  rw [Flagged,warnings,diagnosticsOf_flatMap,List.mem_flatMap]
  constructor
  · rintro ⟨other,_,inside⟩
    unfold undefinedReferences at inside
    split at inside
    · cases inside
    · rename_i unknown
      rw [undefinedType_inj (List.mem_singleton.mp inside)]
      simpa using unknown
  · intro unknown
    refine ⟨function,inSpec,?_⟩
    unfold undefinedReferences
    rw [if_neg (by simpa using unknown)]
    exact List.mem_singleton_self _

theorem known_written {config : Config} {spec : Spec} {block : Landmark} {word type : Text}
    (inData : block ∈ spec.dataBlocks) (first : firstWord? block.content = some word)
    (written : SameLetters type word) : isKnownType config (definedTypes spec) type = true := by
  have defined : lowercase type ∈ definedTypes spec :=
    mem_definedTypes.mpr ⟨block,inData,word,first,(lowercase_letters written).symm⟩
  simp [isKnownType,defined]

theorem known_collection (config : Config) (spec : Spec) {opening word type : Text}
    (member : opening ∈ TypeName.openings) (visible : ∀ c ∈ word, isBlank c = false)
    (written : SameLetters type (opening ++ word)) : isKnownType config (definedTypes spec) type = true ↔
      config.vocabulary.isBuiltinType (TypeName.elementKey opening word) = true ∨
        TypeName.elementKey opening word ∈ definedTypes spec := by
  have blank : ' ' ∈ lowercase type := by
    rw [lowercase_letters written,TypeName.lowercase_opening member,(TypeName.openings_form opening member).1]
    simp
  have apart : lowercase type ∉ definedTypes spec := by
    intro defined
    exact absurd (definedTypes_visible defined ' ' blank) (by decide)
  simp [isKnownType,TypeName.normalize_collection member visible written,apart]

-- A defined type is known under its own name. As the element of a collection it is known when it
-- has no underscore, and otherwise only by chance.
theorem reference_exact (config : Config) (spec : Spec) {function : FunctionBlock} {block : Landmark}
    {word : Text} (inSpec : function ∈ spec.functions) (inData : block ∈ spec.dataBlocks)
    (first : firstWord? block.content = some word) :
    (SameLetters function.returnType word → ¬Flagged config spec function) ∧
      ∀ opening ∈ TypeName.openings, SameLetters function.returnType (opening ++ word) →
        (Flagged config spec function ↔ '_' ∈ word ∧
          config.vocabulary.isBuiltinType (TypeName.elementKey opening word) = false ∧
          TypeName.elementKey opening word ∉ definedTypes spec) := by
  have data : spec.dataBlocks ≠ [] := List.ne_nil_of_mem inData
  have flagged := flagged_exact config inSpec data
  refine ⟨?_,?_⟩
  · intro written
    rw [flagged,known_written inData first written]
    simp
  · intro opening member written
    have known := known_collection config spec member (firstWord?_visible first) written
    have filled : function.returnType ≠ [] := by
      intro empty
      have width := congrArg List.length written
      rw [empty,(TypeName.openings_form opening member).1] at width
      simp at width
    rw [flagged,← Bool.not_eq_true,known,not_or,Bool.not_eq_true]
    constructor
    · intro unknown
      refine ⟨?_,unknown.2⟩
      by_contra plain
      have key := TypeName.elementKey_plain opening (firstWord?_some first) plain
      rw [key] at unknown
      exact unknown.2.2 (mem_definedTypes.mpr ⟨block,inData,word,first,rfl⟩)
    · intro underscore
      exact ⟨filled,underscore.2⟩

theorem reference_widget :
    let spec := Spec.ofText .standard "DATA: Widget\nFUNCTION: f() → List of widget".toList
    ∃ function ∈ spec.functions, function.returnType = "List of widget".toList ∧
      ¬Flagged .standard spec function := by
  intro spec
  have parts : ∃ function ∈ spec.functions, function.returnType = "List of widget".toList ∧
      ∃ block ∈ spec.dataBlocks, firstWord? block.content = some "Widget".toList := by decide
  obtain ⟨function,inSpec,returned,block,inData,first⟩ := parts
  refine ⟨function,inSpec,returned,?_⟩
  intro flagged
  have written : SameLetters function.returnType ("list of ".toList ++ "Widget".toList) := by
    rw [returned]
    decide
  obtain ⟨_,collections⟩ := reference_exact .standard spec inSpec inData first
  obtain ⟨underscore,_⟩ := (collections _ (by decide) written).mp flagged
  exact absurd underscore (by decide)

-- The underscores of the defined name stay where those of the element are dropped.
theorem reference_underscore :
    let spec := Spec.ofText .standard "DATA: order_item\nFUNCTION: f() → list of order_item".toList
    ∃ function ∈ spec.functions, ∃ block ∈ spec.dataBlocks,
      firstWord? block.content = some "order_item".toList ∧
      SameLetters function.returnType ("list of ".toList ++ "order_item".toList) ∧
      Flagged .standard spec function := by
  decide +kernel

end SpecLint
