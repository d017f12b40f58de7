import SpecLint.Proofs.Landmark.Rescan
import SpecLint.Proofs.Signature
import SpecLint.Proofs.Spec.Grouping

namespace SpecLint
open Text

-- A function as it is written down: the parts are names of landmarks with their contents.
structure FunctionSource where
  name : Text
  inputs : List Text
  returnType : Text
  parts : List (Text × Text)

inductive Block where
  | function (source : FunctionSource)
  | data (content : Text)
  | constraint (content : Text)

namespace Block

def entries : Block → List (Text × Text)
  | .function source =>
    (HeaderName.function,Signature.write source.name source.inputs source.returnType) :: source.parts
  | .data content => [(HeaderName.data,content)]
  | .constraint content => [(HeaderName.constraint,content)]

def function? : Block → Option FunctionSource
  | .function source => some source
  | _ => none

def data? : Block → Option Text
  | .data content => some content
  | _ => none

def constraint? : Block → Option Text
  | .constraint content => some content
  | _ => none

end Block

def document (blocks : List Block) : Text :=
  join ['\n'] ((blocks.flatMap Block.entries).map writeEntry)

-- A landmark that attaches to the function above it.
@[mk_iff]
structure Part (vocabulary : Vocabulary) (part : Text × Text) : Prop where
  named : NameForm part.1
  known : vocabulary.isFunctionLandmark part.1 = true
  inner : opensBlock part.1 = false
  canonical : Canonical part.2

@[mk_iff]
structure FunctionSource.Valid (vocabulary : Vocabulary) (source : FunctionSource) : Prop where
  form : Signature.Form source.name source.inputs source.returnType
  distinct : (source.parts.map (·.1)).Nodup
  parts : ∀ part ∈ source.parts, Part vocabulary part

def Block.Valid (vocabulary : Vocabulary) : Block → Prop
  | .function source => source.Valid vocabulary
  | .data content => Canonical content
  | .constraint content => Canonical content

instance (vocabulary : Vocabulary) (part : Text × Text) : Decidable (Part vocabulary part) :=
  decidable_of_iff _ (part_iff vocabulary part).symm

instance (vocabulary : Vocabulary) (source : FunctionSource) : Decidable (source.Valid vocabulary) :=
  decidable_of_iff _ (FunctionSource.valid_iff vocabulary source).symm

instance (vocabulary : Vocabulary) : (block : Block) → Decidable (block.Valid vocabulary)
  | .function source => inferInstanceAs (Decidable (source.Valid vocabulary))
  | .data content => inferInstanceAs (Decidable (Canonical content))
  | .constraint content => inferInstanceAs (Decidable (Canonical content))

-- What is read is what was written.
structure FunctionSource.Read (source : FunctionSource) (function : FunctionBlock) : Prop where
  name : function.name = source.name
  inputs : function.inputs = source.inputs
  returnType : function.returnType = source.returnType
  parts : ∀ key, (function.landmarks.get? key).map (·.content) = source.parts.lookup key

namespace Block

theorem entries_named {vocabulary : Vocabulary} {block : Block} (valid : block.Valid vocabulary) :
    ∀ entry ∈ block.entries, NameForm entry.1 := by
  obtain ⟨function,data,constraint⟩ := headerName_form
  intro entry member
  cases block with
  | function source =>
    rcases List.mem_cons.mp member with rfl | part
    · exact function
    · exact (valid.parts entry part).named
  | data content =>
    cases List.mem_singleton.mp member
    exact data
  | constraint content =>
    cases List.mem_singleton.mp member
    exact constraint

theorem entries_canonical {vocabulary : Vocabulary} {block : Block} (valid : block.Valid vocabulary) :
    ∀ entry ∈ block.entries, Canonical entry.2 := by
  intro entry member
  cases block with
  | function source =>
    rcases List.mem_cons.mp member with rfl | part
    · exact .line (Signature.write_solid valid.form)
    · exact (valid.parts entry part).canonical
  | data content =>
    cases List.mem_singleton.mp member
    exact valid
  | constraint content =>
    cases List.mem_singleton.mp member
    exact valid

-- The first landmark of a block ends the function above it.
theorem entries_opens (block : Block) :
    ∃ first rest, block.entries = first :: rest ∧ opensBlock first.1 = true := by
  cases block with
  | function source => exact ⟨_,_,rfl,(opensBlock_exact _).mpr (.inl rfl)⟩
  | data content => exact ⟨_,_,rfl,(opensBlock_exact _).mpr (.inr (.inl rfl))⟩
  | constraint content => exact ⟨_,_,rfl,(opensBlock_exact _).mpr (.inr (.inr rfl))⟩

end Block

theorem document_entries {vocabulary : Vocabulary} {blocks : List Block}
    (valid : ∀ block ∈ blocks, block.Valid vocabulary) :
    (scan (document blocks)).map (·.entry) = blocks.flatMap Block.entries := by
  apply scan_entries
  · intro entry member
    obtain ⟨block,found,inside⟩ := List.mem_flatMap.mp member
    exact Block.entries_named (valid block found) entry inside
  · intro entry member
    obtain ⟨block,found,inside⟩ := List.mem_flatMap.mp member
    exact Block.entries_canonical (valid block found) entry inside

theorem own_inner {vocabulary : Vocabulary} {inner below : List Landmark}
    (parts : ∀ landmark ∈ inner, Part vocabulary landmark.entry)
    (closed : ∀ next, below.head? = some next → opensBlock next.name = true) :
    own vocabulary (inner ++ below) = inner := by
  induction inner with
  | nil =>
    cases below with
    | nil => rfl
    | cons next below => exact own_opens (closed next rfl) vocabulary below
  | cons landmark inner ih =>
    have first := parts landmark (by simp)
    rw [List.cons_append,own_known first.inner first.known,
      ih (fun other member => parts other (by simp [member]))]

theorem functionsOf_inner {vocabulary : Vocabulary} {inner : List Landmark}
    (parts : ∀ landmark ∈ inner, Part vocabulary landmark.entry) (below : List Landmark) :
    functionsOf vocabulary (inner ++ below) = functionsOf vocabulary below := by
  induction inner with
  | nil => rfl
  | cons landmark inner ih =>
    have first := parts landmark (by simp)
    have other : landmark.name ≠ HeaderName.function := (opensBlock_false.mp first.inner).1
    rw [List.cons_append,functionsOf,if_neg other,
      ih (fun other member => parts other (by simp [member]))]

-- Of names that are distinct the last one is the only one.
theorem lookup_last {landmarks : List Landmark} (distinct : (landmarks.map (·.name)).Nodup) (key : Text) :
    ((landmarks.filter (·.name = key)).getLast?).map (·.content) = (landmarks.map (·.entry)).lookup key := by
  induction landmarks with
  | nil => rfl
  | cons landmark rest ih =>
    obtain ⟨fresh,below⟩ := List.nodup_cons.mp distinct
    have read : ((landmark :: rest).map (·.entry)).lookup key =
        if key = landmark.name then some landmark.content else (rest.map (·.entry)).lookup key :=
      lookup_entry _ _ _
    rw [read]
    by_cases same : key = landmark.name
    · have none : rest.filter (·.name = key) = [] := by
        rw [List.filter_eq_nil_iff]
        intro other member equal
        have again : other.name = landmark.name := (of_decide_eq_true equal).trans same
        exact fresh (List.mem_map.mpr ⟨other,member,again⟩)
      rw [List.filter_cons_of_pos (by simp [same]),none,if_pos same]
      rfl
    · rw [List.filter_cons_of_neg (by simpa using Ne.symm same),if_neg same]
      exact ih below

theorem source_read {vocabulary : Vocabulary} {source : FunctionSource} (valid : source.Valid vocabulary)
    {header : Landmark} {inner : List Landmark}
    (signature : header.content = Signature.write source.name source.inputs source.returnType)
    (parts : inner.map (·.entry) = source.parts) :
    source.Read ((FunctionBlock.ofHeader header).attachAll inner) := by
  have heading := congrArg Prod.fst (heading_attachAll (.ofHeader header) inner)
  have written : (FunctionBlock.ofHeader header).heading.1 =
      ⟨header.content,source.name,source.inputs,source.returnType⟩ := by
    rw [signature]
    exact (congrArg Signature.ofContent signature).trans (Signature.ofContent_write valid.form)
  obtain ⟨_,name,inputs,returnType⟩ := Signature.mk.inj (heading.trans written)
  refine ⟨name,inputs,returnType,?_⟩
  intro key
  have distinct : (inner.map (·.name)).Nodup := by
    have names := valid.distinct
    rwa [← parts,List.map_map] at names
  rw [ofHeader_get?,lookup_last distinct,parts]

theorem blocks_closed {blocks : List Block} {landmarks : List Landmark}
    (entries : landmarks.map (·.entry) = blocks.flatMap Block.entries) :
    ∀ next, landmarks.head? = some next → opensBlock next.name = true := by
  intro next head
  cases blocks with
  | nil =>
    cases List.map_eq_nil_iff.mp entries
    cases head
  | cons block blocks =>
    obtain ⟨first,rest,cut,opens⟩ := block.entries_opens
    rw [List.flatMap_cons,cut] at entries
    obtain ⟨landmark,_,rfl,rfl,_⟩ := List.map_eq_cons_iff.mp entries
    cases Option.some.inj head
    exact opens

-- Each function takes the parts that are written under it and no others.
theorem functions_read {vocabulary : Vocabulary} {blocks : List Block}
    (valid : ∀ block ∈ blocks, block.Valid vocabulary) {landmarks : List Landmark}
    (entries : landmarks.map (·.entry) = blocks.flatMap Block.entries) :
    List.Forall₂ FunctionSource.Read (blocks.filterMap Block.function?)
      (functionsOf vocabulary landmarks) := by
  induction blocks generalizing landmarks with
  | nil =>
    cases List.map_eq_nil_iff.mp entries
    exact .nil
  | cons block blocks ih =>
    obtain ⟨above,below,rfl,first,rest⟩ := List.map_eq_append_iff.mp entries
    have later := ih (fun other member => valid other (by simp [member])) rest
    cases block with
    | function source =>
      have sound : source.Valid vocabulary := valid (.function source) (by simp)
      obtain ⟨header,inner,rfl,same,parts⟩ := List.map_eq_cons_iff.mp first
      obtain ⟨named,signature⟩ := Prod.mk.inj same
      have attached : ∀ landmark ∈ inner, Part vocabulary landmark.entry := fun landmark member =>
        sound.parts _ (parts ▸ List.mem_map_of_mem member)
      rw [List.cons_append,functionsOf,if_pos named,own_inner attached (blocks_closed rest),
        functionsOf_inner attached]
      exact .cons (source_read sound signature parts) later
    | data content =>
      obtain ⟨landmark,rfl,same⟩ := List.map_eq_singleton_iff.mp first
      have named : landmark.name = HeaderName.data := (Prod.mk.inj same).1
      rw [List.singleton_append,functionsOf,if_neg (by rw [named]; exact function_ne_data.symm)]
      exact later
    | constraint content =>
      obtain ⟨landmark,rfl,same⟩ := List.map_eq_singleton_iff.mp first
      have named : landmark.name = HeaderName.constraint := (Prod.mk.inj same).1
      rw [List.singleton_append,functionsOf,if_neg (by rw [named]; exact function_ne_constraint.symm)]
      exact later

-- The contents under one name, in the order of the document.
theorem contents_entries (landmarks : List Landmark) (name : Text) :
    (landmarks.filter (·.name = name)).map (·.content) =
      ((landmarks.map (·.entry)).filter (·.1 = name)).map (·.2) := by
  rw [List.filter_map,List.map_map]
  rfl

theorem parts_avoid {vocabulary : Vocabulary} {source : FunctionSource} (valid : source.Valid vocabulary)
    {name : Text} (opens : opensBlock name = true) : source.parts.filter (·.1 = name) = [] := by
  rw [List.filter_eq_nil_iff]
  intro part member same
  have inner := (valid.parts part member).inner
  rw [of_decide_eq_true same,opens] at inner
  cases inner

theorem Block.data_entries {vocabulary : Vocabulary} {block : Block} (valid : block.Valid vocabulary) :
    (block.entries.filter (·.1 = HeaderName.data)).map (·.2) = block.data?.toList := by
  cases block with
  | function source =>
    have parts := parts_avoid (show source.Valid vocabulary from valid)
      ((opensBlock_exact HeaderName.data).mpr (.inr (.inl rfl)))
    simp [entries,data?,function_ne_data,parts]
  | data content => simp [entries,data?]
  | constraint content => simp [entries,data?,data_ne_constraint.symm]

theorem Block.constraint_entries {vocabulary : Vocabulary} {block : Block} (valid : block.Valid vocabulary) :
    (block.entries.filter (·.1 = HeaderName.constraint)).map (·.2) = block.constraint?.toList := by
  cases block with
  | function source =>
    have parts := parts_avoid (show source.Valid vocabulary from valid)
      ((opensBlock_exact HeaderName.constraint).mpr (.inr (.inr rfl)))
    simp [entries,constraint?,function_ne_constraint,parts]
  | data content => simp [entries,constraint?,data_ne_constraint]
  | constraint content => simp [entries,constraint?]

theorem contents_read {blocks : List Block} {name : Text} {content? : Block → Option Text}
    (each : ∀ block ∈ blocks, (block.entries.filter (·.1 = name)).map (·.2) = (content? block).toList)
    {landmarks : List Landmark} (entries : landmarks.map (·.entry) = blocks.flatMap Block.entries) :
    (landmarks.filter (·.name = name)).map (·.content) = blocks.filterMap content? := by
  rw [contents_entries,entries,List.filterMap_eq_flatMap_toList,List.filter_flatMap,List.map_flatMap]
  exact List.flatMap_congr each

-- Parsing undoes writing: a document gives back its functions, its data and its constraints.
theorem ofText_document (vocabulary : Vocabulary) (blocks : List Block)
    (valid : ∀ block ∈ blocks, block.Valid vocabulary) :
    let spec := Spec.ofText vocabulary (document blocks)
    List.Forall₂ FunctionSource.Read (blocks.filterMap Block.function?) spec.functions ∧
      spec.dataBlocks.map (·.content) = blocks.filterMap Block.data? ∧
      spec.constraints.map (·.content) = blocks.filterMap Block.constraint? := by
  intro spec
  have entries := document_entries valid
  have same : spec = ⟨_,_,_,_⟩ := ofText_finished vocabulary (document blocks)
  rw [same]
  refine ⟨functions_read valid entries,?_,?_⟩
  · exact contents_read (fun block member => Block.data_entries (valid block member)) entries
  · exact contents_read (fun block member => Block.constraint_entries (valid block member)) entries

def sampleBlocks : List Block :=
  [.function ⟨"merge".toList,["left".toList,"right".toList],"list".toList,
      [("RULES".toList,"keep order\n- no repeats".toList),("ERRORS".toList,[])]⟩,
    .data "Pair: left, right".toList]

theorem ofText_sample : let spec := Spec.ofText .standard (document sampleBlocks)
    List.Forall₂ FunctionSource.Read (sampleBlocks.filterMap Block.function?) spec.functions ∧
      spec.dataBlocks.map (·.content) = ["Pair: left, right".toList] ∧
      spec.constraints.map (·.content) = [] :=
  ofText_document .standard sampleBlocks (by decide)

end SpecLint
