import SpecLint.Proofs.Landmark.Compose
import SpecLint.Proofs.Spec.Document

namespace SpecLint
open Text

-- A block as it is typed: a name, a colon, and a text of one line or more.
def writeBlock (block : Text × Text) : Text := block.1 ++ ':' :: block.2

-- The content of a typed block, whose first line stands behind the colon.
def typedContent (text : Text) : Text :=
  blockContent (trim ((split '\n' text).headD [])) (trim (join ['\n'] (split '\n' text).tail))

-- Below its first line a typed text may say anything but a header.
def Bodied (text : Text) : Prop := ∀ line ∈ (split '\n' text).tail, ¬BeginsHeader line

theorem writeBlock_lines {block : Text × Text} (form : NameForm block.1) :
    ∃ line body, split '\n' block.2 = line :: body ∧
      split '\n' (writeBlock block) = (block.1 ++ ':' :: line) :: body := by
  obtain ⟨line,body,cut⟩ := List.exists_cons_of_ne_nil (split_ne_nil '\n' block.2)
  have plain : '\n' ∉ block.1 ++ [':'] := by
    have noFeed := nameForm_lineFeed form
    simp [noFeed]
  have lines := split_before plain cut
  rw [List.append_assoc,List.append_assoc] at lines
  exact ⟨line,body,cut,lines⟩

theorem block_header {name : Text} (form : NameForm name) (line : Text) :
    Header.ofLine? (name ++ ':' :: line) = some ⟨name,trim line⟩ :=
  (Header.ofLine?_exact _ _).mpr ⟨line,rfl,form,rfl⟩

theorem leadOf_plain {lines : List Text} (plain : Plain lines) : leadOf lines = lines := by
  apply List.takeWhile_eq_self_iff.mpr
  intro line member
  rw [plain line member]
  rfl

theorem entriesOf_block {block : Text × Text} (form : NameForm block.1) (bodied : Bodied block.2) :
    entriesOf (split '\n' (writeBlock block)) = [(block.1,typedContent block.2)] := by
  obtain ⟨line,body,cut,lines⟩ := writeBlock_lines form
  have plain : Plain body := by
    unfold Bodied at bodied
    rw [cut] at bodied
    exact (plain_exact _).mpr bodied
  have nothing : entriesOf body = [] := by
    have below := entriesOf_plain plain []
    rwa [List.append_nil] at below
  rw [lines,entriesOf,block_header form,typedContent,cut]
  simp only [nothing,leadOf_plain plain,List.headD_cons,List.tail_cons]

theorem blocks_closing {blocks : List (Text × Text)} (named : ∀ block ∈ blocks, NameForm block.1) :
    Closed (blocks.flatMap fun block => split '\n' (writeBlock block)) := by
  intro first found
  cases blocks with
  | nil => cases found
  | cons block rest =>
    have form := named block List.mem_cons_self
    obtain ⟨line,body,_,lines⟩ := writeBlock_lines form
    rw [List.flatMap_cons,lines] at found
    cases Option.some.inj found
    rw [block_header form]
    rfl

-- Blocks that are typed one below the other are scanned one by one.
theorem scan_blocks {blocks : List (Text × Text)} (named : ∀ block ∈ blocks, NameForm block.1)
    (bodied : ∀ block ∈ blocks, Bodied block.2) :
    (scan (join ['\n'] (blocks.map writeBlock))).map (·.entry) =
      blocks.map fun block => (block.1,typedContent block.2) := by
  cases blocks with
  | nil => rfl
  | cons block rest =>
    rw [scan_entriesOf,split_join_texts '\n' (by simp),List.flatMap_map]
    generalize block :: rest = blocks at named bodied
    induction blocks with
    | nil => rfl
    | cons block rest ih =>
      have namedRest : ∀ other ∈ rest, NameForm other.1 := fun other member =>
        named other (List.mem_cons_of_mem _ member)
      rw [List.flatMap_cons,entriesOf_append _ (.inl (blocks_closing namedRest)),
        entriesOf_block (named block List.mem_cons_self) (bodied block List.mem_cons_self),
        ih namedRest fun other member => bodied other (List.mem_cons_of_mem _ member)]
      rfl

-- Landmarks that begin no block of the document belong to the header above them.
theorem functionsOf_single (vocabulary : Vocabulary) {header : Landmark} {under : List Landmark}
    (named : header.name = HeaderName.function)
    (inner : ∀ landmark ∈ under, opensBlock landmark.name = false) :
    functionsOf vocabulary (header :: under) =
      [(FunctionBlock.ofHeader header).attachAll
        (under.filter (vocabulary.isFunctionLandmark ·.name))] := by
  have whole : under.takeWhile (!opensBlock ·.name) = under := by
    apply List.takeWhile_eq_self_iff.mpr
    intro landmark member
    rw [inner landmark member]
    rfl
  have alone : functionsOf vocabulary under = [] := by
    have headings := functionsOf_headings vocabulary under
    rw [List.filter_eq_nil_iff.mpr,List.map_nil,List.map_eq_nil_iff] at headings
    · exact headings
    · intro landmark member same
      exact (opensBlock_false.mp (inner landmark member)).1 (of_decide_eq_true same)
  rw [functionsOf,if_pos named,alone,own,whole]

-- A document with one function has what is typed under it, as far as the vocabulary knows it.
theorem ofText_blocks (vocabulary : Vocabulary) {signature : Text} (heading : Bodied signature)
    {blocks : List (Text × Text)} (named : ∀ block ∈ blocks, NameForm block.1)
    (bodied : ∀ block ∈ blocks, Bodied block.2) (inner : ∀ block ∈ blocks, opensBlock block.1 = false)
    (distinct : (blocks.map (·.1)).Nodup) :
    ∃ function, (Spec.ofText vocabulary (join ['\n']
        (((HeaderName.function,signature) :: blocks).map writeBlock))).functions = [function] ∧
      ∀ key, vocabulary.isFunctionLandmark key = true →
        (function.landmarks.get? key).map (·.content) = (blocks.lookup key).map typedContent := by
  have allNamed : ∀ block ∈ (HeaderName.function,signature) :: blocks, NameForm block.1 :=
    List.forall_mem_cons.mpr ⟨headerName_form.1,named⟩
  have entries := scan_blocks allNamed (List.forall_mem_cons.mpr ⟨heading,bodied⟩)
  rw [ofText_finished]
  obtain ⟨header,under,cut,first,rest⟩ := List.map_eq_cons_iff.mp entries
  have names : under.map (·.name) = blocks.map (·.1) := by
    have firsts := congrArg (List.map Prod.fst) rest
    rwa [List.map_map,List.map_map] at firsts
  have innerUnder : ∀ landmark ∈ under, opensBlock landmark.name = false := by
    have closed : ∀ name ∈ blocks.map (·.1), opensBlock name = false := List.forall_mem_map.mpr inner
    rw [← names] at closed
    exact List.forall_mem_map.mp closed
  have single := (congrArg (functionsOf vocabulary) cut).trans
    (functionsOf_single vocabulary (Prod.mk.inj first).1 innerUnder)
  refine ⟨_,single,?_⟩
  intro key known
  rw [attached_get?,if_pos known,lookup_last (names ▸ distinct),rest,lookup_map]

end SpecLint
