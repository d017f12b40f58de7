import SpecLint.Proofs.Landmark.Compose

namespace SpecLint
open Text

-- Whether a content is read back as it is now, told by its first two lines: the first one does not
-- end in a blank, and the second one is neither indented nor blank nor a header.
def Survives (content : Text) : Prop := '\n' ∉ content ∨ ∃ first rest,
  content = first ++ '\n' :: rest ∧ '\n' ∉ first ∧
  (∀ c, first.getLast? = some c → isBlank c = false) ∧
  (∀ c, rest.head? = some c → isBlank c = false) ∧
  ¬BeginsHeader (rest.takeWhile (· != '\n'))

-- A header at the start of any line but the first.
def HeaderBelow (text : Text) : Prop :=
  ∃ above below, text = above ++ '\n' :: below ∧ BeginsHeader below

theorem headerBelow_plain {text : Text} (plain : ∀ line ∈ split '\n' text, ¬BeginsHeader line) :
    ¬HeaderBelow text := by
  intro header
  obtain ⟨above,below,rfl,begins⟩ := header
  obtain ⟨line,rest,cut⟩ := List.exists_cons_of_ne_nil (split_ne_nil '\n' below)
  refine plain line ?_ ((first_line cut).mp begins)
  rw [split_append,cut]
  exact List.mem_append_right _ List.mem_cons_self

theorem plain_lines {text : Text} (first : ¬BeginsHeader (text.takeWhile (· != '\n')))
    (below : ¬HeaderBelow text) : ∀ line ∈ split '\n' text, ¬BeginsHeader line := by
  intro line member begins
  obtain ⟨above,rest,cut⟩ := List.append_of_mem member
  have head := split_head '\n' text
  have whole := join_split '\n' text
  rw [cut] at head whole
  cases above with
  | nil => exact first (Option.some.inj head ▸ begins)
  | cons top above =>
    rw [join_above,ended_eq_join (List.cons_ne_nil _ _),List.append_assoc,List.singleton_append] at whole
    have plain : ∀ other ∈ line :: rest, '\n' ∉ other := fun other inside =>
      split_parts (show other ∈ split '\n' text by rw [cut]; exact List.mem_append_right _ inside)
    exact below ⟨_,_,whole.symm,(first_line (split_join (List.cons_ne_nil _ _) plain)).mpr begins⟩

theorem headerBelow_after {rest : Text} (header : HeaderBelow rest) (before : Text) :
    HeaderBelow (before ++ rest) := by
  obtain ⟨above,below,rfl,begins⟩ := header
  exact ⟨before ++ above,below,(List.append_assoc _ _ _).symm,begins⟩

theorem headerBelow_before {text : Text} (header : HeaderBelow text) (after : Text) :
    HeaderBelow (text ++ after) := by
  obtain ⟨above,_,rfl,name,tail,rfl,form⟩ := header
  exact ⟨above,name ++ ':' :: (tail ++ after),by simp,name,tail ++ after,rfl,form⟩

-- Trimming moves no line to the start of the text but the one that is then its first.
theorem headerBelow_trim {text : Text} (header : HeaderBelow (trim text)) : HeaderBelow text := by
  obtain ⟨before,after,whole,_⟩ := trim_parts text
  rw [whole]
  exact headerBelow_before (headerBelow_after header before) after

theorem append_line {first other rest more : Text} (plain : '\n' ∉ first) (noFeed : '\n' ∉ other)
    (same : first ++ '\n' :: rest = other ++ '\n' :: more) : first = other ∧ rest = more := by
  have lines := congrArg (·.takeWhile (· != '\n')) same
  rw [takeWhile_before plain,takeWhile_before noFeed] at lines
  subst lines
  exact ⟨rfl,(List.cons.inj (List.append_cancel_left same)).2⟩

-- Below the second line of a content all lines are those of the document.
theorem blockContent_below {inline body first rest : Text} (oneLine : '\n' ∉ inline)
    (plain : ¬HeaderBelow body) (noFeed : '\n' ∉ first)
    (same : blockContent inline body = first ++ '\n' :: rest) : ¬HeaderBelow rest := by
  unfold blockContent at same
  split at same
  · intro header
    rw [same,List.append_cons] at plain
    exact plain (headerBelow_after header _)
  · split at same
    · rw [same] at oneLine
      simp at oneLine
    · rw [← (append_line oneLine noFeed same).2]
      exact plain

theorem entriesOf_below {lines : List Text} (oneLines : ∀ line ∈ lines, '\n' ∉ line)
    {entry : Text × Text} (member : entry ∈ entriesOf lines) {first rest : Text} (noFeed : '\n' ∉ first)
    (same : entry.2 = first ++ '\n' :: rest) : ¬HeaderBelow rest := by
  induction lines with
  | nil => cases member
  | cons line lines ih =>
    have below : ∀ other ∈ lines, '\n' ∉ other := fun other inside => oneLines other (by simp [inside])
    unfold entriesOf at member
    cases found : Header.ofLine? line with
    | none =>
      rw [found] at member
      exact ih below member
    | some header =>
      rw [found] at member
      rcases List.mem_cons.mp member with rfl | deeper
      · obtain ⟨tail,whole,_,inline⟩ := (Header.ofLine?_exact _ _).mp found
        refine blockContent_below ?_ ?_ noFeed same
        · intro feed
          rw [inline] at feed
          apply oneLines line List.mem_cons_self
          rw [whole]
          simp [(trim_sublist tail).subset feed]
        · refine mt headerBelow_trim (headerBelow_plain ?_)
          have lead : ∀ other ∈ leadOf lines, '\n' ∉ other := fun other inside =>
            below other ((List.takeWhile_sublist _).subset inside)
          by_cases empty : leadOf lines = []
          · simp [empty,join,split,beginsHeader_empty]
          · rw [split_join empty lead]
            intro other inside
            exact (Header.ofLine?_none _).mp (by simpa using List.mem_takeWhile_imp inside)
      · exact ih below deeper

theorem scan_below {text : Text} {landmark : Landmark} (member : landmark ∈ scan text) {first rest : Text}
    (noFeed : '\n' ∉ first) (same : landmark.content = first ++ '\n' :: rest) : ¬HeaderBelow rest := by
  have entry : landmark.entry ∈ entriesOf (split '\n' text) := by
    rw [← scan_entriesOf]
    exact List.mem_map_of_mem member
  exact entriesOf_below (fun _ inside => split_parts inside) entry noFeed same

theorem canonical_survives {content : Text} (canonical : Canonical content) : Survives content := by
  cases canonical with
  | empty => exact .inl List.not_mem_nil
  | line solid => exact .inl solid.oneLine
  | @block first rest solid some trimmed plain =>
    refine .inr ⟨first,rest,rfl,solid.oneLine,(trim_eq_self.mp solid.trimmed).2,
      (trim_eq_self.mp trimmed).1,plain _ ?_⟩
    exact List.mem_of_mem_head? (split_head '\n' rest)

-- A scanned content has nothing blank around it and no header below its second line, so nothing but
-- what happens around its first line feed is left to ask.
theorem survives_canonical {text : Text} {landmark : Landmark} (member : landmark ∈ scan text)
    (survives : Survives landmark.content) : Canonical landmark.content := by
  have trimmed := scan_trimmed member
  rcases survives with oneLine | ⟨first,rest,same,noFeed,ends,starts,second⟩
  · by_cases empty : landmark.content = []
    · rw [empty]
      exact .empty
    · exact .line ⟨empty,oneLine,trimmed⟩
  · have below := scan_below member noFeed same
    rw [same] at trimmed ⊢
    obtain ⟨head,last⟩ := trim_eq_self.mp trimmed
    have opened : first ≠ [] := by
      rintro rfl
      exact absurd (head '\n' rfl) (by decide)
    have filled : rest ≠ [] := by
      rintro rfl
      exact absurd (last '\n' (by simp)) (by decide)
    refine .block ⟨opened,noFeed,trim_eq_self.mpr ⟨?_,ends⟩⟩ filled (trim_eq_self.mpr ⟨starts,?_⟩)
      (plain_lines second below)
    · intro c found
      apply head c
      rw [List.head?_append,found,Option.some_or]
    · intro c found
      apply last c
      rw [List.getLast?_append_of_ne_nil _ (List.cons_ne_nil _ _),List.getLast?_cons_of_ne_nil filled,found]

-- Which landmarks are read back as they are when they are written down.
theorem rescan_survives (text : Text) (landmark : Landmark) (member : landmark ∈ scan text) :
    (∃ again, scan landmark.render = [again] ∧ again.name = landmark.name ∧
      again.content = landmark.content) ↔ Survives landmark.content := by
  have form := scan_named member
  constructor
  · intro kept
    obtain ⟨again,single,_,content⟩ := kept
    exact canonical_survives (rewritten_canonical form single content)
  · intro survives
    exact canonical_rewritten form (survives_canonical member survives)

-- A return before the first line feed is lost; further down it is kept, as is the indentation that
-- hides a header.
theorem rescan_survives_return :
    let landmark : Landmark := ⟨"RULES".toList,"a\nb\r\n  DATA: c".toList,1,0,24⟩
    let other : Landmark := ⟨"RULES".toList,"a\r\nb".toList,1,0,11⟩
    (landmark ∈ scan "RULES: a \n\n b\r\n  DATA: c".toList ∧
      ∃ again, scan landmark.render = [again] ∧ again.name = landmark.name ∧
        again.content = landmark.content) ∧
    other ∈ scan "RULES:\na\r\nb".toList ∧
      ¬∃ again, scan other.render = [again] ∧ again.name = other.name ∧ again.content = other.content := by
  intro landmark other
  have first : landmark ∈ scan "RULES: a \n\n b\r\n  DATA: c".toList := by decide
  have second : other ∈ scan "RULES:\na\r\nb".toList := by decide
  refine ⟨⟨first,(rescan_survives _ _ first).mpr ?_⟩,second,mt (rescan_survives _ _ second).mp ?_⟩
  · have above : trim "a".toList = "a".toList := by decide
    have below : trim "b\r\n  DATA: c".toList = "b\r\n  DATA: c".toList := by decide
    exact .inr ⟨_,_,rfl,by decide,(trim_eq_self.mp above).2,(trim_eq_self.mp below).1,
      (Header.ofLine?_none _).mp (by decide)⟩
  · intro survives
    rcases survives with oneLine | ⟨line,rest,same,noFeed,ends,_⟩
    · exact oneLine (by decide)
    · have cut : "a\r".toList ++ '\n' :: "b".toList = line ++ '\n' :: rest := same
      obtain ⟨rfl,_⟩ := append_line (by decide) noFeed cut
      exact absurd (ends '\r' rfl) (by decide)

end SpecLint
