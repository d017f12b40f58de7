import SpecLint.Proofs.Landmark.Partition

namespace SpecLint
open Text

-- A content as it is written down again: nothing, a solid line, or a solid line above a trimmed
-- body that holds no header line.
inductive Canonical : Text → Prop where
  | empty : Canonical []
  | line (solid : Solid line) : Canonical line
  | block (solid : Solid line) (some : body ≠ []) (trimmed : trim body = body)
      (plain : ∀ other ∈ split '\n' body, ¬BeginsHeader other) : Canonical (line ++ '\n' :: body)

-- A name with its content, written like a landmark.
def writeEntry (entry : Text × Text) : Text := entry.1 ++ ": ".toList ++ entry.2

def Landmark.entry (landmark : Landmark) : Text × Text := (landmark.name,landmark.content)

theorem plain_exact (lines : List Text) : Plain lines ↔ ∀ line ∈ lines, ¬BeginsHeader line := by
  unfold Plain
  simp only [Header.ofLine?_none]

-- Put together again, the parts of a content that is not canonical lose something.
theorem canonical_exact {content line : Text} {body : List Text}
    (cut : split '\n' content = line :: body) : Canonical content ↔
      Plain body ∧ blockContent (trim line) (trim (join ['\n'] body)) = content := by
  constructor
  · intro canonical
    cases canonical with
    | empty =>
      cases cut
      exact ⟨by simp [Plain],rfl⟩
    | line solid =>
      rw [split_plain solid.oneLine] at cut
      cases cut
      refine ⟨by simp [Plain],?_⟩
      rw [solid.trimmed]
      simp [blockContent,solid.some,join,trim,trimStart,trimEnd]
    | @block first text solid some trimmed plain =>
      rw [split_line solid.oneLine] at cut
      cases cut
      refine ⟨(plain_exact _).mpr plain,?_⟩
      rw [join_split,trimmed,solid.trimmed]
      simp [blockContent,solid.some,some]
  · intro kept
    obtain ⟨plain,same⟩ := kept
    have whole := join_split '\n' content
    have noFeed : '\n' ∉ line := split_parts (show line ∈ split '\n' content by simp [cut])
    have parts : ∀ other ∈ body, '\n' ∉ other := fun other member =>
      split_parts (show other ∈ split '\n' content by simp [cut,member])
    rw [cut] at whole
    have short := (trim_sublist line).length_le
    have inner := (trim_sublist (join ['\n'] body)).length_le
    cases body with
    | nil =>
      have single : line = content := by simpa [join] using whole
      subst single
      cases line with
      | nil => exact .empty
      | cons c line =>
        refine .line ⟨by simp,noFeed,?_⟩
        unfold blockContent at same
        split at same
        · simp [join,trim,trimStart,trimEnd] at same
        · simpa [join,trim,trimStart,trimEnd] using same
    | cons next body =>
      rw [join_cons _ _ _ (by simp),List.append_assoc,List.singleton_append] at whole
      subst whole
      unfold blockContent at same
      split at same
      · have lengths := congrArg List.length same
        simp only [List.length_append,List.length_cons] at lengths
        omega
      · rename_i first
        split at same
        · have lengths := congrArg List.length same
          simp only [List.length_append,List.length_cons] at lengths
          omega
        · rename_i last
          have kept : '\n' ∉ trim line := fun member => noFeed ((trim_sublist line).subset member)
          have lines := congrArg (split '\n') same
          rw [split_line kept,split_line noFeed] at lines
          have firstSame := (List.cons.inj lines).1
          rw [firstSame] at same
          have bodySame := (List.cons.inj (List.append_cancel_left same)).2
          refine .block ⟨?_,noFeed,firstSame⟩ ?_ bodySame ?_
          · rw [← firstSame]
            simpa using first
          · rw [← bodySame]
            simpa using last
          · rw [split_join (by simp) parts]
            exact (plain_exact _).mp plain

instance (lines : List Text) : Decidable (Plain lines) :=
  inferInstanceAs (Decidable (∀ line ∈ lines, Header.ofLine? line = none))

instance (content : Text) : Decidable (Canonical content) :=
  match cut : split '\n' content with
  | [] => absurd cut (split_ne_nil '\n' content)
  | _ :: _ => decidable_of_iff _ (canonical_exact cut).symm

theorem entry_lines {name : Text} (form : NameForm name) {content line : Text} {body : List Text}
    (cut : split '\n' content = line :: body) :
    split '\n' (writeEntry (name,content)) = (name ++ ':' :: ' ' :: line) :: body := by
  have width : ": ".toList = [':',' '] := rfl
  have plain : '\n' ∉ name ++ [':',' '] := by
    have noFeed := nameForm_lineFeed form
    simp [noFeed]
  have lines := split_before plain cut
  simpa [writeEntry,width] using lines

theorem entry_header {name : Text} (form : NameForm name) (line : Text) :
    Header.ofLine? (name ++ ':' :: ' ' :: line) = some ⟨name,trim line⟩ :=
  (Header.ofLine?_exact _ _).mpr ⟨' ' :: line,rfl,form,(trim_cons (by decide) line).symm⟩

-- An entry with nothing but text below it, read from its lines.
theorem outline_entry {name : Text} (form : NameForm name) (line : Text) {body below : List Text}
    (plain : Plain body) (closed : Closed below) (total number offset : Nat) :
    ∃ landmark, (outline total number offset
        ((name ++ ':' :: ' ' :: line) :: (body ++ below))).landmarks = landmark ::
          (outline total (number + 1 + body.length)
            (offset + byteLength (ended ((name ++ ':' :: ' ' :: line) :: body))) below).landmarks ∧
      landmark.name = name ∧
      landmark.content = blockContent (trim line) (trim (join ['\n'] body)) := by
  rw [outline_block (entry_header form line) plain closed]
  exact ⟨_,rfl,rfl,rfl⟩

def entryLines (entries : List (Text × Text)) : List Text :=
  entries.flatMap fun entry => split '\n' (writeEntry entry)

theorem entries_closed {entries : List (Text × Text)} (named : ∀ entry ∈ entries, NameForm entry.1) :
    Closed (entryLines entries) := by
  intro first found
  cases entries with
  | nil => cases found
  | cons entry rest =>
    have form := named entry (by simp)
    obtain ⟨line,body,cut⟩ := List.exists_cons_of_ne_nil (split_ne_nil '\n' entry.2)
    rw [entryLines,List.flatMap_cons,entry_lines form cut] at found
    cases Option.some.inj found
    rw [entry_header form line]
    rfl

theorem outline_entries {entries : List (Text × Text)} (named : ∀ entry ∈ entries, NameForm entry.1)
    (canonical : ∀ entry ∈ entries, Canonical entry.2) (total number offset : Nat) :
    (outline total number offset (entryLines entries)).landmarks.map (·.entry) = entries := by
  induction entries generalizing number offset with
  | nil => rfl
  | cons entry rest ih =>
    have form := named entry (by simp)
    have namedRest : ∀ other ∈ rest, NameForm other.1 := fun other member => named other (by simp [member])
    obtain ⟨line,body,cut⟩ := List.exists_cons_of_ne_nil (split_ne_nil '\n' entry.2)
    obtain ⟨plain,content⟩ := (canonical_exact cut).mp (canonical entry (by simp))
    rw [show entryLines (entry :: rest) = (entry.1 ++ ':' :: ' ' :: line) :: (body ++ entryLines rest) by
      rw [entryLines,List.flatMap_cons,entry_lines form cut,entryLines,List.cons_append]]
    obtain ⟨landmark,read,name,kept⟩ := outline_entry form line plain (entries_closed namedRest)
      total number offset
    have same : landmark.entry = entry := by
      rw [Landmark.entry,name,kept,content]
    rw [read,List.map_cons,ih namedRest (fun other member => canonical other (by simp [member])),same]

-- Written entries are read back in order, whatever their number.
theorem scan_entries {entries : List (Text × Text)} (named : ∀ entry ∈ entries, NameForm entry.1)
    (canonical : ∀ entry ∈ entries, Canonical entry.2) :
    (scan (join ['\n'] (entries.map writeEntry))).map (·.entry) = entries := by
  cases entries with
  | nil => rfl
  | cons entry rest =>
    unfold scan
    rw [split_join_texts '\n' (by simp),List.flatMap_map]
    exact outline_entries named canonical _ _ _

theorem scan_named {text : Text} {landmark : Landmark} (member : landmark ∈ scan text) :
    NameForm landmark.name := by
  obtain ⟨_,_,_,_,cut⟩ := outline_cuts (reached_start text) landmark member
  exact cut.named

-- Nothing else is read back as it was written.
theorem rewritten_canonical {name content : Text} (form : NameForm name) {again : Landmark}
    (single : scan (writeEntry (name,content)) = [again]) (kept : again.content = content) :
    Canonical content := by
  obtain ⟨line,body,cut⟩ := List.exists_cons_of_ne_nil (split_ne_nil '\n' content)
  obtain ⟨lead,below,parts,plain,closed⟩ := lines_split body
  rw [scan,entry_lines form cut,parts] at single
  obtain ⟨first,read,_,inner⟩ := outline_entry form line plain closed
    (byteLength (writeEntry (name,content))) 1 0
  rw [read] at single
  obtain ⟨rfl,nothing⟩ := List.cons.inj single
  have whole := closed_landmarks closed nothing
  rw [whole,List.append_nil] at parts
  subst parts
  exact (canonical_exact cut).mpr ⟨plain,inner.symm.trans kept⟩

theorem canonical_rewritten {name content : Text} (form : NameForm name) (canonical : Canonical content) :
    ∃ again, scan (writeEntry (name,content)) = [again] ∧ again.name = name ∧ again.content = content := by
  have one : (scan (join ['\n'] ([(name,content)].map writeEntry))).map (·.entry) = [(name,content)] :=
    scan_entries (by simpa using form) (by simpa using canonical)
  rw [List.map_singleton,join,List.intercalate_singleton] at one
  obtain ⟨again,single,same⟩ := List.map_eq_singleton_iff.mp one
  obtain ⟨named,kept⟩ := Prod.mk.inj same
  exact ⟨again,single,named,kept⟩

-- A landmark written down is read back as it was exactly when its content is canonical.
theorem rescan_exact (text : Text) (landmark : Landmark) (member : landmark ∈ scan text) :
    (∃ again, scan landmark.render = [again] ∧ again.name = landmark.name ∧
      again.content = landmark.content) ↔ Canonical landmark.content := by
  have form := scan_named member
  constructor
  · intro kept
    obtain ⟨again,single,_,content⟩ := kept
    exact rewritten_canonical form single content
  · intro canonical
    exact canonical_rewritten form canonical

theorem rescan_body : ∃ again, scan (Landmark.render ⟨"RULES".toList,"x\ny".toList,1,0,12⟩) = [again] ∧
    again.name = "RULES".toList ∧ again.content = "x\ny".toList :=
  (rescan_exact "RULES: x\n  y".toList ⟨"RULES".toList,"x\ny".toList,1,0,12⟩ (by decide)).mpr (by decide)

-- Trimming takes the indentation away from a first line of the body, which then begins a block.
theorem rescan_splits : let landmark := Landmark.mk "RULES".toList "x\nERRORS: y".toList 1 0 20
    landmark ∈ scan "RULES: x\n  ERRORS: y".toList ∧ ¬∃ again, scan landmark.render = [again] ∧
      again.name = landmark.name ∧ again.content = landmark.content := by
  intro landmark
  have two : (scan landmark.render).length = 2 := by decide
  refine ⟨by decide,?_⟩
  intro kept
  obtain ⟨again,single,_⟩ := kept
  simp [single] at two

end SpecLint
