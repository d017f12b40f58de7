import SpecLint.Proofs.Landmark.Rescan

namespace SpecLint
open Text

def leadOf (lines : List Text) : List Text := lines.takeWhile fun line => (Header.ofLine? line).isNone

-- The names and contents on some lines, wherever these stand in a document.
def entriesOf : List Text → List (Text × Text)
  | [] => []
  | line :: rest =>
    match Header.ofLine? line with
    | none => entriesOf rest
    | some header =>
      (header.name,blockContent header.inline (trim (join ['\n'] (leadOf rest)))) :: entriesOf rest

theorem outline_lead (total number offset : Nat) (lines : List Text) :
    (outline total number offset lines).lead = leadOf lines := by
  induction lines generalizing number offset with
  | nil => rfl
  | cons line rest ih =>
    cases found : Header.ofLine? line with
    | none =>
      rw [outline_text found,leadOf,List.takeWhile_cons_of_pos (by simp [found])]
      exact congrArg (line :: ·) (ih _ _)
    | some header =>
      rw [outline_header found,leadOf,List.takeWhile_cons_of_neg (by simp [found])]

theorem outline_entriesOf (total number offset : Nat) (lines : List Text) :
    (outline total number offset lines).landmarks.map (·.entry) = entriesOf lines := by
  induction lines generalizing number offset with
  | nil => rfl
  | cons line rest ih =>
    unfold entriesOf
    cases found : Header.ofLine? line with
    | none =>
      rw [outline_text found]
      exact ih _ _
    | some header =>
      rw [outline_header found,List.map_cons,outline_lead]
      exact congrArg _ (ih _ _)

theorem scan_entriesOf (text : Text) : (scan text).map (·.entry) = entriesOf (split '\n' text) :=
  outline_entriesOf _ _ _ _

theorem entriesOf_plain {lines : List Text} (plain : Plain lines) (below : List Text) :
    entriesOf (lines ++ below) = entriesOf below := by
  induction lines with
  | nil => rfl
  | cons line rest ih =>
    rw [List.cons_append,entriesOf,plain line (by simp)]
    exact ih fun other member => plain other (by simp [member])

-- A block ends above lines that begin with a header, and at the line feed that ends a text.
def Ends (below : List Text) : Prop := Closed below ∨ below = [[]]

theorem leadOf_ends {below : List Text} (ends : Ends below) : leadOf below = [] ∨ leadOf below = [[]] := by
  rcases ends with closed | rfl
  · cases below with
    | nil => exact .inl rfl
    | cons line rest =>
      obtain ⟨header,found⟩ := Option.isSome_iff_exists.mp (closed line rfl)
      exact .inl (List.takeWhile_cons_of_neg (by simp [found]))
  · exact .inr rfl

theorem body_append (above : List Text) {below : List Text} (ends : Ends below) :
    trim (join ['\n'] (leadOf (above ++ below))) = trim (join ['\n'] (leadOf above)) := by
  have feed : ∀ lead, trim (join ['\n'] (lead ++ [[]])) = trim (join ['\n'] lead) := by
    intro lead
    by_cases empty : lead = []
    · rw [empty]
      rfl
    · rw [join_above,ended_eq_join empty,List.append_assoc]
      exact trim_after (by simp [join,blank_lineFeed]) _
  unfold leadOf
  rw [List.takeWhile_append,← leadOf,← leadOf]
  split
  · rename_i whole
    have all : leadOf above = above := (List.takeWhile_prefix _).eq_of_length whole
    rw [all]
    rcases leadOf_ends ends with nothing | line
    · rw [nothing,List.append_nil]
    · rw [line,feed]
  · rfl

-- What stands above a header is read without what stands below it.
theorem entriesOf_append (above : List Text) {below : List Text} (ends : Ends below) :
    entriesOf (above ++ below) = entriesOf above ++ entriesOf below := by
  induction above with
  | nil => rfl
  | cons line rest ih =>
    rw [List.cons_append,entriesOf,entriesOf,body_append rest ends,ih]
    cases Header.ofLine? line with
    | none => rfl
    | some header => rfl

end SpecLint
