import SpecLint.Landmark.Header
import SpecLint.Proofs.Text.Lines

namespace SpecLint
open Text

-- The form of a name, apart from how it is read: a capital, then one or more capitals or
-- underscores.
def NameForm (name : Text) : Prop := ∃ first rest, name = first :: rest ∧ first.isUpper = true ∧
  rest ≠ [] ∧ ∀ c ∈ rest, c.isUpper = true ∨ c = '_'

-- A name and a colon stand at the very start, whatever follows.
def BeginsHeader (text : Text) : Prop := ∃ name tail, text = name ++ ':' :: tail ∧ NameForm name

theorem isHeaderName_exact (name : Text) : isHeaderName name = true ↔ NameForm name := by
  cases name with
  | nil => simp [isHeaderName,NameForm]
  | cons first rest =>
    simp only [isHeaderName,NameForm,Bool.and_eq_true,Bool.not_eq_true',List.isEmpty_eq_false_iff,
      List.all_eq_true,Bool.or_eq_true,beq_iff_eq]
    constructor
    · intro parts
      obtain ⟨⟨capital,some⟩,form⟩ := parts
      exact ⟨first,rest,rfl,capital,some,form⟩
    · intro form
      obtain ⟨_,_,same,capital,some,form⟩ := form
      obtain ⟨rfl,rfl⟩ := List.cons.inj same
      exact ⟨⟨capital,some⟩,form⟩

instance (name : Text) : Decidable (NameForm name) := decidable_of_iff _ (isHeaderName_exact name)

theorem headerName_form : NameForm HeaderName.function ∧ NameForm HeaderName.data ∧
    NameForm HeaderName.constraint := by decide

theorem nameForm_chars {name : Text} (form : NameForm name) {c : Char} (member : c ∈ name) :
    c.isUpper = true ∨ c = '_' := by
  obtain ⟨first,rest,rfl,capital,_,others⟩ := form
  rcases List.mem_cons.mp member with rfl | member
  · exact .inl capital
  · exact others c member

-- No character outside the class can stand in a name, a colon and a line feed least of all.
theorem nameForm_avoids {name : Text} (form : NameForm name) {c : Char} (small : c.isUpper = false)
    (other : c ≠ '_') : c ∉ name := by
  intro member
  rcases nameForm_chars form member with capital | line
  · simp [small] at capital
  · exact other line

theorem nameForm_colon {name : Text} (form : NameForm name) : ':' ∉ name :=
  nameForm_avoids form (by decide) (by decide)

theorem nameForm_lineFeed {name : Text} (form : NameForm name) : '\n' ∉ name :=
  nameForm_avoids form (by decide) (by decide)

theorem Header.ofLine?_exact (line : Text) (header : Header) : Header.ofLine? line = some header ↔
    ∃ tail, line = header.name ++ ':' :: tail ∧ NameForm header.name ∧ header.inline = trim tail := by
  constructor
  · intro found
    unfold Header.ofLine? at found
    split at found
    · cases found
    · rename_i c tail rest
      dsimp only at found
      split at found
      · rename_i named
        cases found
        have colon : c = ':' := by
          have stop := List.head?_dropWhile_not (· != ':') line
          simpa [rest] using stop
        subst colon
        refine ⟨tail,?_,(isHeaderName_exact _).mp named,rfl⟩
        dsimp only
        rw [← rest,List.takeWhile_append_dropWhile]
      · cases found
  · intro parts
    obtain ⟨tail,rfl,form,inline⟩ := parts
    have plain := nameForm_colon form
    rw [Header.ofLine?,dropWhile_before plain,takeWhile_before plain]
    simp [(isHeaderName_exact _).mpr form,← inline]

theorem Header.ofLine?_none (line : Text) : Header.ofLine? line = none ↔ ¬BeginsHeader line := by
  rw [Option.eq_none_iff_forall_ne_some]
  constructor
  · intro never begins
    obtain ⟨name,tail,same,form⟩ := begins
    exact never ⟨name,trim tail⟩ ((Header.ofLine?_exact _ _).mpr ⟨tail,same,form,rfl⟩)
  · intro plain header found
    obtain ⟨tail,same,form,_⟩ := (Header.ofLine?_exact _ _).mp found
    exact plain ⟨_,tail,same,form⟩

-- Blanks at the end of a line stand behind its colon, among what is trimmed.
theorem Header.ofLine?_after {after : Text} (blank : ∀ c ∈ after, isBlank c = true) (line : Text) :
    Header.ofLine? (line ++ after) = Header.ofLine? line := by
  apply Option.ext
  intro header
  rw [Header.ofLine?_exact,Header.ofLine?_exact]
  constructor
  · intro parts
    obtain ⟨tail,same,form,inline⟩ := parts
    rcases List.append_eq_append_iff.mp same with ⟨part,opens,below⟩ | ⟨part,opens,below⟩
    · have colon : ':' ∈ after := by simp [below]
      exact absurd (blank _ colon) (by decide)
    · cases part with
      | nil =>
        have opens : after = ':' :: tail := below.symm
        have colon : ':' ∈ after := by simp [opens]
        exact absurd (blank _ colon) (by decide)
      | cons c part =>
        obtain ⟨rfl,rfl⟩ := List.cons.inj below
        exact ⟨part,opens,form,inline.trans (trim_after blank part)⟩
  · intro parts
    obtain ⟨tail,rfl,form,inline⟩ := parts
    exact ⟨tail ++ after,by simp,form,inline.trans (trim_after blank tail).symm⟩

theorem Header.ofLine?_dropReturn (line : Text) : Header.ofLine? (dropReturn line) = Header.ofLine? line := by
  rcases dropReturn_cases line with same | ending
  · rw [same]
  · conv => rhs; rw [ending]
    exact (Header.ofLine?_after (by simp [blank_return]) _).symm

theorem beginsHeader_empty : ¬BeginsHeader [] := by
  intro begins
  obtain ⟨name,tail,same,_⟩ := begins
  simp at same

-- Names hold no line feed, so only the first line of a text decides.
theorem beginsHeader_line {line : Text} (plain : '\n' ∉ line) (rest : Text) :
    BeginsHeader (line ++ '\n' :: rest) ↔ BeginsHeader line := by
  constructor
  · intro begins
    obtain ⟨name,tail,same,form⟩ := begins
    rcases List.append_eq_append_iff.mp same with ⟨part,named,below⟩ | ⟨part,opens,below⟩
    · cases part with
      | nil => cases (List.cons.inj below).1
      | cons c part =>
        obtain ⟨rfl,_⟩ := List.cons.inj below
        exact absurd (by simp [named]) (nameForm_lineFeed form)
    · cases part with
      | nil => cases (List.cons.inj below).1
      | cons c part =>
        obtain ⟨rfl,_⟩ := List.cons.inj below
        exact ⟨name,part,opens,form⟩
  · intro begins
    obtain ⟨name,tail,rfl,form⟩ := begins
    exact ⟨name,tail ++ '\n' :: rest,by simp,form⟩

end SpecLint
