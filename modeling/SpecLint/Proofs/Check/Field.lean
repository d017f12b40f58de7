import SpecLint.Check.Evolution
import SpecLint.Proofs.Text.Lines
import SpecLint.Proofs.Text.Lowercase
import SpecLint.Proofs.Text.Prefix

namespace SpecLint
open Text

def Carries (key line : Text) : Prop :=
  key ++ [':'] <+: lowercase (trim line) ∨ key ++ [' ',':'] <+: lowercase (trim line)

-- What stands on a line between its first colon and the second one, or the end.
def LineValue (line value : Text) : Prop := ∃ before tail,
  lowercase (trim line) = before ++ ':' :: tail ∧ ':' ∉ before ∧ value = trim (tail.takeWhile (· != ':'))

-- The value of a key: that of the last line which carries it.
def LastValue (key content value : Text) : Prop := ∃ above line below,
  lines content = above ++ line :: below ∧ Carries key line ∧ (∀ other ∈ below, ¬Carries key other) ∧
    LineValue line value

theorem carries_exact (key line : Text) : Carries key line ↔ ∃ rest, lowercase (trim line) = key ++ rest ∧
    (startsWith [':'] rest || startsWith [' ',':'] rest) = true := by
  simp only [Carries,Bool.or_eq_true,startsWith_exact]
  constructor
  · intro carries
    rcases carries with ⟨rest,same⟩ | ⟨rest,same⟩
    · exact ⟨':' :: rest,by simp [← same],.inl ⟨rest,rfl⟩⟩
    · exact ⟨' ' :: ':' :: rest,by simp [← same],.inr ⟨rest,rfl⟩⟩
  · intro opens
    obtain ⟨rest,same,tight | spaced⟩ := opens
    · exact .inl (same ▸ (List.prefix_append_right_inj key).mpr tight)
    · exact .inr (same ▸ (List.prefix_append_right_inj key).mpr spaced)

instance (key line : Text) : Decidable (Carries key line) := inferInstanceAs (Decidable (_ ∨ _))

theorem fieldValue?_exact (key line : Text) : fieldValue? key (lowercase (trim line)) =
    if Carries key line then some (trim (((split ':' (lowercase (trim line)))[1]?).getD []))
    else none := by
  rw [fieldValue?]
  cases opens : after? key (lowercase (trim line)) with
  | none =>
    have other : ¬Carries key line := by
      rw [carries_exact]
      intro carries
      obtain ⟨rest,same,_⟩ := carries
      exact (after?_none _ _).mp opens ⟨rest,same.symm⟩
    rw [if_neg other]
  | some rest =>
    have carries : Carries key line ↔ (startsWith [':'] rest || startsWith [' ',':'] rest) = true := by
      rw [carries_exact,(after?_exact _ _ _).mp opens]
      simp
    simp only [carries]

theorem lineValue_exact {key line : Text} (carries : Carries key line) (value : Text) :
    LineValue line value ↔ trim (((split ':' (lowercase (trim line)))[1]?).getD []) = value := by
  have second : ∀ before tail, ':' ∉ before → (split ':' (before ++ ':' :: tail))[1]? =
      some (tail.takeWhile (· != ':')) := by
    intro before tail plain
    rw [split_line plain,List.getElem?_cons_succ,← List.head?_eq_getElem?,split_head]
  constructor
  · intro reads
    obtain ⟨before,tail,same,plain,rfl⟩ := reads
    rw [same,second before tail plain,Option.getD_some]
  · intro read
    have colon : ':' ∈ lowercase (trim line) := by
      rcases carries with opens | opens
      · exact opens.subset (by simp)
      · exact opens.subset (by simp)
    obtain ⟨before,tail,same,plain⟩ := List.eq_append_cons_of_mem colon
    rw [same,second before tail plain,Option.getD_some] at read
    exact ⟨before,tail,same,plain,read.symm⟩

theorem lastField?_exact (key content value : Text) :
    lastField? key content = some value ↔ LastValue key content value := by
  have reads : ∀ line, fieldValue? key (lowercase (trim line)) = some value ↔
      Carries key line ∧ LineValue line value := by
    intro line
    rw [fieldValue?_exact]
    split
    · rename_i carries
      rw [lineValue_exact carries,Option.some.injEq]
      simp [carries]
    · rename_i other
      simp [other]
  rw [lastField?,List.getLast?_filterMap,List.findSome?_eq_some_iff]
  constructor
  · intro found
    obtain ⟨later,line,earlier,cut,read,others⟩ := found
    obtain ⟨carries,value⟩ := (reads line).mp read
    have whole := congrArg List.reverse cut
    refine ⟨earlier.reverse,line,later.reverse,by simpa using whole,carries,?_,value⟩
    intro other member
    have skipped := others other (by simpa using member)
    rw [fieldValue?_exact] at skipped
    simpa using skipped
  · intro last
    obtain ⟨above,line,below,cut,carries,others,value⟩ := last
    refine ⟨below.reverse,line,above.reverse,by simp [cut],(reads line).mpr ⟨carries,value⟩,?_⟩
    intro other member
    rw [fieldValue?_exact,if_neg (others other (by simpa using member))]

theorem fieldValue?_blank (key : Text) : fieldValue? key (lowercase (trim [])) = none := by
  have empty : lowercase (trim []) = [] := rfl
  rw [fieldValue?_exact,if_neg]
  intro carries
  rcases carries with opens | opens
  · simpa [empty] using opens.length_le
  · simpa [empty] using opens.length_le

theorem lastField?_lines {content other : Text} (same : trimmedLines content = trimmedLines other)
    (key : Text) : lastField? key content = lastField? key other := by
  have trimmed := filterMap_trimmedLines (fun line => fieldValue? key (lowercase (trim line)))
    (fun line => by rw [trim_trim]) (fieldValue?_blank key)
  rw [lastField?,lastField?,← trimmed,← trimmed,same]

-- A solid part stands on one of the lines, whatever the blanks around that line.
theorem infix_lines {part : Text} (solid : Solid part) (text : Text) :
    part <:+: lowercase text ↔ ∃ line ∈ trimmedLines text, part <:+: lowercase line := by
  obtain ⟨first,last⟩ := trim_eq_self.mp solid.trimmed
  have around : ∀ line, part <:+: lowercase (trim line) ↔ part <:+: lowercase line := by
    intro line
    obtain ⟨before,after,whole,above,below⟩ := trim_parts line
    conv => rhs; rw [whole]
    rw [lowercase_after below,lowercase_before above,List.append_assoc]
    obtain ⟨c,tail,rfl⟩ := List.exists_cons_of_ne_nil solid.some
    obtain ⟨front,d,same⟩ := (List.eq_nil_or_concat (c :: tail)).resolve_left solid.some
    have noHead : c ∉ before := fun member => by simpa [first c rfl] using above c member
    have noLast : d ∉ after := fun member => by
      have visible := last d (by rw [same]; simp)
      simpa [visible] using below d member
    rw [infix_before noHead,same,List.concat_eq_append,infix_after noLast]
  have single : ∀ line, (∃ other ∈ [trim line].filter (!·.isEmpty), part <:+: lowercase other) ↔
      part <:+: lowercase line := by
    intro line
    rw [← around line]
    cases trim line with
    | nil => simp [lowercase,lowerFrom,solid.some]
    | cons c kept => simp
  induction text using lines_induction with
  | last line noFeed => rw [trimmedLines_line noFeed,single]
  | above line rest noFeed ih =>
    have below : part <:+: lowercase rest ↔ ∃ other ∈ trimmedLines rest, part <:+: lowercase other := ih
    rw [lowercase_append blank_lineFeed,infix_line solid.oneLine,below,trimmedLines_append,
      trimmedLines_line noFeed,← single line]
    simp only [List.mem_append,or_and_right,exists_or]

theorem namesField_lines {content other key : Text} (same : trimmedLines content = trimmedLines other)
    (tight : Solid (key ++ [':'])) (spaced : Solid (key ++ [' ',':'])) :
    namesField (lowercase content) key = namesField (lowercase other) key := by
  rw [Bool.eq_iff_iff]
  simp only [namesField,Bool.or_eq_true,occurs_exact]
  rw [infix_lines tight,infix_lines spaced,same,← infix_lines tight,← infix_lines spaced]

end SpecLint
