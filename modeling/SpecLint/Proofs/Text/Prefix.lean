import Mathlib.Data.List.Infix
import SpecLint.Proofs.Text.Split

namespace SpecLint.Text

theorem after?_exact (opening text rest : Text) :
    after? opening text = some rest ↔ text = opening ++ rest := by
  induction opening generalizing text with
  | nil => simp [after?]
  | cons expected opening ih =>
    cases text with
    | nil => simp [after?]
    | cons c text =>
      unfold after?
      split
      · rename_i same
        rw [ih,same,List.cons_append,List.cons.injEq]
        simp
      · rename_i different
        simp [different]

theorem after?_none (opening text : Text) : after? opening text = none ↔ ¬opening <+: text := by
  rw [Option.eq_none_iff_forall_ne_some]
  constructor
  · intro never opens
    obtain ⟨rest,same⟩ := opens
    exact never rest ((after?_exact _ _ _).mpr same.symm)
  · intro closed rest found
    exact closed ⟨rest,((after?_exact _ _ _).mp found).symm⟩

theorem startsWith_exact (opening text : Text) : startsWith opening text = true ↔ opening <+: text := by
  rw [startsWith,← Option.not_isNone,Bool.not_eq_true',Option.isNone_eq_false_iff]
  rw [← not_iff_not,← after?_none]
  simp

theorem occurs_exact (part text : Text) : occurs part text = true ↔ part <:+: text := by
  induction text with
  | nil => simp [occurs]
  | cons c text ih => rw [occurs,Bool.or_eq_true,startsWith_exact,ih,List.infix_cons_iff]

theorem prefix_line {part : Text} {separator : Char} (plain : separator ∉ part) (line rest : Text) :
    part <+: line ++ separator :: rest ↔ part <+: line := by
  induction part generalizing line with
  | nil => simp
  | cons c part ih =>
    have other : c ≠ separator := by
      intro same
      simp [same] at plain
    have below : separator ∉ part := fun member => plain (List.mem_cons_of_mem _ member)
    cases line with
    | nil => simp [List.cons_prefix_cons,other]
    | cons d line => rw [List.cons_append,List.cons_prefix_cons,List.cons_prefix_cons,ih below]

-- A part without the separator stands on one of its sides.
theorem infix_line {part : Text} {separator : Char} (plain : separator ∉ part) (line rest : Text) :
    part <:+: line ++ separator :: rest ↔ part <:+: line ∨ part <:+: rest := by
  induction line with
  | nil =>
    have first := prefix_line plain [] rest
    rw [List.nil_append] at first
    rw [List.nil_append,List.infix_cons_iff,first,List.infix_nil,List.prefix_nil]
  | cons c line ih =>
    have first := prefix_line plain (c :: line) rest
    rw [List.cons_append] at first
    rw [List.cons_append,List.infix_cons_iff,first,ih,List.infix_cons_iff,or_assoc]

theorem infix_before {c : Char} {before : Text} (plain : c ∉ before) (part text : Text) :
    c :: part <:+: before ++ text ↔ c :: part <:+: text := by
  induction before with
  | nil => rfl
  | cons d before ih =>
    have other : c ≠ d := by
      intro same
      simp [same] at plain
    have below : c ∉ before := fun member => plain (List.mem_cons_of_mem _ member)
    rw [List.cons_append,List.infix_cons_iff,List.cons_prefix_cons,ih below]
    simp [other]

theorem infix_after {c : Char} {after : Text} (plain : c ∉ after) (part text : Text) :
    part ++ [c] <:+: text ++ after ↔ part ++ [c] <:+: text := by
  have turned : ∀ whole : Text, c :: part.reverse <:+: whole.reverse ↔ part ++ [c] <:+: whole := by
    intro whole
    have both : (part ++ [c]).reverse <:+: whole.reverse ↔ part ++ [c] <:+: whole := List.reverse_infix
    rwa [List.reverse_append] at both
  rw [← turned,← turned,List.reverse_append]
  exact infix_before (by simpa using plain) part.reverse text.reverse

end SpecLint.Text
