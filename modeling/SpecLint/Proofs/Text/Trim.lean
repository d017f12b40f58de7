import Mathlib.Data.List.TakeWhile
import Mathlib.Tactic.MkIffOfInductiveProp
import SpecLint.Text.Blank

namespace SpecLint.Text

theorem blank_lineFeed : isBlank '\n' = true := by decide

theorem blank_return : isBlank '\r' = true := by decide

-- The end of a text is trimmed like the start of the text read backwards.
theorem trimEnd_reverse (text : Text) : (trimEnd text).reverse = trimStart text.reverse := by
  induction text with
  | nil => rfl
  | cons c text ih =>
    rw [trimStart] at ih
    rw [trimEnd,List.reverse_cons,trimStart,List.dropWhile_append,← ih]
    cases below : trimEnd text with
    | nil => by_cases blank : isBlank c <;> simp [blank]
    | cons d kept => simp

theorem trimEnd_eq (text : Text) : trimEnd text = (trimStart text.reverse).reverse := by
  rw [← trimEnd_reverse,List.reverse_reverse]

theorem trimStart_before {before : Text} (blank : ∀ c ∈ before, isBlank c = true) (text : Text) :
    trimStart (before ++ text) = trimStart text := List.dropWhile_append_of_pos blank

theorem trimStart_eq_nil {text : Text} : trimStart text = [] ↔ ∀ c ∈ text, isBlank c = true :=
  List.dropWhile_eq_nil_iff

theorem trimEnd_after {after : Text} (blank : ∀ c ∈ after, isBlank c = true) (text : Text) :
    trimEnd (text ++ after) = trimEnd text := by
  rw [trimEnd_eq,List.reverse_append,trimStart_before (by simpa using blank),← trimEnd_eq]

theorem trim_before {before : Text} (blank : ∀ c ∈ before, isBlank c = true) (text : Text) :
    trim (before ++ text) = trim text := by
  rw [trim,trimStart_before blank,trim]

theorem trim_after {after : Text} (blank : ∀ c ∈ after, isBlank c = true) (text : Text) :
    trim (text ++ after) = trim text := by
  rw [trim,trimStart,List.dropWhile_append]
  split
  · rename_i nothing
    have inner : trimStart text = [] := trimStart_eq_nil.mpr (by simpa using nothing)
    have outer : after.dropWhile isBlank = [] := trimStart_eq_nil.mpr blank
    rw [trim,inner,outer]
  · rw [trimEnd_after blank]
    rfl

theorem trim_cons {c : Char} (blank : isBlank c = true) (text : Text) : trim (c :: text) = trim text := by
  have single : ∀ d ∈ [c], isBlank d = true := by simpa using blank
  exact trim_before single text

theorem trimEnd_sublist (text : Text) : (trimEnd text).Sublist text := by
  rw [← List.reverse_sublist,trimEnd_reverse]
  exact List.dropWhile_sublist _

theorem trimStart_sublist (text : Text) : (trimStart text).Sublist text := List.dropWhile_sublist _

theorem trim_sublist (text : Text) : (trim text).Sublist text :=
  (trimEnd_sublist _).trans (trimStart_sublist _)

theorem trimStart_eq_self {text : Text} :
    trimStart text = text ↔ ∀ c, text.head? = some c → isBlank c = false := by
  cases text with
  | nil => simp [trimStart]
  | cons c text =>
    by_cases blank : isBlank c
    · have shorter := List.length_dropWhile_le isBlank text
      simp only [trimStart,List.dropWhile_cons_of_pos blank,List.head?_cons,Option.some.injEq,
        forall_eq',blank,Bool.true_eq_false,iff_false]
      intro same
      rw [same,List.length_cons] at shorter
      omega
    · simp [trimStart,blank]

theorem trimEnd_eq_self {text : Text} :
    trimEnd text = text ↔ ∀ c, text.getLast? = some c → isBlank c = false := by
  rw [trimEnd_eq,List.reverse_eq_iff,trimStart_eq_self,List.head?_reverse]

-- A text is trimmed when neither end of it is blank.
theorem trim_eq_self {text : Text} : trim text = text ↔
    (∀ c, text.head? = some c → isBlank c = false) ∧
      ∀ c, text.getLast? = some c → isBlank c = false := by
  rw [← trimStart_eq_self,← trimEnd_eq_self]
  constructor
  · intro trimmed
    have kept := trimEnd_sublist (trimStart text)
    rw [← trim,trimmed] at kept
    have first : trimStart text = text :=
      (trimStart_sublist text).eq_of_length_le kept.length_le
    exact ⟨first,by rwa [trim,first] at trimmed⟩
  · intro ends
    obtain ⟨first,last⟩ := ends
    rw [trim,first,last]

-- A line with something on it and nothing around it.
@[mk_iff]
structure Solid (line : Text) : Prop where
  some : line ≠ []
  oneLine : '\n' ∉ line
  trimmed : trim line = line

instance (line : Text) : Decidable (Solid line) := decidable_of_iff _ (solid_iff line).symm

end SpecLint.Text
