import SpecLint.Proofs.Text.Split
import SpecLint.Style

namespace SpecLint.Style
open Text

def isCode (c : Char) : Bool := c.isDigit || c == ';'

-- The length of the colour sequence that a text begins with: between the bracket and the letter that
-- ends it there are digits and semicolons alone.
def sequence? : Text → Option Nat
  | '\x1b' :: '[' :: rest =>
    match rest.dropWhile isCode with
    | 'm' :: _ => some ((rest.takeWhile isCode).length + 3)
    | _ => none
  | _ => none

-- A text without its colour sequences. `skip` characters still belong to the one found last.
def stripFrom : (skip : Nat) → Text → Text
  | _, [] => []
  | skip + 1, _ :: rest => stripFrom skip rest
  | 0, c :: rest =>
    match sequence? (c :: rest) with
    | some length => stripFrom (length - 1) rest
    | none => c :: stripFrom 0 rest

def strip (text : Text) : Text := stripFrom 0 text

theorem stripFrom_skip (word rest : Text) : stripFrom word.length (word ++ rest) = strip rest := by
  induction word with
  | nil => rfl
  | cons c word ih => exact ih

theorem sequence?_found {codes : Text} (all : ∀ c ∈ codes, isCode c = true) (rest : Text) :
    sequence? (escape :: '[' :: (codes ++ 'm' :: rest)) = some (codes.length + 3) := by
  have stops : ∀ c, ('m' :: rest).head? = some c → isCode c = false := by
    intro c first
    cases Option.some.inj first
    rfl
  obtain ⟨taken,left⟩ := span_word all stops
  simp only [sequence?,escape,left,taken]

theorem strip_sequence {codes : Text} (all : ∀ c ∈ codes, isCode c = true) (rest : Text) :
    strip (escape :: '[' :: (codes ++ 'm' :: rest)) = strip rest := by
  have skipped := stripFrom_skip ('[' :: (codes ++ ['m'])) rest
  have length : ('[' :: (codes ++ ['m'])).length = codes.length + 3 - 1 := by simp
  rw [length,List.cons_append,List.append_assoc,List.singleton_append] at skipped
  unfold strip
  rw [stripFrom,sequence?_found all]
  exact skipped

-- Only an escape begins a sequence.
theorem strip_cons {c : Char} (other : c ≠ escape) (rest : Text) : strip (c :: rest) = c :: strip rest := by
  have none : sequence? (c :: rest) = none := by
    unfold sequence?
    split
    · rename_i same
      exact absurd (List.cons.inj same).1 other
    · rfl
  unfold strip
  rw [stripFrom,none]

-- A text is another one with colour sequences in it, whatever follows.
def Decorates (coloured plain : Text) : Prop := ∀ rest, strip (coloured ++ rest) = plain ++ strip rest

namespace Decorates

theorem strip {coloured plain : Text} (decorates : Decorates coloured plain) : Style.strip coloured = plain := by
  have whole := decorates []
  rwa [List.append_nil,show Style.strip [] = [] from rfl,List.append_nil] at whole

theorem plain {text : Text} (free : escape ∉ text) : Decorates text text := by
  intro rest
  induction text with
  | nil => rfl
  | cons c text ih =>
    have other : c ≠ escape := fun same => free (same ▸ List.mem_cons_self)
    rw [List.cons_append,strip_cons other,ih fun member => free (List.mem_cons_of_mem _ member)]
    rfl

theorem append {first second plain other : Text} (left : Decorates first plain) (right : Decorates second other) :
    Decorates (first ++ second) (plain ++ other) := by
  intro rest
  rw [List.append_assoc,left,right,List.append_assoc]

theorem cons {c : Char} {coloured plain : Text} (decorates : Decorates coloured plain) (other : c ≠ escape) :
    Decorates (c :: coloured) (c :: plain) := by
  intro rest
  rw [List.cons_append,strip_cons other,decorates]
  rfl

theorem flatMap {values : List α} {coloured plain : α → Text}
    (each : ∀ value ∈ values, Decorates (coloured value) (plain value)) :
    Decorates (values.flatMap coloured) (values.flatMap plain) := by
  induction values with
  | nil => exact Decorates.plain List.not_mem_nil
  | cons value values ih =>
    rw [List.flatMap_cons,List.flatMap_cons]
    apply (each value List.mem_cons_self).append
    exact ih fun other member => each other (List.mem_cons_of_mem _ member)

theorem sequence {codes : Text} (all : ∀ c ∈ codes, isCode c = true) :
    Decorates (escape :: '[' :: (codes ++ ['m'])) [] := by
  intro rest
  rw [List.cons_append,List.cons_append,List.append_assoc]
  exact strip_sequence all rest

end Decorates

theorem codes_all (style : Style) : ∀ c ∈ style.codes, isCode c = true := by
  apply List.all_eq_true.mp
  cases style <;> decide

-- Without an escape there is no reset inside the text either.
theorem resume_free (style : Style) {text : Text} (free : escape ∉ text) : style.resume text = text := by
  fun_induction resume style text with
  | case1 rest => exact absurd List.mem_cons_self free
  | case2 c rest _ ih => rw [ih fun member => free (List.mem_cons_of_mem _ member)]
  | case3 => rfl

-- What occurs neither in a text nor in the sequences around it does not occur in the styled text.
theorem paint_avoids {style : Style} {c : Char} {text : Text} (around : c ∉ style.opening ++ reset)
    (free : escape ∉ text) (avoids : c ∉ text) (color : Bool) : c ∉ style.paint color text := by
  cases color with
  | false => exact avoids
  | true =>
    obtain ⟨opening,closing⟩ := not_or.mp fun member => around (List.mem_append.mpr member)
    apply List.not_mem_append _ closing
    rw [resume_free style free]
    exact List.not_mem_append opening avoids

-- A styled text is the text between two sequences.
theorem paint_decorates (style : Style) {text : Text} (free : escape ∉ text) :
    Decorates (style.paint true text) (style.paint false text) := by
  have opening : Decorates style.opening [] := .sequence style.codes_all
  have zero : ∀ c ∈ ['0'], isCode c = true := List.all_eq_true.mp (by decide)
  have reset : Decorates reset [] := .sequence zero
  have whole := (opening.append (.plain free)).append reset
  rw [List.nil_append,List.append_nil] at whole
  unfold paint
  rw [if_pos rfl,resume_free style free]
  exact whole

end SpecLint.Style
