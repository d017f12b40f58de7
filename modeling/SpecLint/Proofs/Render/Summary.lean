import SpecLint.Proofs.Style
import SpecLint.Proofs.Text.Decimal
import SpecLint.Render

namespace SpecLint
open Text

-- The last line of a rendering without its ending.
def summaryLine (color : Bool) (errors warnings : Nat) : Text :=
  if errors > 0 then
    Style.failure.paint color (decimal errors) ++ " errors, ".toList ++
      Style.count.paint color (decimal warnings) ++ " warnings".toList
  else if warnings > 0 then
    Style.success.paint color "OK".toList ++ ' ' :: Style.count.paint color (decimal warnings) ++
      " warnings".toList
  else Style.success.paint color "OK".toList ++ " No issues found".toList

-- What a summary of so many errors and warnings says.
inductive Summed (errors warnings : Nat) : Text → Prop where
  | counted (wrong : errors ≠ 0) : Summed errors warnings
      (decimal errors ++ " errors, ".toList ++ decimal warnings ++ " warnings".toList)
  | warned (right : errors = 0) (some : warnings ≠ 0) : Summed errors warnings
      ("OK ".toList ++ decimal warnings ++ " warnings".toList)
  | clean (right : errors = 0) (none : warnings = 0) : Summed errors warnings "OK No issues found".toList

theorem summary_ended (color : Bool) (errors warnings : Nat) :
    summary color errors warnings = summaryLine color errors warnings ++ ['\n'] := by
  have issues : " No issues found\n".toList = " No issues found".toList ++ ['\n'] := rfl
  have rest : " warnings\n".toList = " warnings".toList ++ ['\n'] := rfl
  unfold summary summaryLine
  split
  · rw [rest,List.append_assoc]
    simp only [List.append_assoc]
  · split
    · rw [rest,List.append_assoc]
      simp only [List.append_assoc]
    · rw [issues,List.append_assoc]

theorem summaryLine_summed (errors warnings : Nat) : Summed errors warnings (summaryLine false errors warnings) := by
  unfold summaryLine
  split
  · rename_i wrong
    exact .counted (Nat.ne_of_gt wrong)
  · rename_i right
    have none : errors = 0 := Nat.eq_zero_of_not_pos right
    split
    · rename_i some
      exact .warned none (Nat.ne_of_gt some)
    · rename_i clean
      exact .clean none (Nat.eq_zero_of_not_pos clean)

theorem number_avoids {style : Style} {c : Char} (mark : c.isDigit = false)
    (around : c ∉ style.opening ++ Style.reset) (color : Bool) (n : Nat) : c ∉ style.paint color (decimal n) :=
  Style.paint_avoids around (decimal_avoids (by decide) n) (decimal_avoids mark n) color

theorem counted_avoids {c : Char} (mark : c.isDigit = false) (failure : c ∉ Style.failure.opening ++ Style.reset)
    (count : c ∉ Style.count.opening ++ Style.reset) (words : c ∉ " errors, ".toList ++ " warnings".toList)
    (color : Bool) (errors warnings : Nat) : c ∉ Style.failure.paint color (decimal errors) ++ " errors, ".toList ++
      Style.count.paint color (decimal warnings) ++ " warnings".toList := by
  obtain ⟨middle,last⟩ := not_or.mp fun member => words (List.mem_append.mpr member)
  apply List.not_mem_append _ last
  apply List.not_mem_append _ (number_avoids mark count color warnings)
  exact List.not_mem_append (number_avoids mark failure color errors) middle

theorem summaryLine_oneLine (color : Bool) (errors warnings : Nat) : '\n' ∉ summaryLine color errors warnings := by
  have success : '\n' ∉ Style.success.paint color "OK".toList := by
    cases color <;> decide
  unfold summaryLine
  split
  · exact counted_avoids (by decide) (by decide) (by decide) (by decide) color errors warnings
  · split
    · apply List.not_mem_append _ (by decide)
      apply List.not_mem_append success
      exact List.not_mem_cons_of_ne_of_not_mem (by decide) (number_avoids (by decide) (by decide) color warnings)
    · exact List.not_mem_append success (by decide)

-- A summary says that all is well exactly when there is no error.
theorem summaryLine_ok (color : Bool) (errors warnings : Nat) :
    "OK".toList <:+: summaryLine color errors warnings ↔ errors = 0 := by
  have success : "OK".toList <:+: Style.success.paint color "OK".toList := by
    cases color with
    | false => exact List.infix_rfl
    | true => exact ⟨Style.success.opening,Style.reset,rfl⟩
  unfold summaryLine
  split
  · rename_i wrong
    have silent := counted_avoids (show 'O'.isDigit = false by decide) (by decide) (by decide) (by decide) color
      errors warnings
    refine ⟨fun fine => absurd (fine.subset List.mem_cons_self) silent,fun right => ?_⟩
    exact absurd wrong (Nat.not_lt.mpr right.le)
  · rename_i right
    refine ⟨fun _ => Nat.eq_zero_of_not_pos right,fun _ => ?_⟩
    split
    · apply success.trans
      rw [List.append_assoc]
      exact (List.prefix_append _ _).isInfix
    · exact success.trans (List.prefix_append _ _).isInfix

end SpecLint
