import Mathlib.Algebra.Order.BigOperators.Group.List
import Mathlib.Algebra.Order.Ring.Nat
import SpecLint.Proofs.Landmark.Outline
import SpecLint.Proofs.Spec.Grouping
import SpecLint.Report

namespace SpecLint
open Text

-- No line without characters begins a block.
theorem outline_length (total number offset : Nat) (lines : List Text) :
    (outline total number offset lines).landmarks.length ≤ lines.flatten.length := by
  induction lines generalizing number offset with
  | nil => exact Nat.le_refl _
  | cons line rest ih =>
    rw [List.flatten_cons,List.length_append]
    cases found : Header.ofLine? line with
    | none =>
      rw [outline_text found]
      exact Nat.le_add_left_of_le (ih _ _)
    | some header =>
      have some : 0 < line.length := by
        cases line with
        | nil => cases found
        | cons => exact Nat.succ_pos _
      have below := ih (number + 1) (offset + byteLength line + 1)
      rw [outline_header found,List.length_cons]
      omega

theorem functions_length (vocabulary : Vocabulary) (text : Text) :
    (Spec.ofText vocabulary text).functions.length ≤ text.length := by
  have headings := congrArg List.length (functionsOf_headings vocabulary (scan text))
  rw [List.length_map,List.length_map] at headings
  rw [ofText_finished,headings]
  calc ((scan text).filter (·.name = HeaderName.function)).length
    _ ≤ (scan text).length := List.length_filter_le _ _
    _ ≤ (split '\n' text).flatten.length := outline_length _ _ _ _
    _ ≤ text.length := by
      rw [split_flatten]
      exact List.length_filter_le _ _

namespace Report

-- The totals of a report are those of its files. Functions are counted with words.
structure Totalled (report : Report) : Prop where
  files : report.filesChecked = report.files.length
  functions : report.functionsChecked = (report.files.map (·.functions)).sum % wordLimit
  errors : report.errors = (report.files.map (·.verdict.errors.length)).sum
  warnings : report.warnings = (report.files.map (·.verdict.warnings.length)).sum

theorem totalled_empty : empty.Totalled := ⟨rfl,rfl,rfl,rfl⟩

theorem totalled_push {report : Report} (totalled : report.Totalled) (file : FileReport) :
    (report.push file).Totalled := by
  obtain ⟨files,functions,errors,warnings⟩ := totalled
  refine ⟨by simp [push,files],?_,by simp [push,errors],by simp [push,warnings]⟩
  simp only [push,addWord,functions,Nat.mod_add_mod,List.map_append,List.sum_append,List.map_singleton,
    List.sum_singleton]

theorem pushed (files : List FileReport) {report : Report} (totalled : report.Totalled) :
    (files.foldl push report).Totalled ∧ (files.foldl push report).files = report.files ++ files := by
  induction files generalizing report with
  | nil => exact ⟨totalled,(List.append_nil _).symm⟩
  | cons file files ih =>
    obtain ⟨later,all⟩ := ih (totalled_push totalled file)
    exact ⟨later,all.trans (List.append_assoc _ _ _)⟩

theorem ofFiles_totalled (files : List FileReport) : (ofFiles files).Totalled := (pushed files totalled_empty).1

theorem ofFiles_files (files : List FileReport) : (ofFiles files).files = files := (pushed files totalled_empty).2

-- The counted errors say whether any entry has one. Warnings are counted apart.
theorem passed_exact {report : Report} (totalled : report.Totalled) :
    report.passed = true ↔ ∀ entry ∈ report.files, entry.verdict.errors = [] := by
  rw [passed,decide_eq_true_iff,totalled.errors,List.sum_eq_zero_iff]
  simp

end Report
end SpecLint
