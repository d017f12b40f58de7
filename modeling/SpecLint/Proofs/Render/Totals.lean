import SpecLint.Proofs.Lint.Findings
import SpecLint.Proofs.Render.Summary
import SpecLint.Proofs.Report

namespace SpecLint
open Text

theorem Verdict.judge_valid (verdict : Verdict) : verdict.judge.valid = true ↔ verdict.judge.errors = [] :=
  List.isEmpty_iff

-- How an entry of a run comes about: a document is linted, or it could not be read.
inductive FileReport.Judged (file : FileReport) : Prop where
  | linted (config : Config) (spec : Spec) (verdict : file.verdict = spec.lint config) : Judged file
  | unreadable (reason : Text) (verdict : file.verdict = (FileReport.unreadable file.path reason).verdict) :
      Judged file

theorem FileReport.Judged.valid_exact {file : FileReport} (judged : file.Judged) :
    file.verdict.valid = true ↔ file.verdict.errors = [] := by
  cases judged with
  | linted config spec verdict =>
    rw [verdict,lint_findings]
    exact Verdict.judge_valid _
  | unreadable reason verdict =>
    rw [verdict]
    exact Verdict.judge_valid _

namespace Report

-- The last line of a rendering says that all is well exactly when the run has passed.
theorem text_ok (report : Report) (color : Bool) : ∃ above line,
    report.render .text color = above ++ '\n' :: line ++ ['\n'] ∧ '\n' ∉ line ∧
      ("OK".toList <:+: line ↔ report.passed = true) := by
  let entries := report.files.flatMap fun file => file.verdict.lines color (file.path ++ ": ".toList)
  let counts := decimal report.filesChecked ++ " files, ".toList ++ decimal report.functionsChecked
  let line := summaryLine color report.errors report.warnings
  have ending : " functions\n".toList = " functions".toList ++ ['\n'] := rfl
  refine ⟨entries ++ "\nChecked ".toList ++ counts ++ " functions".toList,line,?_,?_,?_⟩
  · change Report.text color report = _
    rw [Report.text,summary_ended,ending]
    simp only [entries,counts,line,List.append_assoc,List.cons_append,List.nil_append]
  · exact summaryLine_oneLine color _ _
  · rw [summaryLine_ok,passed,decide_eq_true_iff]

-- After every push of a run the totals are those of the entries so far, and the three ways to say that a
-- run has passed agree: no errors are counted, every entry is valid, the summary says so.
theorem run_totals {files : List FileReport} (fits : (files.map (·.functions)).sum < wordLimit) :
    ∀ entries, entries <+: files →
    let report := ofFiles entries
    report.files = entries ∧ report.filesChecked = entries.length ∧
      report.functionsChecked = (entries.map (·.functions)).sum ∧
      report.errors = (entries.map (·.verdict.errors.length)).sum ∧
      report.warnings = (entries.map (·.verdict.warnings.length)).sum ∧
      (report.passed = true ↔ ∀ entry ∈ entries, entry.verdict.errors = []) ∧
      ((∀ entry ∈ entries, entry.Judged) →
        (report.passed = true ↔ ∀ entry ∈ entries, entry.verdict.valid = true) ∧
        ∀ color, ∃ above line, report.render .text color = above ++ '\n' :: line ++ ['\n'] ∧ '\n' ∉ line ∧
          ("OK".toList <:+: line ↔ ∀ entry ∈ entries, entry.verdict.valid = true)) := by
  intro entries opens report
  have totalled : report.Totalled := ofFiles_totalled entries
  have all : report.files = entries := ofFiles_files entries
  have fewer : (entries.map (·.functions)).sum < wordLimit := by
    apply Nat.lt_of_le_of_lt _ fits
    exact (opens.sublist.map _).sum_le_sum fun _ _ => Nat.zero_le _
  have passed := passed_exact totalled
  rw [all] at passed
  refine ⟨all,by rw [totalled.files,all],?_,by rw [totalled.errors,all],by rw [totalled.warnings,all],passed,?_⟩
  · rw [totalled.functions,all]
    exact Nat.mod_eq_of_lt fewer
  · intro judged
    have valid : report.passed = true ↔ ∀ entry ∈ entries, entry.verdict.valid = true := by
      rw [passed]
      exact forall₂_congr fun entry member => (judged entry member).valid_exact.symm
    refine ⟨valid,fun color => ?_⟩
    rw [← valid]
    exact report.text_ok color

-- As many functions as a word holds, then a file that cannot be read.
theorem run_totals_unreadable :
    let spec := Spec.ofText .standard
      "FUNCTION: f() → int\nRULES: x\nDONE_WHEN: x\nEXAMPLES: x → y\nERRORS: x".toList
    let first : FileReport := ⟨"a".toList,wordLimit - 1,spec.lint .standard⟩
    let second := FileReport.unreadable "b".toList "x".toList
    ([first,second].map (·.functions)).sum < wordLimit ∧
      (∀ entry ∈ [first,second], entry.Judged) ∧
      (ofFiles [first]).functionsChecked = wordLimit - 1 ∧ (ofFiles [first]).passed = true ∧
      (ofFiles [first,second]).errors = 1 ∧ (ofFiles [first,second]).passed = false := by
  intro spec first second
  have fits : ([first,second].map (·.functions)).sum < wordLimit := by decide +kernel
  have alone : first.Judged := .linted .standard spec rfl
  have unread : second.Judged := .unreadable "x".toList rfl
  have valid : first.verdict.valid = true := by decide +kernel
  obtain ⟨_,_,functions,_,_,_,passes⟩ := run_totals fits [first] ⟨[second],rfl⟩
  obtain ⟨_,_,_,errors,_,passed,_⟩ := run_totals fits [first,second] List.prefix_rfl
  refine ⟨fits,by simpa using ⟨alone,unread⟩,functions,?_,errors.trans (by decide +kernel),?_⟩
  · exact (passes (by simpa using alone)).1.mpr (by simpa using valid)
  · apply Bool.eq_false_iff.mpr
    intro fine
    exact absurd (passed.mp fine second (by simp)) (by decide +kernel)

end Report
end SpecLint
