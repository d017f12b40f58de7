import SpecLint.Proofs.Lint.OneLine
import SpecLint.Proofs.Render.Summary

namespace SpecLint
open Text

-- A line about one diagnostic: its kind in front, its code behind, and where and what it is between them.
structure Told (kind : Text) (diagnostic : Diagnostic) (line : Text) : Prop where
  oneLine : '\n' ∉ line
  opens : kind <+: line
  tells : diagnostic.location ++ " - ".toList ++ diagnostic.message <:+: line
  closes : " (".toList ++ diagnostic.code ++ ")".toList <:+ line

def Severity.kind : Severity → Text
  | .error => "ERROR ".toList
  | .warning => "WARN ".toList

theorem kind_label (severity : Severity) : severity.kind = severity.label false ++ [' '] := by
  cases severity <;> rfl

theorem kind_oneLine (severity : Severity) : '\n' ∉ severity.kind := by
  cases severity <;> decide

theorem line_told {diagnostic : Diagnostic} (oneLine : diagnostic.OneLine) (severity : Severity) :
    ∃ line, diagnostic.line false severity [] = line ++ ['\n'] ∧ Told severity.kind diagnostic line := by
  let told := diagnostic.location ++ " - ".toList ++ diagnostic.message
  let ending := " (".toList ++ diagnostic.code ++ ")".toList
  have closing : ")\n".toList = ")".toList ++ ['\n'] := rfl
  refine ⟨severity.kind ++ told ++ ending,?_,?_,?_,?_,?_⟩
  · rw [kind_label,Diagnostic.line,closing]
    simp only [Style.paint,Bool.false_eq_true,if_false,told,ending,List.append_assoc,List.nil_append,
      List.cons_append]
  · apply List.not_mem_append
    · apply List.not_mem_append (kind_oneLine severity)
      exact List.not_mem_append (List.not_mem_append oneLine.location (by decide)) oneLine.message
    · exact List.not_mem_append (List.not_mem_append (by decide) oneLine.code) (by decide)
  · rw [List.append_assoc]
    exact List.prefix_append _ _
  · exact List.infix_append _ _ _
  · exact List.suffix_append _ _

theorem rows_told {diagnostics : List Diagnostic} (oneLine : ∀ diagnostic ∈ diagnostics, diagnostic.OneLine)
    (severity : Severity) : ∃ rows, diagnostics.flatMap (·.line false severity []) = ended rows ∧
      List.Forall₂ (Told severity.kind) diagnostics rows := by
  induction diagnostics with
  | nil => exact ⟨[],rfl,.nil⟩
  | cons diagnostic rest ih =>
    obtain ⟨line,whole,told⟩ := line_told (oneLine diagnostic List.mem_cons_self) severity
    obtain ⟨rows,below,others⟩ := ih fun other member => oneLine other (List.mem_cons_of_mem _ member)
    refine ⟨line :: rows,?_,.cons told others⟩
    rw [List.flatMap_cons,whole,below]
    rfl

-- A verdict is written on one line for each of its diagnostics. An empty line and the summary follow.
theorem lintText_lines (config : Config) (text : Text) :
    let verdict := lintText config text
    (∀ diagnostic ∈ verdict.errors ++ verdict.warnings, diagnostic.OneLine) ∧
    ∃ errors warnings last, verdict.render .text false = ended (errors ++ warnings ++ [[],last]) ∧
      List.Forall₂ (Told "ERROR ".toList) verdict.errors errors ∧
      List.Forall₂ (Told "WARN ".toList) verdict.warnings warnings ∧
      '\n' ∉ last ∧ Summed verdict.errors.length verdict.warnings.length last := by
  intro verdict
  have oneLine : ∀ diagnostic ∈ verdict.errors ++ verdict.warnings, diagnostic.OneLine :=
    Spec.lint_oneLine config (ofText_oneLine config.vocabulary text)
  refine ⟨oneLine,?_⟩
  obtain ⟨errors,above,told⟩ := rows_told (fun other member => oneLine other (List.mem_append_left _ member)) .error
  obtain ⟨warnings,below,warned⟩ :=
    rows_told (fun other member => oneLine other (List.mem_append_right _ member)) .warning
  refine ⟨errors,warnings,_,?_,told,warned,summaryLine_oneLine false _ _,summaryLine_summed _ _⟩
  calc verdict.render .text false
    _ = verdict.errors.flatMap (·.line false .error []) ++ verdict.warnings.flatMap (·.line false .warning []) ++
        '\n' :: summary false verdict.errors.length verdict.warnings.length := rfl
    _ = ended errors ++ ended warnings ++
        ended [[],summaryLine false verdict.errors.length verdict.warnings.length] := by
      rw [above,below,summary_ended,ended_cons,ended_cons]
      rfl
    _ = _ := by rw [ended_append,ended_append]

end SpecLint
