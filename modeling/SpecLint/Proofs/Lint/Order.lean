import SpecLint.Proofs.Lint.Findings

namespace SpecLint

-- A verdict with what another one says put behind its own.
def Verdict.extend (verdict more : Verdict) : Verdict :=
  { verdict with
    errors := verdict.errors ++ more.errors
    warnings := verdict.warnings ++ more.warnings }

-- The same diagnostics, whatever their order.
structure Verdict.Reordered (verdict other : Verdict) : Prop where
  valid : verdict.valid = other.valid
  errors : verdict.errors.Perm other.errors
  warnings : verdict.warnings.Perm other.warnings

namespace Check

def all : List Check := .functionExists :: ofFunctions

-- Checks one after another, each on the verdict that the one before it leaves.
def recordAll (checks : List Check) (config : Config) (spec : Spec) (verdict : Verdict) : Verdict :=
  checks.foldl (fun verdict check => check.record config spec verdict) verdict

theorem record_extends (check : Check) (config : Config) (spec : Spec) (verdict : Verdict) :
    check.record config spec verdict = verdict.extend (check.record config spec .start) := by
  rw [record_findings,record_findings]
  rfl

end Check

theorem diagnosticsOf_perm {first second : List Finding} (same : first.Perm second)
    (severity : Severity) : (diagnosticsOf severity first).Perm (diagnosticsOf severity second) :=
  (same.filter _).map _

theorem Verdict.record_perm {first second : List Finding} (same : first.Perm second)
    (verdict : Verdict) : (verdict.record first).Reordered (verdict.record second) :=
  ⟨rfl,(diagnosticsOf_perm same .error).append_left _,(diagnosticsOf_perm same .warning).append_left _⟩

theorem Spec.findings_all (config : Config) (spec : Spec) :
    spec.findings config = Check.all.flatMap (·.findings config spec) := rfl

-- Every check adds its own findings to whatever is known, so only their order depends on the order
-- of the checks. Without functions the checks that are left out would have added nothing.
theorem checks_orderless (config : Config) (spec : Spec) (verdict : Verdict) {first second : List Check}
    (same : first.Perm second) :
    (∀ check : Check,
      check.record config spec verdict = verdict.extend (check.record config spec .start)) ∧
    (Check.recordAll first config spec verdict).Reordered
      (Check.recordAll second config spec verdict) ∧
    (spec.lint config).errors = (Check.recordAll Check.all config spec .start).errors ∧
    (spec.lint config).warnings = (Check.recordAll Check.all config spec .start).warnings ∧
    (spec.lint config).valid = (spec.lint config).errors.isEmpty := by
  have recorded : ∀ checks known, Check.recordAll checks config spec known =
      known.record (checks.flatMap (·.findings config spec)) := by
    intro checks known
    exact Verdict.record_checks known checks config spec
  refine ⟨fun check => check.record_extends config spec verdict,?_,?_,?_,?_⟩
  · rw [recorded,recorded]
    exact Verdict.record_perm (same.flatMap_right _) verdict
  · rw [recorded,← Spec.findings_all,lint_findings]
    rfl
  · rw [recorded,← Spec.findings_all,lint_findings]
    rfl
  · rw [lint_findings]
    rfl

-- The order of the diagnostics does depend on it.
theorem checks_reversed :
    let spec := Spec.ofText .standard
      "DATA: Thing\nFUNCTION: f() → Widget\nRULES: - if a or b\nEVAL: none".toList
    let known : Verdict := ⟨true,[⟨"E000".toList,[],"spec".toList⟩],[]⟩
    Check.all.reverse.Perm Check.all ∧
      (Check.recordAll Check.all.reverse .standard spec known).errors ≠
        (Check.recordAll Check.all .standard spec known).errors ∧
      (Check.recordAll Check.all.reverse .standard spec known).Reordered
        (Check.recordAll Check.all .standard spec known) := by
  intro spec known
  have same : Check.all.reverse.Perm Check.all := List.reverse_perm Check.all
  exact ⟨same,by decide +kernel,(checks_orderless .standard spec known same).2.1⟩

end SpecLint
