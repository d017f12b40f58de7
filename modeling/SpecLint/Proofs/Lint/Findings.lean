import SpecLint.Lint
import SpecLint.Proofs.Check.Findings

namespace SpecLint

-- Everything that the checks find in a document, in their order.
def Spec.findings (config : Config) (spec : Spec) : List Finding :=
  functionExistsFindings spec ++ Check.ofFunctions.flatMap (·.findings config spec)

def Harmless (faults : List Fault) : Prop := ∀ fault ∈ faults, fault.severity = .warning

def Clean (findings : List Finding) : Prop := ∀ finding ∈ findings, finding.fault.severity = .warning

theorem diagnosticsOf_located {severity : Severity} {faults : List Fault}
    (all : ∀ fault ∈ faults, fault.severity = severity) (location : Text) :
    diagnosticsOf severity (faults.map (⟨·,location⟩)) =
      faults.map fun fault => ⟨fault.code,fault.message,location⟩ := by
  unfold diagnosticsOf
  rw [List.filter_eq_self.mpr,List.map_map]
  · rfl
  · intro finding member
    obtain ⟨fault,inside,rfl⟩ := List.mem_map.mp member
    exact decide_eq_true (all fault inside)

theorem diagnosticsOf_other {severity : Severity} {findings : List Finding}
    (other : ∀ finding ∈ findings, finding.fault.severity ≠ severity) :
    diagnosticsOf severity findings = [] := by
  unfold diagnosticsOf
  rw [List.filter_eq_nil_iff.mpr,List.map_nil]
  intro finding member
  simpa using other finding member

-- What a fault is counted under. Its message is left out, as it may name a limit or quote the document.
def Fault.mark (fault : Fault) : Severity × Text := (fault.severity,fault.code)

def Finding.mark (finding : Finding) : (Severity × Text) × Text := (finding.fault.mark,finding.location)

-- Where a diagnostic is counted.
def Diagnostic.mark (diagnostic : Diagnostic) : Text × Text := (diagnostic.code,diagnostic.location)

theorem diagnosticsOf_marks (severity : Severity) (findings : List Finding) :
    (diagnosticsOf severity findings).map (·.mark) =
      ((findings.map (·.mark)).filter (·.1.1 = severity)).map fun mark => (mark.1.2,mark.2) := by
  unfold diagnosticsOf
  rw [List.filter_map,List.map_map,List.map_map]
  rfl

namespace Verdict

theorem record_checks (verdict : Verdict) (checks : List Check) (config : Config) (spec : Spec) :
    checks.foldl (fun verdict check => check.record config spec verdict) verdict =
      verdict.record (checks.flatMap (·.findings config spec)) :=
  foldl_record (fun known check => check.record_findings config spec known) checks verdict

theorem valid_exact (findings : List Finding) : (ofFindings findings).valid = true ↔ Clean findings := by
  have single : ∀ fault : Fault, fault.severity ≠ .error ↔ fault.severity = .warning := by
    intro fault
    cases fault.severity <;> simp
  simp [ofFindings,judge,record,start,diagnosticsOf,Clean,single]

end Verdict

theorem harmless_append (first second : List Fault) :
    Harmless (first ++ second) ↔ Harmless first ∧ Harmless second := List.forall_mem_append

theorem harmless_flatMap (values : List α) (faults : α → List Fault) :
    Harmless (values.flatMap faults) ↔ ∀ value ∈ values, Harmless (faults value) := by
  simp only [Harmless,List.mem_flatMap]
  constructor
  · intro harmless value member fault inside
    exact harmless fault ⟨value,member,inside⟩
  · intro harmless fault found
    obtain ⟨value,member,inside⟩ := found
    exact harmless value member fault inside

theorem harmless_unless {fault : Fault} (error : fault.severity = .error) (fine : Prop) [Decidable fine] :
    Harmless (if fine then [] else [fault]) ↔ fine := by
  unfold Harmless
  split
  · rename_i holds
    simp [holds]
  · rename_i fails
    simp [fails,error]

theorem harmless_when {fault : Fault} (error : fault.severity = .error) (wrong : Prop) [Decidable wrong] :
    Harmless (if wrong then [fault] else []) ↔ ¬wrong := by
  rw [← ite_not,harmless_unless error]

theorem harmless_filter {fault : α → Fault} (error : ∀ value, (fault value).severity = .error)
    (values : List α) (fine : α → Bool) :
    Harmless ((values.filter (!fine ·)).map fault) ↔ ∀ value ∈ values, fine value = true := by
  unfold Harmless
  constructor
  · intro harmless value member
    rw [← Bool.not_eq_false]
    intro wrong
    have found := harmless (fault value)
      (List.mem_map_of_mem (List.mem_filter.mpr ⟨member,by simp [wrong]⟩))
    rw [error] at found
    cases found
  · intro each other member
    obtain ⟨value,wrong,_⟩ := List.mem_map.mp member
    obtain ⟨inside,failed⟩ := List.mem_filter.mp wrong
    simp [each value inside] at failed

theorem clean_append (first second : List Finding) :
    Clean (first ++ second) ↔ Clean first ∧ Clean second := List.forall_mem_append

theorem clean_flatMap (values : List α) (find : α → List Finding) :
    Clean (values.flatMap find) ↔ ∀ value ∈ values, Clean (find value) := by
  simp only [Clean,List.mem_flatMap]
  constructor
  · intro clean value member finding found
    exact clean finding ⟨value,member,found⟩
  · intro clean finding found
    obtain ⟨value,member,inside⟩ := found
    exact clean value member finding inside

theorem clean_located (faults : List Fault) (location : Text) :
    Clean (faults.map (⟨·,location⟩)) ↔ Harmless faults := by
  simp [Clean,Harmless]

-- Without functions the checks of functions find nothing, so leaving them out changes nothing.
theorem findings_empty {config : Config} {spec : Spec} (none : spec.functions = []) :
    Check.ofFunctions.flatMap (·.findings config spec) = [] := by
  simp [Check.ofFunctions,Check.findings,referenceFindings,functionCountFindings,none]

theorem lint_findings (config : Config) (spec : Spec) :
    spec.lint config = .ofFindings (spec.findings config) := by
  unfold Spec.lint
  dsimp only
  split
  · rename_i empty
    rw [Check.record_findings,Spec.findings,findings_empty (List.isEmpty_iff.mp empty),List.append_nil]
    rfl
  · rw [Verdict.record_checks,Check.record_findings,Verdict.record_append]
    rfl

end SpecLint
