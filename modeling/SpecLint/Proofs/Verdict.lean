import SpecLint.Verdict

namespace SpecLint

-- A fault and the place where it is found.
structure Finding where
  fault : Fault
  location : Text
deriving DecidableEq

def Finding.diagnostic (finding : Finding) : Diagnostic := finding.fault.diagnostic finding.location

def Finding.ofSpec (fault : Fault) : Finding := ⟨fault,specLocation⟩

def Fault.severity : Fault → Severity
  | undefinedType _ | longRule .. | tooManyFunctions .. => .warning
  | _ => .error

def diagnosticsOf (severity : Severity) (findings : List Finding) : List Diagnostic :=
  (findings.filter (·.fault.severity = severity)).map (·.diagnostic)

theorem diagnosticsOf_append (severity : Severity) (first second : List Finding) :
    diagnosticsOf severity (first ++ second) =
      diagnosticsOf severity first ++ diagnosticsOf severity second := by
  simp only [diagnosticsOf,List.filter_append,List.map_append]

theorem diagnosticsOf_flatMap (severity : Severity) (values : List α) (find : α → List Finding) :
    diagnosticsOf severity (values.flatMap find) =
      values.flatMap fun value => diagnosticsOf severity (find value) := by
  simp only [diagnosticsOf,List.filter_flatMap,List.map_flatMap]

namespace Verdict

-- A verdict with findings behind what it says already, each on the side of its severity.
def record (verdict : Verdict) (findings : List Finding) : Verdict :=
  { verdict with
    errors := verdict.errors ++ diagnosticsOf .error findings
    warnings := verdict.warnings ++ diagnosticsOf .warning findings }

def ofFindings (findings : List Finding) : Verdict := (start.record findings).judge

theorem record_nil (verdict : Verdict) : verdict.record [] = verdict := by
  simp [record,diagnosticsOf]

theorem record_append (verdict : Verdict) (first second : List Finding) :
    (verdict.record first).record second = verdict.record (first ++ second) := by
  simp only [record,diagnosticsOf_append,List.append_assoc]

theorem record_error {fault : Fault} (error : fault.severity = .error) (location : Text) (verdict : Verdict) :
    verdict.record [⟨fault,location⟩] = verdict.error fault location := by
  simp [Verdict.error,record,diagnosticsOf,Finding.diagnostic,error]

theorem record_warning {fault : Fault} (warning : fault.severity = .warning) (location : Text)
    (verdict : Verdict) : verdict.record [⟨fault,location⟩] = verdict.warning fault location := by
  simp [Verdict.warning,record,diagnosticsOf,Finding.diagnostic,warning]

-- What is recorded under a condition is recorded of what is found under it.
theorem record_if (condition : Prop) [Decidable condition] {verdict first second : Verdict}
    {found other : List Finding} (positive : first = verdict.record found)
    (negative : second = verdict.record other) :
    (if condition then first else second) = verdict.record (if condition then found else other) := by
  split
  · exact positive
  · exact negative

theorem error_when {fault : Fault} (error : fault.severity = .error) (wrong : Prop) [Decidable wrong]
    (location : Text) (verdict : Verdict) : (if wrong then verdict.error fault location else verdict) =
      verdict.record ((if wrong then [fault] else []).map (⟨·,location⟩)) := by
  rw [apply_ite (List.map _)]
  exact record_if wrong (record_error error location verdict).symm verdict.record_nil.symm

theorem error_unless {fault : Fault} (error : fault.severity = .error) (fine : Prop) [Decidable fine]
    (location : Text) (verdict : Verdict) : (if fine then verdict else verdict.error fault location) =
      verdict.record ((if fine then [] else [fault]).map (⟨·,location⟩)) := by
  rw [← ite_not,error_when error,ite_not]

-- A loop records step after step what its steps record.
theorem foldl_record {step : Verdict → α → Verdict} {find : α → List Finding}
    (each : ∀ verdict value, step verdict value = verdict.record (find value)) (values : List α)
    (verdict : Verdict) : values.foldl step verdict = verdict.record (values.flatMap find) := by
  induction values generalizing verdict with
  | nil => exact verdict.record_nil.symm
  | cons value values ih => rw [List.foldl_cons,ih,each,record_append,List.flatMap_cons]

-- A loop that passes over what is fine records one finding for each of the others.
theorem foldl_record_unless {step : Verdict → α → Verdict} {fine : α → Bool} {find : α → Finding}
    (each : ∀ verdict value, step verdict value = if fine value then verdict else verdict.record [find value])
    (values : List α) (verdict : Verdict) :
    values.foldl step verdict = verdict.record ((values.filter (!fine ·)).map find) := by
  induction values generalizing verdict with
  | nil => exact verdict.record_nil.symm
  | cons value values ih =>
    rw [List.foldl_cons,ih,each]
    cases found : fine value with
    | true => rw [List.filter_cons_of_neg (by simp [found]),if_pos rfl]
    | false =>
      rw [List.filter_cons_of_pos (by simp [found]),List.map_cons,if_neg Bool.false_ne_true,record_append]
      rfl

end Verdict
end SpecLint
