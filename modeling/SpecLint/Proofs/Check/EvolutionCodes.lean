import SpecLint.Proofs.Check.Evolution

namespace SpecLint
open Text

-- The faults of the rows that hold, one for each of them and in their order. A row is a code with
-- the statement that goes with it.
inductive Reports : List (Text × Prop) → List Fault → Prop where
  | nil : Reports [] []
  | holds (fault : Fault) {row : Prop} (true : row) (rest : Reports rows faults) :
      Reports ((fault.code,row) :: rows) (fault :: faults)
  | fails (code : Text) {row : Prop} (false : ¬row) (rest : Reports rows faults) :
      Reports ((code,row) :: rows) faults

namespace Reports

theorem append (first : Reports rows faults) (second : Reports others more) :
    Reports (rows ++ others) (faults ++ more) := by
  induction first with
  | nil => exact second
  | holds fault true _ ih => exact .holds fault true ih
  | fails code false _ ih => exact .fails code false ih

theorem when (fault : Fault) {wrong row : Prop} [Decidable wrong] (same : wrong ↔ row) :
    Reports [(fault.code,row)] (if wrong then [fault] else []) := by
  split
  · rename_i found
    exact .holds fault (same.mp found) .nil
  · rename_i found
    exact .fails fault.code (mt same.mpr found) .nil

theorem otherwise (fault : Fault) {fine row : Prop} [Decidable fine] (same : ¬fine ↔ row) :
    Reports [(fault.code,row)] (if fine then [] else [fault]) := by
  rw [← ite_not]
  exact when fault same

theorem none {rows : List (Text × Prop)} (all : ∀ row ∈ rows, ¬row.2) : Reports rows [] := by
  induction rows with
  | nil => exact .nil
  | cons row rows ih =>
    exact .fails row.1 (all row (by simp)) (ih fun other member => all other (by simp [member]))

-- Rows that are only looked at under a condition.
theorem under (condition : Bool) (reports : Reports rows faults) :
    Reports (rows.map fun row => (row.1,condition = true ∧ row.2)) (if condition then faults else []) := by
  cases condition with
  | false =>
    apply none
    intro row member
    obtain ⟨_,_,rfl⟩ := List.mem_map.mp member
    simp
  | true => simpa using reports

theorem flatMap (values : List α) {row : α → Text × Prop} {faults : α → List Fault}
    (each : ∀ value, Reports [row value] (faults value)) :
    Reports (values.map row) (values.flatMap faults) := by
  induction values with
  | nil => exact .nil
  | cons value values ih =>
    rw [List.flatMap_cons]
    exact (each value).append ih

theorem filter (values : List α) (fault : α → Fault) (fine : α → Bool) :
    Reports (values.map fun value => ((fault value).code,¬fine value = true))
      ((values.filter (!fine ·)).map fault) := by
  induction values with
  | nil => exact .nil
  | cons value values ih =>
    cases found : fine value with
    | true =>
      rw [List.filter_cons_of_neg (by simp [found])]
      exact .fails _ (not_not.mpr found) ih
    | false =>
      rw [List.filter_cons_of_pos (by simp [found])]
      exact .holds (fault value) (by simp [found]) ih

theorem sublist (reports : Reports rows faults) :
    (faults.map (·.code)).Sublist (rows.map (·.1)) := by
  induction reports with
  | nil => exact .slnil
  | holds fault true _ ih => exact ih.cons_cons _
  | fails code false _ ih => exact ih.cons _

-- Where no two rows have one code, each code tells whether its row holds.
theorem mem_codes (reports : Reports rows faults) (distinct : (rows.map (·.1)).Nodup) :
    ∀ row ∈ rows, row.1 ∈ faults.map (·.code) ↔ row.2 := by
  induction reports with
  | nil => exact fun _ member => by cases member
  | @holds rows faults fault row true rest ih =>
    obtain ⟨fresh,below⟩ := List.nodup_cons.mp distinct
    intro other member
    rcases List.mem_cons.mp member with rfl | member
    · simp [true]
    · have apart : other.1 ≠ fault.code := fun same => fresh (List.mem_map.mpr ⟨other,member,same⟩)
      rw [← ih below other member,List.map_cons,List.mem_cons]
      simp [apart]
  | @fails rows faults code row false rest ih =>
    obtain ⟨fresh,below⟩ := List.nodup_cons.mp distinct
    intro other member
    rcases List.mem_cons.mp member with rfl | member
    · have absent : code ∉ faults.map (·.code) := fun found => fresh (rest.sublist.subset found)
      simp only [absent,false]
    · exact ih below other member

end Reports

-- The codes of the check in their order, each with what it says of the function.
def evolutionTable (function : FunctionBlock) : List (Text × Prop) :=
  let baseline := function.has HeaderName.baseline = true
  let eval := function.has HeaderName.eval = true
  let names (key : Text) := Names key (function.contentOf HeaderName.baseline)
  let last (key value : Text) := LastValue key (function.contentOf HeaderName.eval) value
  [("E060".toList,baseline ∧ ¬eval),
    ("E050".toList,baseline ∧ ¬names "reference".toList),
    ("E051".toList,baseline ∧ ¬names "preserve".toList),
    ("E052".toList,baseline ∧ ¬names "evolve".toList),
    ("E061".toList,eval ∧ ¬∃ value, last "preserve".toList value),
    ("E062".toList,eval ∧ ¬∃ value, last "evolve".toList value),
    ("E063".toList,eval ∧ ∃ value, last "preserve".toList value ∧ value ≠ [] ∧ ¬ThresholdForm value),
    ("E064".toList,eval ∧ ∃ value, last "evolve".toList value ∧ value ≠ [] ∧ ¬ThresholdForm value),
    ("E065".toList,eval ∧ ∃ value, last "grading".toList value ∧ value ≠ [] ∧
      value ∉ ["code".toList,"model".toList,"outcome".toList])]

theorem baselineFaults_reports (content : Text) :
    Reports (BaselineField.all.map fun field => (field.code,¬Names field.key content))
      (baselineFaults content) := by
  simp only [← namesField_exact]
  exact Reports.filter BaselineField.all .missingField fun field => namesField (lowercase content) field.key

theorem thresholdMissing_reports (content : Text) (threshold : Threshold) :
    Reports [(threshold.absentCode,¬∃ value, LastValue threshold.key content value)]
      (thresholdMissing (.ofContent content) threshold) := by
  simp only [thresholdMissing,EvalFields.ofContent_threshold,← lastField?_exact]
  apply Reports.when (.missingThreshold threshold)
  simp [Option.eq_none_iff_forall_ne_some]

theorem thresholdInvalid_reports (content : Text) (threshold : Threshold) :
    Reports [(threshold.invalidCode,∃ value, LastValue threshold.key content value ∧ value ≠ [] ∧
      ¬ThresholdForm value)] (thresholdInvalid (.ofContent content) threshold) := by
  simp only [thresholdInvalid,EvalFields.ofContent_threshold,← lastField?_exact,← isThreshold_exact]
  cases lastField? threshold.key content with
  | none => exact .none (by simp)
  | some value =>
    apply Reports.otherwise (.invalidThreshold threshold value)
    simp

theorem gradingFaults_reports (content : Text) :
    Reports [("E065".toList,∃ value, LastValue "grading".toList content value ∧ value ≠ [] ∧
      value ∉ gradingKinds)] (gradingFaults (.ofContent content)) := by
  simp only [gradingFaults,EvalFields.ofContent_grading,← lastField?_exact]
  cases lastField? "grading".toList content with
  | none => exact .none (by simp)
  | some value =>
    apply Reports.otherwise (.invalidGrading value)
    simp

theorem evolutionFaults_reports (function : FunctionBlock) :
    Reports (evolutionTable function) (evolutionFaults function) := by
  let content := function.contentOf HeaderName.eval
  have alone : (function.has HeaderName.baseline && !function.has HeaderName.eval) = true ↔
      function.has HeaderName.baseline = true ∧ ¬function.has HeaderName.eval = true := by simp
  have baseline := (baselineFaults_reports (function.contentOf HeaderName.baseline)).under
    (function.has HeaderName.baseline)
  have missing := Reports.flatMap Threshold.all (thresholdMissing_reports content)
  have invalid := Reports.flatMap Threshold.all (thresholdInvalid_reports content)
  have eval := ((missing.append invalid).append (gradingFaults_reports content)).under
    (function.has HeaderName.eval)
  exact ((Reports.when .missingEval alone).append baseline).append eval

theorem evolutionFindings_errors (function : FunctionBlock) :
    diagnosticsOf .error (evolutionFindings function) =
      (evolutionFaults function).map fun fault => ⟨fault.code,fault.message,function.location⟩ :=
  diagnosticsOf_located (fun fault member => (evolutionFaults_kind function fault member).error) _

theorem evolutionFindings_warnings (function : FunctionBlock) :
    diagnosticsOf .warning (evolutionFindings function) = [] := by
  apply diagnosticsOf_other
  intro finding member
  obtain ⟨fault,inside,rfl⟩ := List.mem_map.mp member
  have error := (evolutionFaults_kind function fault inside).error
  simp [error]

-- What the check adds to a verdict: the errors of one function after another, and nothing else. A
-- value that is missing is never called invalid.
theorem evolution_errors (config : Config) (spec : Spec) (verdict : Verdict) :
    let errors (function : FunctionBlock) := diagnosticsOf .error (evolutionFindings function)
    let checked := Check.evolution.record config spec verdict
    checked.errors = verdict.errors ++ spec.functions.flatMap errors ∧
      checked.warnings = verdict.warnings ∧ checked.valid = verdict.valid ∧
      ∀ function ∈ spec.functions, let codes := (errors function).map (·.code)
        codes.Sublist ["E060".toList,"E050".toList,"E051".toList,"E052".toList,"E061".toList,
          "E062".toList,"E063".toList,"E064".toList,"E065".toList] ∧ codes.Nodup ∧
        (∀ error ∈ errors function, error.location = function.location) ∧
        (∀ row ∈ evolutionTable function, row.1 ∈ codes ↔ row.2) ∧
        ¬("E061".toList ∈ codes ∧ "E063".toList ∈ codes) ∧
        ¬("E062".toList ∈ codes ∧ "E064".toList ∈ codes) := by
  intro errors checked
  have recorded : checked = verdict.record (spec.functions.flatMap evolutionFindings) :=
    Check.evolution.record_findings config spec verdict
  rw [recorded]
  refine ⟨congrArg (verdict.errors ++ ·) (diagnosticsOf_flatMap _ _ _),?_,rfl,?_⟩
  · have nothing : diagnosticsOf .warning (spec.functions.flatMap evolutionFindings) = [] := by
      rw [diagnosticsOf_flatMap]
      exact List.flatMap_eq_nil_iff.mpr fun function _ => evolutionFindings_warnings function
    exact (congrArg (verdict.warnings ++ ·) nothing).trans (List.append_nil _)
  · intro function _ codes
    have reports := evolutionFaults_reports function
    have read : codes = (evolutionFaults function).map (·.code) := by
      change (diagnosticsOf .error (evolutionFindings function)).map _ = _
      rw [evolutionFindings_errors,List.map_map]
      rfl
    have distinct : ((evolutionTable function).map (·.1)).Nodup := by
      have names : ["E060".toList,"E050".toList,"E051".toList,"E052".toList,"E061".toList,"E062".toList,
        "E063".toList,"E064".toList,"E065".toList].Nodup := by decide
      exact names
    have rows := reports.mem_codes distinct
    rw [← read] at rows
    have ordered := read ▸ reports.sublist
    refine ⟨ordered,ordered.nodup distinct,?_,rows,?_,?_⟩
    · intro error member
      change error ∈ diagnosticsOf .error (evolutionFindings function) at member
      rw [evolutionFindings_errors] at member
      obtain ⟨fault,_,rfl⟩ := List.mem_map.mp member
      rfl
    · intro both
      obtain ⟨_,absent⟩ := (rows _ (List.mem_of_getElem? (i := 4) rfl)).mp both.1
      obtain ⟨_,value,read,_⟩ := (rows _ (List.mem_of_getElem? (i := 6) rfl)).mp both.2
      exact absent ⟨value,read⟩
    · intro both
      obtain ⟨_,absent⟩ := (rows _ (List.mem_of_getElem? (i := 5) rfl)).mp both.1
      obtain ⟨_,value,read,_⟩ := (rows _ (List.mem_of_getElem? (i := 7) rfl)).mp both.2
      exact absent ⟨value,read⟩

end SpecLint
