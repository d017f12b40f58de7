import SpecLint.Proofs.Check.Field

namespace SpecLint
open Text

-- A line begins with one character, so of two keys that begin with others it carries one at most.
theorem fieldValue?_apart {c d : Char} {key other line value : Text}
    (read : fieldValue? (c :: key) line = some value) (apart : c ≠ d) :
    fieldValue? (d :: other) line = none := by
  have opens : c :: key <+: line := by
    by_contra closed
    have nothing := (after?_none _ _).mpr closed
    simp [fieldValue?,nothing] at read
  have closed : after? (d :: other) line = none := by
    apply (after?_none _ _).mpr
    intro begins
    obtain ⟨rest,rfl⟩ := opens
    exact apart (List.cons_prefix_cons.mp begins).1.symm
  simp [fieldValue?,closed]

namespace EvalFields

-- What one line does to each field, whichever key is tried first.
theorem readLine_exact (fields : EvalFields) (line : Text) : fields.readLine line =
    ⟨(fieldValue? "preserve".toList line).or fields.preserve,
      (fieldValue? "evolve".toList line).or fields.evolve,
      (fieldValue? "grading".toList line).or fields.grading⟩ := by
  unfold readLine
  cases preserve : fieldValue? "preserve".toList line with
  | some value =>
    have evolve : fieldValue? "evolve".toList line = none := fieldValue?_apart preserve (by decide)
    have grading : fieldValue? "grading".toList line = none := fieldValue?_apart preserve (by decide)
    simp only [evolve,grading,Option.some_or,Option.none_or]
  | none =>
    cases evolve : fieldValue? "evolve".toList line with
    | some value =>
      have grading : fieldValue? "grading".toList line = none := fieldValue?_apart evolve (by decide)
      simp only [grading,Option.some_or,Option.none_or]
    | none =>
      cases grading : fieldValue? "grading".toList line with
      | some value => simp only [Option.some_or,Option.none_or]
      | none => simp only [Option.none_or]

theorem last_or {value? : Text → Option Text} (line : Text) (rest : List Text) (before : Option Text) :
    ((line :: rest).filterMap value?).getLast?.or before =
      (rest.filterMap value?).getLast?.or ((value? line).or before) := by
  cases read : value? line with
  | none => simp [read]
  | some value =>
    cases last : (rest.filterMap value?).getLast? <;> simp [read,List.getLast?_cons,last]

-- After a run of lines a field holds what the last of them that carries its key says of it.
theorem readLines_exact (fields : EvalFields) (texts : List Text) :
    texts.foldl (fun fields line => fields.readLine (lowercase (trim line))) fields =
      ⟨(texts.filterMap fun line => fieldValue? "preserve".toList (lowercase (trim line))).getLast?.or
          fields.preserve,
        (texts.filterMap fun line => fieldValue? "evolve".toList (lowercase (trim line))).getLast?.or
          fields.evolve,
        (texts.filterMap fun line => fieldValue? "grading".toList (lowercase (trim line))).getLast?.or
          fields.grading⟩ := by
  induction texts generalizing fields with
  | nil => rfl
  | cons line rest ih => rw [List.foldl_cons,ih,readLine_exact,last_or,last_or,last_or]

theorem ofContent_fields (content : Text) : ofContent content =
    ⟨lastField? "preserve".toList content,lastField? "evolve".toList content,
      lastField? "grading".toList content⟩ := by
  rw [ofContent,readLines_exact]
  simp only [start,Option.or_none,lastField?]

theorem ofContent_threshold (content : Text) (threshold : Threshold) :
    (ofContent content).threshold threshold = lastField? threshold.key content := by
  rw [ofContent_fields]
  cases threshold <;> rfl

theorem ofContent_grading (content : Text) :
    (ofContent content).grading = lastField? "grading".toList content := by
  rw [ofContent_fields]

end EvalFields
end SpecLint
