import SpecLint.CommandLine.Request
import SpecLint.Proofs.Dictionary

namespace SpecLint.Arguments

-- What is kept of an item that fits: an option is given once, and operands have their places.
inductive Taken (form : CommandForm) (arguments : Arguments) : Item → Arguments → Prop where
  | option {option : OptionForm} {value : Text} (fresh : arguments.value? option.long = .none)
      (fits : option.accepts value = true) : Taken form arguments (.option option value)
        { arguments with values := arguments.values ++ [(option.long,value)] }
  | operand {value : Text} (written : value ≠ []) (room : arguments.operands.length < form.operands) :
      Taken form arguments (.operand value) { arguments with operands := arguments.operands ++ [value] }

theorem take_exact {form : CommandForm} {arguments next : Arguments} {item : Item} :
    take form arguments item = .ok next ↔ Taken form arguments item next := by
  constructor
  · intro taken
    cases item with
    | option option value =>
      rw [take] at taken
      split at taken
      · cases taken
      · rename_i free
        cases taken
        obtain ⟨fresh,fits⟩ : arguments.value? option.long = .none ∧ option.accepts value = true := by
          simpa using free
        exact .option fresh fits
    | operand value =>
      rw [take] at taken
      split at taken
      · cases taken
      · rename_i free
        cases taken
        obtain ⟨written,room⟩ : value ≠ [] ∧ arguments.operands.length < form.operands := by simpa using free
        exact .operand written room
    | help => cases taken
    | invalid => cases taken
  · rintro (⟨fresh,fits⟩ | ⟨written,room⟩)
    · simp [take,fresh,fits]
    · simp [take,written,room]

theorem value?_taken {form : CommandForm} {arguments next : Arguments} {item : Item}
    (taken : Taken form arguments item next) (long value : Text) : next.value? long = some value ↔
      arguments.value? long = some value ∨ ∃ option, item = .option option value ∧ option.long = long := by
  cases taken with
  | @option option given fresh fits =>
    simp only [value?] at fresh ⊢
    rw [List.lookup_append,lookup_entry,List.lookup_nil,Option.or_eq_some_iff]
    by_cases same : long = option.long
    · subst same
      simp only [fresh,if_true,reduceCtorEq,false_or,true_and,Option.some.injEq,Item.option.injEq]
      constructor
      · rintro rfl
        exact ⟨option,⟨rfl,rfl⟩,rfl⟩
      · rintro ⟨_,⟨_,given⟩,_⟩
        exact given
    · simp [same,Ne.symm same]
  | operand => simp [value?]

-- After a run an option has the value that one of the items gave it.
theorem value?_run {form : CommandForm} {items : List Item} {arguments found : Arguments}
    (ran : items.foldlM (take form) arguments = .ok found) (long value : Text) :
    found.value? long = some value ↔ arguments.value? long = some value ∨
      ∃ option, .option option value ∈ items ∧ option.long = long := by
  induction items generalizing arguments with
  | nil =>
    cases ran
    simp
  | cons item items ih =>
    rw [List.foldlM_cons] at ran
    cases step : take form arguments item with
    | error => simp [step,bind,Except.bind] at ran
    | ok next =>
      rw [step] at ran
      rw [ih ran,value?_taken (take_exact.mp step)]
      simp only [List.mem_cons,or_and_right,exists_or,or_assoc,eq_comm]

theorem value?_read {form : CommandForm} {arguments : List Text} {found : Arguments}
    (accepted : read form arguments = .ok found) (long value : Text) : found.value? long = some value ↔
      ∃ option, .option option value ∈ readItems form.options arguments ∧ option.long = long := by
  rw [value?_run accepted]
  simp [none,value?]

end SpecLint.Arguments
