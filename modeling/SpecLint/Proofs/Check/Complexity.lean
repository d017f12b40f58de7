import SpecLint.Proofs.Check.Findings

namespace SpecLint

-- The items that are too long, each with its position and in the order of the rules.
theorem longRuleFaults_exact (config : Config) (position : Nat) (items : List Text) :
    longRuleFaults config position items =
      ((items.zipIdx position).filter fun item => config.maxRuleLength < item.1.length).map fun item =>
        .longRule item.2 config.maxRuleLength item.1.length := by
  induction items generalizing position with
  | nil => rfl
  | cons item rest ih =>
    unfold longRuleFaults
    rw [ih,List.zipIdx_cons]
    dsimp only
    split
    · rename_i long
      rw [List.filter_cons_of_pos (by simpa using long),List.map_cons]
    · rename_i short
      rw [List.filter_cons_of_neg (by simpa using short)]

theorem longRuleFaults_kind (config : Config) (position : Nat) (items : List Text) :
    ∀ fault ∈ longRuleFaults config position items,
      ∃ place length, fault = .longRule place config.maxRuleLength length := by
  intro fault member
  rw [longRuleFaults_exact] at member
  obtain ⟨item,_,rfl⟩ := List.mem_map.mp member
  exact ⟨item.2,item.1.length,rfl⟩

theorem inputFaults_kind (config : Config) (inputs : List Text) :
    ∀ fault ∈ inputFaults config inputs, ∃ count limit, fault = .tooManyInputs count limit := by
  intro fault member
  rw [inputFaults,List.mem_ite_nil_right,List.mem_singleton] at member
  exact ⟨_,_,member.2⟩

theorem coverageFaults_kind (rules examples : Text) :
    ∀ fault ∈ coverageFaults rules examples, ∃ counted branches, fault = .tooFewExamples counted branches := by
  intro fault member
  rw [coverageFaults,List.mem_ite_nil_left,List.mem_singleton] at member
  exact ⟨_,_,member.2⟩

-- An empty block has no items, so it needs no case of its own.
theorem ruleFaults_parts (config : Config) (rules : Text) : ruleFaults config rules =
    (if config.maxRules < (ruleItems rules).length then
      [.tooManyRules (ruleItems rules).length config.maxRules] else []) ++
      longRuleFaults config 1 (ruleItems rules) := by
  unfold ruleFaults
  split
  · rename_i empty
    have nothing : ruleItems [] = [] := rfl
    rw [List.isEmpty_iff.mp empty,nothing,List.length_nil,if_neg (Nat.not_lt_zero _)]
    rfl
  · rfl

end SpecLint
