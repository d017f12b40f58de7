import SpecLint.Proofs.Text.Split
import SpecLint.Proofs.Text.Trim
import SpecLint.Text.Lowercase

namespace SpecLint.Text

def blankCodes : List Nat :=
  [0x9, 0xA, 0xB, 0xC, 0xD, 0x20, 0x85, 0xA0, 0x1680, 0x2000, 0x2001, 0x2002, 0x2003, 0x2004, 0x2005,
   0x2006, 0x2007, 0x2008, 0x2009, 0x200A, 0x2028, 0x2029, 0x202F, 0x205F, 0x3000]

theorem blank_codes (c : Char) : isBlank c = true ↔ c.toNat ∈ blankCodes := by
  simp only [isBlank,blankCodes,Bool.or_eq_true,Bool.and_eq_true,decide_eq_true_eq,beq_iff_eq,
    List.mem_cons,List.not_mem_nil,or_false]
  omega

theorem blankCodes_caseless : ∀ code ∈ blankCodes, isCased (Char.ofNat code) = false ∧
    isCaseIgnorable (Char.ofNat code) = false ∧ lowerChar (Char.ofNat code) = [Char.ofNat code] := by
  decide +kernel

theorem blank_caseless {c : Char} (blank : isBlank c = true) :
    isCased c = false ∧ isCaseIgnorable c = false ∧ lowerChar c = [c] := by
  have facts := blankCodes_caseless c.toNat ((blank_codes c).mp blank)
  rwa [Char.ofNat_toNat] at facts

-- A blank ends every word, so nothing beyond it decides the form of a sigma.
theorem meetsCased_blank {c : Char} (blank : isBlank c = true) (text rest : Text) :
    meetsCased (text ++ c :: rest) = meetsCased text := by
  obtain ⟨uncased,solid,_⟩ := blank_caseless blank
  unfold meetsCased
  rw [List.dropWhile_append]
  cases inner : text.dropWhile isCaseIgnorable with
  | nil => simp [solid,uncased]
  | cons d kept => simp

theorem lowerFrom_blank {c : Char} (blank : isBlank c = true) (before far text : Text) :
    lowerFrom (before ++ c :: far) text = lowerFrom before text := by
  induction text generalizing before with
  | nil => rfl
  | cons d text ih =>
    have deeper := ih (d :: before)
    rw [List.cons_append] at deeper
    simp only [lowerFrom,lowerSigma,meetsCased_blank blank,deeper]

theorem lowerFrom_append {c : Char} (blank : isBlank c = true) (before text rest : Text) :
    lowerFrom before (text ++ c :: rest) = lowerFrom before text ++ c :: lowerFrom [] rest := by
  induction text generalizing before with
  | nil =>
    have sigma : c ≠ 'Σ' := by
      intro same
      simp [same,isBlank] at blank
    have fresh := lowerFrom_blank blank [] before rest
    rw [List.nil_append] at fresh
    simp only [List.nil_append,lowerFrom,sigma,if_false,(blank_caseless blank).2.2,fresh,
      List.singleton_append]
  | cons d text ih =>
    simp only [List.cons_append,lowerFrom,lowerSigma,meetsCased_blank blank,ih,List.append_assoc]

theorem lowercase_append {c : Char} (blank : isBlank c = true) (text rest : Text) :
    lowercase (text ++ c :: rest) = lowercase text ++ c :: lowercase rest :=
  lowerFrom_append blank [] text rest

theorem lowercase_before {before : Text} (blank : ∀ c ∈ before, isBlank c = true) (text : Text) :
    lowercase (before ++ text) = before ++ lowercase text := by
  induction before with
  | nil => rfl
  | cons c before ih =>
    have first := lowercase_append (blank c (by simp)) [] (before ++ text)
    rw [List.nil_append] at first
    rw [List.cons_append,first,ih (fun d member => blank d (by simp [member]))]
    rfl

theorem lowercase_after {after : Text} (blank : ∀ c ∈ after, isBlank c = true) (text : Text) :
    lowercase (text ++ after) = lowercase text ++ after := by
  cases after with
  | nil => simp
  | cons c after =>
    have below : ∀ d ∈ after, isBlank d = true := fun d member => blank d (by simp [member])
    have tail := lowercase_before below []
    rw [lowercase_append (blank c (by simp))]
    simpa [lowercase,lowerFrom] using tail

-- The blanks and the underscore: no other character has one of them in its lowercase.
def steadyCodes : List Nat := 0x5F :: blankCodes

def Steady (c : Char) : Prop := c.toNat ∈ steadyCodes

instance (c : Char) : Decidable (Steady c) := inferInstanceAs (Decidable (_ ∈ _))

theorem blank_steady {c : Char} (blank : isBlank c = true) : Steady c :=
  List.mem_cons_of_mem _ ((blank_codes c).mp blank)

-- The runs of small letters lie clear of them.
theorem caseRuns_steady : ∀ run ∈ caseRuns, ∀ code ∈ steadyCodes,
    code < run.small ∨ run.small + (run.last - run.first) < code := by
  have table : (caseRuns.all fun run => steadyCodes.all fun code =>
      Nat.blt code run.small || Nat.blt (run.small + (run.last - run.first)) code) = true := by
    decide +kernel
  simpa only [List.all_eq_true,Bool.or_eq_true,Nat.blt_eq] using table

theorem ofNat_code (code : Nat) : (Char.ofNat code).toNat = code ∨ (Char.ofNat code).toNat = 0 := by
  by_cases valid : code.isValidChar
  · rw [Char.ofNat,dif_pos valid]
    exact .inl rfl
  · rw [Char.ofNat,dif_neg valid]
    exact .inr rfl

theorem small_steady {code small : Nat} (found : caseRuns.findSome? (·.small? code) = some small) :
    ¬Steady (Char.ofNat small) := by
  intro steady
  obtain ⟨run,member,mapped⟩ := List.exists_of_findSome?_eq_some found
  unfold CaseRun.small? at mapped
  split at mapped
  · rename_i inside
    cases Option.some.inj mapped
    unfold Steady at steady
    rcases ofNat_code (run.small + (code - run.first)) with same | zero
    · rw [same] at steady
      rcases caseRuns_steady run member _ steady with below | above
      · omega
      · omega
    · rw [zero] at steady
      exact absurd steady (by decide)
  · cases mapped

theorem toLower_steady {c : Char} (ascii : c.toNat < 0x80) (steady : Steady c.toLower) :
    c.toLower = c := by
  have facts : ∀ code < 0x80, Steady (Char.ofNat code).toLower →
      (Char.ofNat code).toLower = Char.ofNat code := by decide +kernel
  have same := facts c.toNat ascii
  rw [Char.ofNat_toNat] at same
  exact same steady

theorem lowerChar_steady {c d : Char} (steady : Steady d) (member : d ∈ lowerChar c) : d = c := by
  unfold lowerChar at member
  split at member
  · rename_i ascii
    cases List.mem_singleton.mp member
    exact toLower_steady ascii steady
  · split at member
    · rcases List.mem_cons.mp member with rfl | last
      · exact absurd steady (by decide)
      · rw [List.mem_singleton.mp last] at steady
        exact absurd steady (by decide)
    · split at member
      · rename_i found
        cases List.mem_singleton.mp member
        exact absurd steady (small_steady found)
      · exact List.mem_singleton.mp member

theorem lowerFrom_steady {d : Char} (steady : Steady d) (before text : Text)
    (member : d ∈ lowerFrom before text) : d ∈ text := by
  induction text generalizing before with
  | nil => cases member
  | cons c text ih =>
    rw [lowerFrom] at member
    rcases List.mem_append.mp member with here | below
    · split at here
      · cases List.mem_singleton.mp here
        unfold lowerSigma at steady
        split at steady <;> exact absurd steady (by decide)
      · rw [lowerChar_steady steady here]
        exact List.mem_cons_self
    · exact List.mem_cons_of_mem _ (ih _ below)

theorem lowercase_steady {text : Text} {d : Char} (steady : Steady d)
    (member : d ∈ lowercase text) : d ∈ text := lowerFrom_steady steady [] text member

theorem lowerChar_some (c : Char) : lowerChar c ≠ [] := by
  unfold lowerChar
  split
  · simp
  · split
    · simp
    · split <;> simp

theorem lowercase_eq_nil {text : Text} : lowercase text = [] ↔ text = [] := by
  cases text with
  | nil => exact iff_of_true rfl rfl
  | cons c text =>
    have first : (if c = 'Σ' then [lowerSigma [] text] else lowerChar c) ≠ [] := by
      split
      · simp
      · exact lowerChar_some c
    simp [lowercase,lowerFrom,first]

-- The same text but for the case of its ASCII letters.
def SameLetters (text other : Text) : Prop := text.map Char.toLower = other.map Char.toLower

instance (text other : Text) : Decidable (SameLetters text other) := inferInstanceAs (Decidable (_ = _))

theorem toLower_cases (c : Char) : c.toLower = c ∨ c.toNat ∈ List.range' 0x41 26 := by
  unfold Char.toLower
  split
  · rename_i capital
    refine .inr (List.mem_range'_1.mpr ?_)
    change 0x41 ≤ c.val.toNat ∧ c.val.toNat < 0x41 + 26
    simp only [ge_iff_le,UInt32.le_iff_toNat_le] at capital
    change 0x41 ≤ c.val.toNat ∧ c.val.toNat ≤ 0x5A at capital
    omega
  · exact .inl rfl

theorem ignorable_apart : ∀ range ∈ caseIgnorableRanges,
    (range.2 < 0x41 ∨ 0x5A < range.1) ∧ (range.2 < 0x61 ∨ 0x7A < range.1) := by
  decide +kernel

theorem letter_solid {c : Char} (letter : (0x41 ≤ c.toNat ∧ c.toNat ≤ 0x5A) ∨
    (0x61 ≤ c.toNat ∧ c.toNat ≤ 0x7A)) : isCaseIgnorable c = false := by
  rw [isCaseIgnorable,inRanges,List.any_eq_false]
  intro range member
  have apart := ignorable_apart range member
  rw [Bool.and_eq_true,decide_eq_true_eq,decide_eq_true_eq]
  omega

theorem capitals_cased : ∀ code ∈ List.range' 0x41 26, let c := Char.ofNat code
    isCased c.toLower = isCased c ∧ lowerChar c.toLower = lowerChar c ∧ c.toLower.toNat = code + 0x20 := by
  decide +kernel

theorem toLower_cased (c : Char) : isCased c.toLower = isCased c ∧
    isCaseIgnorable c.toLower = isCaseIgnorable c ∧ lowerChar c.toLower = lowerChar c ∧
      (c.toLower = 'Σ' ↔ c = 'Σ') := by
  rcases toLower_cases c with same | capital
  · simp only [same,and_self]
  · have facts := capitals_cased c.toNat capital
    rw [Char.ofNat_toNat] at facts
    obtain ⟨cased,lower,code⟩ := facts
    rw [List.mem_range'_1] at capital
    have solid := letter_solid (c := c) (.inl (by omega))
    have small := letter_solid (c := c.toLower) (.inr (by omega))
    have sigma : ∀ d : Char, d.toNat < 0x80 → d ≠ 'Σ' := by
      intro d ascii same
      rw [same] at ascii
      exact absurd ascii (by decide)
    exact ⟨cased,small.trans solid.symm,lower,
      iff_of_false (sigma c.toLower (by omega)) (sigma c (by omega))⟩

theorem meetsCased_letters (text : Text) : meetsCased (text.map Char.toLower) = meetsCased text := by
  have ignored : isCaseIgnorable ∘ Char.toLower = isCaseIgnorable := funext fun c => (toLower_cased c).2.1
  unfold meetsCased
  rw [List.dropWhile_map,ignored]
  cases text.dropWhile isCaseIgnorable with
  | nil => rfl
  | cons c rest => exact (toLower_cased c).1

theorem lowerFrom_letters (before text : Text) :
    lowerFrom (before.map Char.toLower) (text.map Char.toLower) = lowerFrom before text := by
  induction text generalizing before with
  | nil => rfl
  | cons c text ih =>
    obtain ⟨_,_,lower,sigma⟩ := toLower_cased c
    have deeper := ih (c :: before)
    rw [List.map_cons] at deeper
    simp only [List.map_cons,lowerFrom,lowerSigma,meetsCased_letters,lower,sigma,deeper]

theorem lowercase_letters {text other : Text} (same : SameLetters text other) :
    lowercase text = lowercase other := by
  have first := lowerFrom_letters [] text
  have second := lowerFrom_letters [] other
  unfold SameLetters at same
  rw [same] at first
  exact first.symm.trans second

end SpecLint.Text
