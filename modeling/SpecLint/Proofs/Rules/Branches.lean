import SpecLint.Proofs.Rules.Lines
import SpecLint.Proofs.Rules.Occurrence

namespace SpecLint
open Text

namespace Phrase

theorem begins_opener {opener : Text} {closers : List Text} {whole : Bool} {before : Option Char}
    {text : Text} (begins : (pair opener closers whole).Begins before text) :
    (word opener).Begins before text := by
  obtain ⟨free,behind,same,ends,_⟩ := begins
  exact ⟨free,behind,same,ends⟩

theorem occurs_opener {opener : Text} {closers : List Text} {whole : Bool} {text : Text}
    (occurs : (pair opener closers whole).Occurs text) : (word opener).Occurs text := by
  obtain ⟨front,rest,same,begins⟩ := occurs
  exact ⟨front,rest,same,begins_opener begins⟩

-- A phrase with a closing word is only found where its opener is.
theorem count_opener {opener : Text} {closers : List Text} {whole : Bool} {text : Text}
    (formed : (pair opener closers whole).Formed) (found : 0 < (pair opener closers whole).count text) :
    0 < (word opener).count text := by
  have single : (word opener).Formed := formed.1
  exact (count_pos single text).mpr (occurs_opener ((count_pos formed text).mp found))

-- At how many places a phrase begins, also where one beginning lies inside another occurrence.
def starts (phrase : Phrase) (before : Option Char) (text : Text) : Nat :=
  (places phrase.lengthAt before text).countP Option.isSome

theorem starts_begins {phrase : Phrase} (formed : phrase.Formed) {before : Option Char} {c : Char}
    {text : Text} (begins : phrase.Begins before (c :: text)) :
    phrase.starts before (c :: text) = phrase.starts (some c) text + 1 :=
  List.countP_cons_of_pos ((lengthAt_some formed _ _).mpr begins)

theorem starts_other {phrase : Phrase} (formed : phrase.Formed) {before : Option Char} {c : Char}
    {text : Text} (silent : ¬phrase.Begins before (c :: text)) :
    phrase.starts before (c :: text) = phrase.starts (some c) text :=
  List.countP_cons_of_neg fun found => silent ((lengthAt_some formed _ _).mp found)

theorem starts_below (phrase : Phrase) (before : Option Char) (c : Char) (text : Text) :
    phrase.starts (some c) text ≤ phrase.starts before (c :: text) :=
  (List.sublist_cons_self _ _).countP_le

theorem countApart_le (skip : Nat) (places : List (Option Nat)) :
    countApart skip places ≤ places.countP Option.isSome := by
  induction places generalizing skip with
  | nil => exact Nat.zero_le _
  | cons here rest ih =>
    cases skip with
    | succ skip => exact (ih skip).trans (List.sublist_cons_self _ _).countP_le
    | zero =>
      cases here with
      | none => exact (ih 0).trans (List.sublist_cons_self _ _).countP_le
      | some length =>
        rw [List.countP_cons_of_pos rfl]
        exact Nat.succ_le_succ (ih (length - 1))

theorem count_starts {phrase : Phrase} (formed : phrase.Formed) (text : Text) :
    phrase.count text ≤ phrase.starts none text := by
  rw [count_places formed]
  exact countApart_le 0 _

-- Nothing begins inside what begins before it.
def Apart : List (Option Nat) → Prop
  | [] => True
  | here :: rest =>
    (∀ length, here = some length → ∀ place ∈ rest.take (length - 1), place = none) ∧ Apart rest

theorem countApart_apart {places : List (Option Nat)} (apart : Apart places) {skip : Nat}
    (passed : ∀ place ∈ places.take skip, place = none) :
    countApart skip places = places.countP Option.isSome := by
  induction places generalizing skip with
  | nil => rfl
  | cons here rest ih =>
    cases skip with
    | succ skip =>
      have empty : here = none := passed here (by simp)
      subst empty
      exact ih apart.2 fun place member => passed place (List.mem_cons_of_mem _ member)
    | zero =>
      cases here with
      | none => exact ih apart.2 (List.forall_mem_nil _)
      | some length =>
        rw [List.countP_cons_of_pos rfl,← ih apart.2 (apart.1 length rfl)]
        rfl

theorem word_inside {front : Text} (letters : ∀ c ∈ front, isWordChar c = true) (keyword : Text) {c : Char}
    (letter : isWordChar c = true) (rest : Text) :
    ∀ place ∈ (places (word keyword).lengthAt (some c) (front ++ rest)).take front.length, place = none := by
  induction front generalizing c with
  | nil => exact List.forall_mem_nil _
  | cons d front ih =>
    intro place member
    rw [List.cons_append,places,List.length_cons,List.take_succ_cons] at member
    rcases List.mem_cons.mp member with rfl | below
    · have joined : atWord keyword (some c) (d :: (front ++ rest)) = false := by
        rw [atWord,joins,Option.any_some,letter]
        rfl
      rw [lengthAt,joined]
      rfl
    · exact ih (fun e within => letters e (List.mem_cons_of_mem _ within)) (letters d (by simp)) place below

theorem word_apart {keyword : Text} (formed : Word keyword) (before : Option Char) (text : Text) :
    Apart (places (word keyword).lengthAt before text) := by
  induction text generalizing before with
  | nil => trivial
  | cons c text ih =>
    refine ⟨?_,ih (some c)⟩
    intro length found
    rw [lengthAt] at found
    split at found
    · rename_i here
      cases Option.some.inj found
      obtain ⟨_,rest,whole,_⟩ := (atWord_exact _ _ _).mp here
      cases keyword with
      | nil => exact absurd rfl formed.1
      | cons d keyword =>
        obtain ⟨rfl,rfl⟩ := List.cons.inj whole
        exact word_inside (fun e within => formed.2 e (List.mem_cons_of_mem _ within)) _
          (formed.2 c (by simp)) rest
    · cases found

theorem count_word {keyword : Text} (formed : Word keyword) (text : Text) :
    (word keyword).count text = (word keyword).starts none text := by
  have whole : (word keyword).Formed := formed
  rw [count_places whole]
  exact countApart_apart (word_apart formed none text) (List.forall_mem_nil _)

-- Two phrases with one opener that begin nowhere together take a beginning of the opener each.
theorem starts_apart {opener : Text} {closers others : List Text} {whole part : Bool}
    (formed : (pair opener closers whole).Formed) (sibling : (pair opener others part).Formed)
    {before : Option Char} {text : Text} (apart : ∀ front rest, text = front ++ rest →
      ¬((pair opener closers whole).Begins (front.getLast?.or before) rest ∧
        (pair opener others part).Begins (front.getLast?.or before) rest)) :
    (pair opener closers whole).starts before text + (pair opener others part).starts before text ≤
      (word opener).starts before text := by
  have single : (word opener).Formed := formed.1
  induction text generalizing before with
  | nil => exact Nat.le_refl _
  | cons c text ih =>
    have behind : ∀ front rest, text = front ++ rest →
        ¬((pair opener closers whole).Begins (front.getLast?.or (some c)) rest ∧
          (pair opener others part).Begins (front.getLast?.or (some c)) rest) := by
      intro front rest same
      rw [← last_front c front before]
      exact apart (c :: front) rest (congrArg (c :: ·) same)
    have below := ih behind
    by_cases left : (pair opener closers whole).Begins before (c :: text)
    · have right : ¬(pair opener others part).Begins before (c :: text) :=
        fun right => apart [] (c :: text) rfl ⟨left,right⟩
      rw [starts_begins formed left,starts_other sibling right,starts_begins single (begins_opener left)]
      omega
    · by_cases right : (pair opener others part).Begins before (c :: text)
      · rw [starts_other formed left,starts_begins sibling right,
          starts_begins single (begins_opener right)]
        omega
      · have more := starts_below (word opener) before c text
        rw [starts_other formed left,starts_other sibling right]
        omega

end Phrase

def keywords : List Phrase := [.ifWord,.whenWord,.optionally,.eitherOr]

def HasKeyword (text : Text) : Prop := ∃ phrase ∈ keywords, phrase.Occurs (lowercase text)

theorem keywordBranches_pos (text : Text) :
    0 < keywordBranches (lowercase text) ↔ HasKeyword text := by
  obtain ⟨ifOr,ifElse,ifWord,whenWord,optionally,eitherOr⟩ := keywords_formed
  have formed : ∀ phrase ∈ keywords, phrase.Formed := by
    simp [keywords,ifWord,whenWord,optionally,eitherOr]
  have counted : HasKeyword text ↔ ∃ phrase ∈ keywords, 0 < phrase.count (lowercase text) :=
    exists_congr fun phrase => and_congr_right fun member => (Phrase.count_pos (formed phrase member) _).symm
  have orOpened : 0 < Phrase.ifOr.count (lowercase text) → 0 < Phrase.ifWord.count (lowercase text) :=
    Phrase.count_opener ifOr
  have elseOpened : 0 < Phrase.ifElse.count (lowercase text) → 0 < Phrase.ifWord.count (lowercase text) :=
    Phrase.count_opener ifElse
  rw [counted]
  simp only [keywords,keywordBranches,List.mem_cons,List.not_mem_nil,or_false,exists_eq_or_imp,exists_eq_left]
  omega

instance (text : Text) : Decidable (HasKeyword text) := decidable_of_iff _ (keywordBranches_pos text)

theorem branchCount_keyword {text : Text} (keyword : HasKeyword text) :
    branchCount text = keywordBranches (lowercase text) := by
  have counted := (keywordBranches_pos text).mpr keyword
  exact if_neg fun floor => absurd floor.1 (Nat.ne_of_gt counted)

def ifCount (text : Text) : Nat := Phrase.ifWord.count (lowercase text)

def alternativeCount (text : Text) : Nat :=
  Phrase.ifOr.count (lowercase text) + Phrase.ifElse.count (lowercase text)

-- Some `if` has both an `or` and an `otherwise` or `else` in its clause, and begins two alternatives.
def Doubled (text : Text) : Prop :=
  ∃ front rest, lowercase text = front ++ rest ∧ Phrase.ifOr.Begins front.getLast? rest ∧
    Phrase.ifElse.Begins front.getLast? rest

theorem alternativeCount_le {text : Text} (plain : ¬Doubled text) : alternativeCount text ≤ ifCount text := by
  obtain ⟨ifOr,ifElse,ifWord,_⟩ := keywords_formed
  have starts : Phrase.ifOr.starts none (lowercase text) + Phrase.ifElse.starts none (lowercase text) ≤
      Phrase.ifWord.starts none (lowercase text) := by
    refine Phrase.starts_apart ifOr ifElse ?_
    intro front rest whole both
    rw [Option.or_none] at both
    exact plain ⟨front,rest,whole,both.1,both.2⟩
  calc alternativeCount text
      ≤ Phrase.ifOr.starts none (lowercase text) + Phrase.ifElse.starts none (lowercase text) :=
        Nat.add_le_add (Phrase.count_starts ifOr _) (Phrase.count_starts ifElse _)
    _ ≤ Phrase.ifWord.starts none (lowercase text) := starts
    _ = ifCount text := (Phrase.count_word ifWord _).symm

-- What one text overcounts is taken from the single branches of the other.
theorem branchCount_append {first second : Text} (upper : HasKeyword first) (lower : HasKeyword second) :
    branchCount (first ++ '\n' :: second) ≤ branchCount first + branchCount second ∧
      (branchCount (first ++ '\n' :: second) = branchCount first + branchCount second ↔
        ¬(ifCount first < alternativeCount first ∧ alternativeCount second < ifCount second) ∧
          ¬(alternativeCount first < ifCount first ∧ ifCount second < alternativeCount second)) ∧
      (¬Doubled first → ¬Doubled second →
        branchCount (first ++ '\n' :: second) = branchCount first + branchCount second) := by
  obtain ⟨ifOr,ifElse,ifWord,whenWord,optionally,eitherOr⟩ := keywords_formed
  have line : ∀ phrase : Phrase, phrase.Formed → phrase.count (lowercase (first ++ '\n' :: second)) =
      phrase.count (lowercase first) + phrase.count (lowercase second) :=
    fun _ formed => Phrase.count_lineFeed formed first second
  have counted := (keywordBranches_pos first).mpr upper
  have both : HasKeyword (first ++ '\n' :: second) := by
    rw [← keywordBranches_pos]
    simp only [keywordBranches,line _ ifOr,line _ ifElse,line _ ifWord,line _ whenWord,
      line _ optionally,line _ eitherOr] at counted ⊢
    omega
  rw [branchCount_keyword both,branchCount_keyword upper,branchCount_keyword lower]
  simp only [keywordBranches,alternativeCount,ifCount,line _ ifOr,line _ ifElse,line _ ifWord,line _ whenWord,
    line _ optionally,line _ eitherOr]
  refine ⟨by omega,by omega,?_⟩
  intro plain plainBelow
  have balanced := alternativeCount_le plain
  have balancedBelow := alternativeCount_le plainBelow
  simp only [alternativeCount,ifCount] at balanced balancedBelow
  omega

theorem branchCount_kept :
    branchCount ("if a or b otherwise c".toList ++ '\n' :: "either d or e\nwhen f".toList) =
      branchCount "if a or b otherwise c".toList + branchCount "either d or e\nwhen f".toList :=
  (branchCount_append (by decide +kernel) (by decide +kernel)).2.1.mpr (by decide +kernel)

-- The second `if` adds nothing below the first line, although no alternative accounts for it.
theorem branchCount_lost :
    HasKeyword "if a or b otherwise c".toList ∧ HasKeyword "if x".toList ∧
      branchCount ("if a or b otherwise c".toList ++ '\n' :: "if x".toList) = 4 ∧
      branchCount "if a or b otherwise c".toList + branchCount "if x".toList = 5 := by
  decide +kernel

end SpecLint
