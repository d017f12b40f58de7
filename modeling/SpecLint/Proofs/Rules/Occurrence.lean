import SpecLint.Proofs.Rules.Phrase

namespace SpecLint
open Text

namespace Phrase

-- A phrase at the beginning of a text, told apart from the words on its sides. Between an opener
-- and its closing word the clause must not end.
def Begins : Phrase → (before : Option Char) → Text → Prop
  | word keyword, before, text => joins before = false ∧
      ∃ after, text = keyword ++ after ∧ joins after.head? = false
  | pair opener closers whole, before, text => joins before = false ∧
      ∃ behind, text = opener ++ behind ∧ joins behind.head? = false ∧
        ∃ middle closer after, closer ∈ closers ∧ behind = middle ++ closer ++ after ∧
          (∀ c ∈ middle, endsClause c = false) ∧
          (whole = true → joins (opener ++ middle).getLast? = false) ∧ joins after.head? = false

def Occurs (phrase : Phrase) (text : Text) : Prop :=
  ∃ front rest, text = front ++ rest ∧ phrase.Begins front.getLast? rest

theorem atWord_exact (word : Text) (before : Option Char) (text : Text) :
    atWord word before text = true ↔ joins before = false ∧
      ∃ after, text = word ++ after ∧ joins after.head? = false := by
  rw [atWord,Bool.and_eq_true,endsWord_exact,Bool.not_eq_true']

theorem closer?_some {closers : List Text} {whole : Bool} {before : Option Char} {text : Text} :
    (closer? closers whole before text).isSome = true ↔ ∃ closer ∈ closers, ∃ after,
      text = closer ++ after ∧ (whole = true → joins before = false) ∧ joins after.head? = false := by
  rw [closer?,List.find?_isSome]
  refine exists_congr fun closer => and_congr_right fun _ => ?_
  rw [Bool.and_eq_true,endsWord_exact,Bool.not_eq_true',Bool.and_eq_false_imp]
  constructor
  · intro closes
    obtain ⟨apart,after,same,free⟩ := closes
    exact ⟨after,same,apart,free⟩
  · intro closes
    obtain ⟨after,same,apart,free⟩ := closes
    exact ⟨apart,after,same,free⟩

-- A closing word is reached exactly when one stands somewhere in the clause.
theorem reach_some {closers : List Text} (formed : ∀ closer ∈ closers, Word closer) (whole : Bool)
    (before : Option Char) (text : Text) :
    (reach closers whole before text).isSome = true ↔
      ∃ middle closer after, closer ∈ closers ∧ text = middle ++ closer ++ after ∧
        (∀ c ∈ middle, endsClause c = false) ∧
        (whole = true → joins (middle.getLast?.or before) = false) ∧ joins after.head? = false := by
  induction text generalizing before with
  | nil =>
    refine iff_of_false Bool.false_ne_true ?_
    intro closes
    obtain ⟨middle,closer,after,member,same,_⟩ := closes
    exact (formed closer member).1 (List.append_eq_nil_iff.mp (List.append_eq_nil_iff.mp same.symm).1).2
  | cons c rest ih =>
    have step : (reach closers whole before (c :: rest)).isSome = true ↔
        (endsClause c = false ∧ (reach closers whole (some c) rest).isSome = true) ∨
          (closer? closers whole before (c :: rest)).isSome = true := by
      rw [reach]
      cases endsClause c with
      | true => cases closer? closers whole before (c :: rest) <;> simp
      | false => cases reach closers whole (some c) rest <;> simp
    rw [step,ih,closer?_some]
    constructor
    · intro closes
      rcases closes with ⟨clause,middle,closer,after,member,same,inside,apart,free⟩ |
        ⟨closer,member,after,same,apart,free⟩
      · refine ⟨c :: middle,closer,after,member,by rw [same]; rfl,?_,?_,free⟩
        · intro d within
          rcases List.mem_cons.mp within with rfl | below
          · exact clause
          · exact inside d below
        · intro both
          rw [last_front]
          exact apart both
      · exact ⟨[],closer,after,member,same,List.forall_mem_nil _,apart,free⟩
    · intro closes
      obtain ⟨middle,closer,after,member,same,inside,apart,free⟩ := closes
      cases middle with
      | nil => exact .inr ⟨closer,member,after,same,apart,free⟩
      | cons d middle =>
        obtain ⟨rfl,below⟩ := List.cons.inj same
        refine .inl ⟨inside c (by simp),middle,closer,after,member,below,?_,?_,free⟩
        · exact fun e within => inside e (List.mem_cons_of_mem _ within)
        · intro both
          rw [← last_front c middle before]
          exact apart both

theorem lengthAt_some {phrase : Phrase} (formed : phrase.Formed) (before : Option Char) (text : Text) :
    (phrase.lengthAt before text).isSome = true ↔ phrase.Begins before text := by
  cases phrase with
  | word keyword =>
    rw [Begins,← atWord_exact,lengthAt]
    cases atWord keyword before text <;> simp
  | pair opener closers whole =>
    have behind : ∀ rest, (reach closers whole opener.getLast? rest).isSome = true ↔
        ∃ middle closer after, closer ∈ closers ∧ rest = middle ++ closer ++ after ∧
          (∀ c ∈ middle, endsClause c = false) ∧
          (whole = true → joins (opener ++ middle).getLast? = false) ∧ joins after.head? = false := by
      intro rest
      simp only [reach_some formed.2,List.getLast?_append]
    rw [Begins,lengthAt]
    constructor
    · intro found
      split at found
      · rename_i here
        obtain ⟨free,rest,rfl,ends⟩ := (atWord_exact _ _ _).mp here
        rw [List.drop_left,Option.isSome_map] at found
        exact ⟨free,rest,rfl,ends,(behind rest).mp found⟩
      · cases found
    · intro begins
      obtain ⟨free,rest,rfl,ends,closes⟩ := begins
      rw [if_pos ((atWord_exact _ _ _).mpr ⟨free,rest,rfl,ends⟩),List.drop_left,Option.isSome_map]
      exact (behind rest).mpr closes

theorem mem_places {read : Option Char → Text → α} {before : Option Char} {text : Text} {value : α} :
    value ∈ places read before text ↔ ∃ front c rest, text = front ++ c :: rest ∧
      read (front.getLast?.or before) (c :: rest) = value := by
  induction text generalizing before with
  | nil => simp [places]
  | cons d text ih =>
    rw [places,List.mem_cons,ih]
    constructor
    · intro found
      rcases found with rfl | ⟨front,c,rest,rfl,rfl⟩
      · exact ⟨[],d,text,rfl,rfl⟩
      · exact ⟨d :: front,c,rest,rfl,by rw [last_front]⟩
    · intro found
      obtain ⟨front,c,rest,same,here⟩ := found
      cases front with
      | nil =>
        obtain ⟨rfl,rfl⟩ := List.cons.inj same
        exact .inl here.symm
      | cons e front =>
        obtain ⟨rfl,below⟩ := List.cons.inj same
        exact .inr ⟨front,c,rest,below,by rw [← last_front]; exact here⟩

theorem countApart_pos (places : List (Option Nat)) :
    0 < countApart 0 places ↔ ∃ place ∈ places, place.isSome = true := by
  induction places with
  | nil => simp [countApart]
  | cons here rest ih =>
    cases here with
    | none => simp [countApart,ih]
    | some length => simp [countApart]

theorem begins_filled {phrase : Phrase} (formed : phrase.Formed) {before : Option Char} {text : Text}
    (begins : phrase.Begins before text) : text ≠ [] := by
  cases phrase with
  | word keyword =>
    obtain ⟨_,after,rfl,_⟩ := begins
    simp [formed.1]
  | pair opener closers whole =>
    obtain ⟨_,behind,rfl,_⟩ := begins
    simp [formed.1.1]

-- A phrase is counted at least once exactly where it occurs.
theorem count_pos {phrase : Phrase} (formed : phrase.Formed) (text : Text) :
    0 < phrase.count text ↔ phrase.Occurs text := by
  rw [count_places formed,countApart_pos]
  constructor
  · intro found
    obtain ⟨place,member,some⟩ := found
    obtain ⟨front,c,rest,rfl,rfl⟩ := mem_places.mp member
    rw [Option.or_none,lengthAt_some formed] at some
    exact ⟨front,c :: rest,rfl,some⟩
  · intro occurs
    obtain ⟨front,rest,rfl,begins⟩ := occurs
    obtain ⟨c,below,rfl⟩ := List.exists_cons_of_ne_nil (begins_filled formed begins)
    refine ⟨_,mem_places.mpr ⟨front,c,below,rfl,rfl⟩,?_⟩
    rw [Option.or_none]
    exact (lengthAt_some formed _ _).mpr begins

end Phrase
end SpecLint
