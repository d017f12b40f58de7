import SpecLint.Proofs.Text.Prefix
import SpecLint.Rules.Phrase

namespace SpecLint
open Text

namespace Phrase

def Word (word : Text) : Prop := word ≠ [] ∧ ∀ c ∈ word, isWordChar c = true

def Formed : Phrase → Prop
  | word keyword => Word keyword
  | pair opener closers _ => Word opener ∧ ∀ closer ∈ closers, Word closer

instance (word : Text) : Decidable (Word word) :=
  have : Decidable (∀ c ∈ word, isWordChar c = true) := List.decidableBAll (isWordChar · = true) word
  inferInstanceAs (Decidable (_ ∧ _))

instance : (phrase : Phrase) → Decidable phrase.Formed
  | .word keyword => inferInstanceAs (Decidable (Word keyword))
  | .pair opener closers _ => inferInstanceAs (Decidable (Word opener ∧ ∀ closer ∈ closers, Word closer))

-- How far the last closing word of the clause reaches from one place.
def reach (closers : List Text) (whole : Bool) : (before : Option Char) → Text → Option Nat
  | _, [] => none
  | before, c :: rest =>
    match if endsClause c then none else reach closers whole (some c) rest with
    | some length => some (length + 1)
    | none => (closer? closers whole before (c :: rest)).map List.length

def lengthAt (phrase : Phrase) (before : Option Char) (text : Text) : Option Nat :=
  match phrase with
  | word keyword => if atWord keyword before text then some keyword.length else none
  | pair opener closers whole =>
    if atWord opener before text then
      (reach closers whole opener.getLast? (text.drop opener.length)).map (opener.length + ·)
    else none

-- What is read at each place of a text, with the character in front of it.
def places (read : Option Char → Text → α) : (before : Option Char) → Text → List α
  | _, [] => []
  | before, c :: rest => read before (c :: rest) :: places read (some c) rest

theorem clauseEnds_head (closers : List Text) (whole : Bool) (before : Option Char) (text : Text) :
    (clauseEnds closers whole before text).headD none = reach closers whole before text := by
  induction text generalizing before with
  | nil => rfl
  | cons c rest ih =>
    rw [reach,← ih]
    rfl

theorem clauseEnds_places (closers : List Text) (whole : Bool) (before : Option Char) (text : Text) :
    clauseEnds closers whole before text = places (reach closers whole) before text ++ [none] := by
  induction text generalizing before with
  | nil => rfl
  | cons c rest ih =>
    have head := clauseEnds_head closers whole before (c :: rest)
    rw [clauseEnds] at head ⊢
    rw [List.headD_cons] at head
    rw [head,ih,places,List.cons_append]

theorem endsWord_exact (word text : Text) :
    endsWord word text = true ↔ ∃ rest, text = word ++ rest ∧ joins rest.head? = false := by
  unfold endsWord
  cases found : after? word text with
  | none =>
    have closed := (after?_none _ _).mp found
    simp only [Bool.false_eq_true,false_iff,not_exists,not_and]
    intro rest whole
    exact absurd ⟨rest,whole.symm⟩ closed
  | some rest =>
    rw [after?_exact] at found
    subst found
    simp

theorem atWord_opens {word text : Text} {before : Option Char} (here : atWord word before text = true) :
    word <+: text := by
  unfold atWord at here
  obtain ⟨rest,whole,_⟩ := (endsWord_exact _ _).mp (Bool.and_eq_true_iff.mp here).2
  exact ⟨rest,whole.symm⟩

-- The character in front of a place, when one more character is read before it.
theorem last_front (c : Char) (front : Text) (before : Option Char) :
    (c :: front).getLast?.or before = front.getLast?.or (some c) := by
  rw [List.getLast?_cons]
  cases front.getLast? <;> rfl

-- Places of a text from some characters on, each with the character in front of it.
theorem places_drop (read : Option Char → Text → α) (before : Option Char) (front rest : Text) :
    (places read before (front ++ rest)).drop front.length =
      places read (front.getLast?.or before) rest := by
  induction front generalizing before with
  | nil => rfl
  | cons c front ih =>
    rw [List.cons_append,places,List.length_cons,List.drop_succ_cons,ih,last_front]

theorem places_length (read : Option Char → Text → α) (before : Option Char) (text : Text) :
    (places read before text).length = text.length := by
  induction text generalizing before with
  | nil => rfl
  | cons c rest ih => rw [places,List.length_cons,ih,List.length_cons]

-- Behind an opener stands the reach from the place where the opener ends.
theorem reach_behind {opener text : Text} (filled : opener ≠ []) (opens : opener <+: text)
    (closers : List Text) (whole : Bool) (before : Option Char) :
    ((clauseEnds closers whole before text).drop opener.length).headD none =
      reach closers whole opener.getLast? (text.drop opener.length) := by
  obtain ⟨rest,rfl⟩ := opens
  obtain ⟨front,last,rfl⟩ := (List.eq_nil_or_concat opener).resolve_left filled
  have room : (front.concat last).length ≤
      (places (reach closers whole) before (front.concat last ++ rest)).length := by
    rw [places_length,List.length_append]
    omega
  rw [clauseEnds_places,List.drop_append_of_le_length room,places_drop,← clauseEnds_head,
    ← clauseEnds_places,List.drop_left]
  simp

-- The list of reaches is shorter than the list of openers, but what it leaves out has no room for
-- an opener.
theorem pair_places {opener : Text} (filled : opener ≠ []) (closers : List Text) (whole : Bool)
    (before : Option Char) (text : Text) :
    ∃ tail, places (pair opener closers whole).lengthAt before text =
      ((opens opener before text).zipWith
        (fun here reach => if here then reach.map (opener.length + ·) else none)
        ((clauseEnds closers whole before text).drop opener.length)) ++
        List.replicate tail none := by
  induction text generalizing before with
  | nil => exact ⟨0,rfl⟩
  | cons c rest ih =>
    obtain ⟨tail,same⟩ := ih (some c)
    have next : ((clauseEnds closers whole before (c :: rest)).drop opener.length).tail =
        (clauseEnds closers whole (some c) rest).drop opener.length := by
      rw [List.tail_drop]
      rfl
    have first := fun (begins : opener <+: c :: rest) => reach_behind filled begins closers whole before
    rw [places,same,opens]
    cases cut : (clauseEnds closers whole before (c :: rest)).drop opener.length with
    | nil =>
      have short : (c :: rest).length < opener.length := by
        have length := List.drop_eq_nil_iff.mp cut
        rw [clauseEnds_places,List.length_append,places_length,List.length_singleton] at length
        omega
      have closed : atWord opener before (c :: rest) ≠ true := fun here =>
        absurd (atWord_opens here).length_le (by omega)
      rw [cut,List.tail_nil] at next
      refine ⟨tail + 1,?_⟩
      rw [← next,lengthAt,if_neg closed,List.zipWith_nil_right,List.zipWith_nil_right]
      rfl
    | cons value below =>
      rw [cut,List.tail_cons] at next
      rw [cut,List.headD_cons] at first
      refine ⟨tail,?_⟩
      rw [next,List.zipWith_cons_cons,List.cons_append,lengthAt]
      by_cases here : atWord opener before (c :: rest) = true
      · rw [if_pos here,if_pos here,first (atWord_opens here)]
      · rw [if_neg here,if_neg here]

theorem lengths_places {phrase : Phrase} (formed : phrase.Formed) (text : Text) :
    ∃ tail, places phrase.lengthAt none text = phrase.lengths text ++ List.replicate tail none := by
  cases phrase with
  | word keyword =>
    refine ⟨0,?_⟩
    have each : ∀ before, places (word keyword).lengthAt before text =
        (opens keyword before text).map fun here => if here then some keyword.length else none := by
      induction text with
      | nil => exact fun _ => rfl
      | cons c rest ih => exact fun before => congrArg (_ :: ·) (ih (some c))
    rw [each,List.replicate_zero,List.append_nil]
    rfl
  | pair opener closers whole => exact pair_places formed.1.1 closers whole none text

theorem countApart_none (skip : Nat) (first : List (Option Nat)) (tail : Nat) :
    countApart skip (first ++ List.replicate tail none) = countApart skip first := by
  induction first generalizing skip with
  | nil =>
    induction tail generalizing skip with
    | zero => rfl
    | succ tail ih => cases skip with
      | zero => exact ih 0
      | succ skip => exact ih skip
  | cons here rest ih =>
    cases skip with
    | succ skip => exact ih skip
    | zero =>
      cases here with
      | none => exact ih 0
      | some length => exact congrArg (· + 1) (ih (length - 1))

-- What begins in a list of places ends in it.
def Fits : List (Option Nat) → Prop
  | [] => True
  | here :: rest => (∀ length, here = some length → length ≤ rest.length + 1) ∧ Fits rest

theorem countApart_append {first : List (Option Nat)} (fits : Fits first) {skip : Nat}
    (room : skip ≤ first.length) (second : List (Option Nat)) :
    countApart skip (first ++ second) = countApart skip first + countApart 0 second := by
  induction first generalizing skip with
  | nil =>
    have zero : skip = 0 := by simpa using room
    subst zero
    simp [countApart]
  | cons here rest ih =>
    rw [List.cons_append]
    cases skip with
    | succ skip => exact ih fits.2 (by simpa using room)
    | zero =>
      cases here with
      | none => exact ih fits.2 (Nat.zero_le _)
      | some length =>
        have inside := fits.1 length rfl
        rw [countApart,countApart,ih fits.2 (by omega)]
        omega

-- A text whose first line holds no word.
def Quiet (text : Text) : Prop := ∀ c ∈ text.takeWhile (· != '\n'), isWordChar c = false

theorem quiet_plain {text : Text} (plain : ∀ c ∈ text, isWordChar c = false) : Quiet text :=
  fun c member => plain c ((List.takeWhile_prefix _).subset member)

theorem quiet_cons {c : Char} {rest : Text} (quiet : Quiet (c :: rest)) :
    isWordChar c = false ∧ (endsClause c = true ∨ Quiet rest) := by
  by_cases feed : c = '\n'
  · subst feed
    exact ⟨by decide,.inl (by decide)⟩
  · have opening : (c :: rest).takeWhile (· != '\n') = c :: rest.takeWhile (· != '\n') :=
      List.takeWhile_cons_of_pos (by simpa using feed)
    unfold Quiet at quiet
    rw [opening] at quiet
    exact ⟨quiet c (by simp),.inr fun d member => quiet d (List.mem_cons_of_mem _ member)⟩

theorem quiet_head {rest : Text} (quiet : Quiet rest) : joins rest.head? = false := by
  cases rest with
  | nil => rfl
  | cons c rest => exact (quiet_cons quiet).1

theorem endsWord_other {word : Text} (formed : Word word) {c : Char} (other : isWordChar c = false)
    (rest : Text) : endsWord word (c :: rest) = false := by
  rw [← Bool.not_eq_true,endsWord_exact]
  intro ends
  obtain ⟨below,whole,_⟩ := ends
  obtain ⟨first,letters,rfl⟩ := List.exists_cons_of_ne_nil formed.1
  obtain ⟨rfl,_⟩ := List.cons.inj whole
  rw [formed.2 c (by simp)] at other
  cases other

theorem endsWord_apart {word rest : Text} (formed : Word word) (apart : joins rest.head? = false)
    (text : Text) : endsWord word (text ++ rest) = endsWord word text := by
  rw [Bool.eq_iff_iff,endsWord_exact,endsWord_exact]
  constructor
  · intro ends
    obtain ⟨below,whole,free⟩ := ends
    rcases List.append_eq_append_iff.mp whole with ⟨part,same,tail⟩ | ⟨part,same,tail⟩
    · cases part with
      | nil => exact ⟨[],by simpa using same.symm,rfl⟩
      | cons c part =>
        subst tail
        have letter := formed.2 c (by simp [same])
        have other : isWordChar c = false := apart
        rw [other] at letter
        cases letter
    · subst tail
      refine ⟨part,same,?_⟩
      cases part with
      | nil => rfl
      | cons c part => exact free
  · intro ends
    obtain ⟨below,rfl,free⟩ := ends
    refine ⟨below ++ rest,by simp,?_⟩
    cases below with
    | nil => exact apart
    | cons c below => exact free

theorem atWord_apart {word rest : Text} (formed : Word word) (apart : joins rest.head? = false)
    (before : Option Char) (text : Text) : atWord word before (text ++ rest) = atWord word before text := by
  rw [atWord,endsWord_apart formed apart,atWord]

theorem closer?_apart {closers : List Text} (formed : ∀ closer ∈ closers, Word closer) {rest : Text}
    (apart : joins rest.head? = false) (whole : Bool) (before : Option Char) (text : Text) :
    closer? closers whole before (text ++ rest) = closer? closers whole before text := by
  induction closers with
  | nil => rfl
  | cons closer closers ih =>
    have below := ih fun other member => formed other (by simp [member])
    unfold closer? at below ⊢
    rw [List.find?_cons,List.find?_cons,endsWord_apart (formed closer (by simp)) apart,below]

theorem closer?_other {closers : List Text} (formed : ∀ closer ∈ closers, Word closer) {c : Char}
    (other : isWordChar c = false) (whole : Bool) (before : Option Char) (rest : Text) :
    closer? closers whole before (c :: rest) = none := by
  unfold closer?
  rw [List.find?_eq_none]
  intro closer member
  simp [endsWord_other (formed closer member) other]

theorem reach_none {closers : List Text} (formed : ∀ closer ∈ closers, Word closer) {rest : Text}
    (quiet : Quiet rest) (whole : Bool) (before : Option Char) :
    reach closers whole before rest = none := by
  induction rest generalizing before with
  | nil => rfl
  | cons c rest ih =>
    obtain ⟨other,ends⟩ := quiet_cons quiet
    have later : (if endsClause c then none else reach closers whole (some c) rest) = none := by
      rcases ends with stop | below
      · rw [if_pos stop]
      · rw [ih below,ite_self]
    rw [reach,later,closer?_other formed other]
    rfl

theorem endsClause_other {c : Char} (ends : endsClause c = true) : isWordChar c = false := by
  rw [endsClause,Bool.or_eq_true,beq_iff_eq,beq_iff_eq] at ends
  rcases ends with rfl | rfl
  · decide
  · decide

theorem reach_ends {closers : List Text} (formed : ∀ closer ∈ closers, Word closer) {c : Char}
    (ends : endsClause c = true) (whole : Bool) (before : Option Char) (rest : Text) :
    reach closers whole before (c :: rest) = none := by
  rw [reach,if_pos ends,closer?_other formed (endsClause_other ends)]
  rfl

-- No occurrence of the phrase that begins in front of this text ends in it.
def Barred : Phrase → Text → Prop
  | word _, rest => joins rest.head? = false
  | pair _ closers whole, rest =>
    joins rest.head? = false ∧ ∀ before, reach closers whole before rest = none

theorem Barred.apart {phrase : Phrase} {rest : Text} (barred : phrase.Barred rest) :
    joins rest.head? = false := by
  cases phrase with
  | word keyword => exact barred
  | pair opener closers whole => exact barred.1

theorem quiet_barred {phrase : Phrase} (formed : phrase.Formed) {rest : Text} (quiet : Quiet rest) :
    phrase.Barred rest := by
  cases phrase with
  | word keyword => exact quiet_head quiet
  | pair opener closers whole => exact ⟨quiet_head quiet,reach_none formed.2 quiet whole⟩

theorem clause_barred {phrase : Phrase} (formed : phrase.Formed) {c : Char} (ends : endsClause c = true)
    (rest : Text) : phrase.Barred (c :: rest) := by
  have other : joins (c :: rest).head? = false := endsClause_other ends
  cases phrase with
  | word keyword => exact other
  | pair opener closers whole => exact ⟨other,fun before => reach_ends formed.2 ends whole before rest⟩

theorem reach_barred {closers : List Text} (formed : ∀ closer ∈ closers, Word closer) {whole : Bool}
    {rest : Text} (apart : joins rest.head? = false) (silent : ∀ before, reach closers whole before rest = none)
    (before : Option Char) (text : Text) :
    reach closers whole before (text ++ rest) = reach closers whole before text := by
  induction text generalizing before with
  | nil => exact silent before
  | cons c text ih =>
    have here := closer?_apart formed apart whole before (c :: text)
    rw [List.cons_append] at here
    rw [List.cons_append,reach,ih,here,reach]

theorem lengthAt_barred {phrase : Phrase} (formed : phrase.Formed) {rest : Text} (barred : phrase.Barred rest)
    (before : Option Char) (text : Text) :
    phrase.lengthAt before (text ++ rest) = phrase.lengthAt before text := by
  cases phrase with
  | word keyword => simp only [lengthAt,atWord_apart formed barred]
  | pair opener closers whole =>
    obtain ⟨apart,silent⟩ := barred
    simp only [lengthAt,atWord_apart formed.1 apart]
    split
    · rename_i here
      rw [List.drop_append_of_le_length (atWord_opens here).length_le,reach_barred formed.2 apart silent]
    · rfl

theorem places_append {read : Option Char → Text → α} {rest : Text}
    (stable : ∀ before text, read before (text ++ rest) = read before text) (before : Option Char)
    (text : Text) : places read before (text ++ rest) =
      places read before text ++ places read (text.getLast?.or before) rest := by
  induction text generalizing before with
  | nil => rfl
  | cons c text ih =>
    have here := stable before (c :: text)
    rw [List.cons_append] at here
    rw [List.cons_append,places,here,ih,places,List.cons_append,last_front]

theorem endsWord_room {word text : Text} (ends : endsWord word text = true) : word.length ≤ text.length := by
  obtain ⟨rest,rfl,_⟩ := (endsWord_exact _ _).mp ends
  simp

theorem reach_room {closers : List Text} {whole : Bool} {before : Option Char} {text : Text}
    {length : Nat} (found : reach closers whole before text = some length) : length ≤ text.length := by
  induction text generalizing before length with
  | nil => cases found
  | cons c text ih =>
    rw [reach] at found
    split at found
    · rename_i later inside
      cases Option.some.inj found
      split at inside
      · cases inside
      · exact Nat.succ_le_succ (ih inside)
    · obtain ⟨closer,here,rfl⟩ := Option.map_eq_some_iff.mp found
      have ends := List.find?_some here
      exact endsWord_room (Bool.and_eq_true_iff.mp ends).2

theorem lengthAt_room {phrase : Phrase} {before : Option Char} {text : Text} {length : Nat}
    (found : phrase.lengthAt before text = some length) : length ≤ text.length := by
  cases phrase with
  | word keyword =>
    rw [lengthAt] at found
    split at found
    · rename_i here
      cases Option.some.inj found
      exact (atWord_opens here).length_le
    · cases found
  | pair opener closers whole =>
    rw [lengthAt] at found
    split at found
    · rename_i here
      obtain ⟨inner,below,rfl⟩ := Option.map_eq_some_iff.mp found
      have room := reach_room below
      have opens := (atWord_opens here).length_le
      rw [List.length_drop] at room
      omega
    · cases found

theorem places_fits (phrase : Phrase) (before : Option Char) (text : Text) :
    Fits (places phrase.lengthAt before text) := by
  induction text generalizing before with
  | nil => trivial
  | cons c text ih =>
    refine ⟨?_,ih _⟩
    intro length found
    rw [places_length]
    exact lengthAt_room found

theorem count_places {phrase : Phrase} (formed : phrase.Formed) (text : Text) :
    phrase.count text = countApart 0 (places phrase.lengthAt none text) := by
  obtain ⟨tail,same⟩ := lengths_places formed text
  rw [same,countApart_none,count]

-- The character in front matters only where it joins a word.
theorem lengthAt_free {phrase : Phrase} {before : Option Char} (free : joins before = false) (text : Text) :
    phrase.lengthAt before text = phrase.lengthAt none text := by
  have same : ∀ word, atWord word before text = atWord word none text := by
    intro word
    rw [atWord,free]
    rfl
  cases phrase with
  | word keyword => rw [lengthAt,same,lengthAt]
  | pair opener closers whole => rw [lengthAt,same,lengthAt]

theorem places_free {phrase : Phrase} {before : Option Char} (free : joins before = false) (text : Text) :
    places phrase.lengthAt before text = places phrase.lengthAt none text := by
  cases text with
  | nil => rfl
  | cons c text => rw [places,lengthAt_free free,places]

theorem lengthAt_other {phrase : Phrase} (formed : phrase.Formed) {c : Char}
    (other : isWordChar c = false) (before : Option Char) (text : Text) :
    phrase.lengthAt before (c :: text) = none := by
  have closed : ∀ word, Word word → atWord word before (c :: text) = false := by
    intro word letters
    rw [atWord,endsWord_other letters other,Bool.and_false]
  cases phrase with
  | word keyword => simp [lengthAt,closed keyword formed]
  | pair opener closers whole => simp [lengthAt,closed opener formed.1]

-- No phrase begins in front of a word or goes beyond what is quiet.
theorem count_cons {phrase : Phrase} (formed : phrase.Formed) {c : Char}
    (other : isWordChar c = false) (text : Text) : phrase.count (c :: text) = phrase.count text := by
  have free : joins (some c) = false := other
  rw [count_places formed,count_places formed,places,lengthAt_other formed other,places_free free]
  rfl

theorem count_before {phrase : Phrase} (formed : phrase.Formed) {before : Text}
    (other : ∀ c ∈ before, isWordChar c = false) (text : Text) :
    phrase.count (before ++ text) = phrase.count text := by
  induction before with
  | nil => rfl
  | cons c before ih =>
    rw [List.cons_append,count_cons formed (other c (by simp))]
    exact ih fun d member => other d (by simp [member])

-- In front of a text that begins no word, it does not matter what stands there.
theorem places_apart {phrase : Phrase} (formed : phrase.Formed) {rest : Text}
    (apart : joins rest.head? = false) (before : Option Char) :
    places phrase.lengthAt before rest = places phrase.lengthAt none rest := by
  cases rest with
  | nil => rfl
  | cons c rest =>
    have other : isWordChar c = false := apart
    rw [places,lengthAt_other formed other,places,lengthAt_other formed other]

theorem count_barred {phrase : Phrase} (formed : phrase.Formed) {rest : Text} (barred : phrase.Barred rest)
    (text : Text) : phrase.count (text ++ rest) = phrase.count text + phrase.count rest := by
  rw [count_places formed,count_places formed,count_places formed,
    places_append (lengthAt_barred formed barred),places_apart formed barred.apart,
    countApart_append (places_fits phrase none text) (Nat.zero_le _)]

-- Clauses are counted by themselves.
theorem count_clause {phrase : Phrase} (formed : phrase.Formed) {c : Char} (ends : endsClause c = true)
    (front rest : Text) : phrase.count (front ++ c :: rest) = phrase.count front + phrase.count rest := by
  rw [count_barred formed (clause_barred formed ends rest),count_cons formed (endsClause_other ends)]

theorem count_line {phrase : Phrase} (formed : phrase.Formed) (line rest : Text) :
    phrase.count (line ++ '\n' :: rest) = phrase.count line + phrase.count rest :=
  count_clause formed rfl line rest

theorem count_after {phrase : Phrase} (formed : phrase.Formed) {after : Text}
    (other : ∀ c ∈ after, isWordChar c = false) (text : Text) :
    phrase.count (text ++ after) = phrase.count text := by
  have nothing := count_before formed other []
  rw [List.append_nil] at nothing
  rw [count_barred formed (quiet_barred formed (quiet_plain other)),nothing]
  cases phrase <;> rfl

end Phrase
end SpecLint
