import SpecLint.Proofs.Rules.Words

namespace SpecLint
open Text

-- The clauses of a text. Commas and line feeds end them.
def clauses (text : Text) : List Text := text.splitOnP Phrase.endsClause

-- Whether a word that closes stands somewhere behind one that opens.
def followed (opener : Text) (closes : Text → Bool) : (words : List Text) → Bool
  | [] => false
  | word :: rest => (word == opener && rest.any closes) || followed opener closes rest

theorem followed_exact (opener : Text) (closes : Text → Bool) (words : List Text) :
    followed opener closes words = true ↔ ∃ above between closer below,
      words = above ++ opener :: (between ++ closer :: below) ∧ closes closer = true := by
  induction words with
  | nil => simp [followed]
  | cons word rest ih =>
    rw [followed,Bool.or_eq_true,Bool.and_eq_true,beq_iff_eq,List.any_eq_true,ih]
    constructor
    · intro found
      rcases found with ⟨rfl,closer,member,closing⟩ | ⟨above,between,closer,below,rfl,closing⟩
      · obtain ⟨between,below,rfl⟩ := List.mem_iff_append.mp member
        exact ⟨[],between,closer,below,rfl,closing⟩
      · exact ⟨word :: above,between,closer,below,rfl,closing⟩
    · intro found
      obtain ⟨above,between,closer,below,same,closing⟩ := found
      cases above with
      | nil =>
        obtain ⟨rfl,rfl⟩ := List.cons.inj same
        exact .inl ⟨rfl,closer,by simp,closing⟩
      | cons first above =>
        obtain ⟨rfl,rfl⟩ := List.cons.inj same
        exact .inr ⟨above,between,closer,below,rfl,closing⟩

-- A text is one clause, or a clause above another text.
theorem clauses_induction {motive : Text → Prop}
    (last : ∀ clause, (∀ c ∈ clause, Phrase.endsClause c = false) → motive clause)
    (above : ∀ clause c rest, (∀ c ∈ clause, Phrase.endsClause c = false) → Phrase.endsClause c = true →
      motive rest → motive (clause ++ c :: rest)) (text : Text) : motive text := by
  suffices more : ∀ clause, (∀ c ∈ clause, Phrase.endsClause c = false) → motive (clause ++ text) from
    more [] (List.forall_mem_nil _)
  induction text with
  | nil =>
    intro clause inside
    rw [List.append_nil]
    exact last clause inside
  | cons c text ih =>
    intro clause inside
    cases ends : Phrase.endsClause c with
    | true => exact above clause c text inside ends (ih [] (List.forall_mem_nil _))
    | false =>
      have longer := ih (clause ++ [c]) (by simpa [or_imp,forall_and,ends] using inside)
      rwa [List.append_assoc,List.singleton_append] at longer

theorem clauses_last {clause : Text} (inside : ∀ c ∈ clause, Phrase.endsClause c = false) :
    clauses clause = [clause] :=
  List.splitOnP_eq_singleton inside

theorem clauses_above {clause : Text} (inside : ∀ c ∈ clause, Phrase.endsClause c = false) {c : Char}
    (ends : Phrase.endsClause c = true) (rest : Text) : clauses (clause ++ c :: rest) = clause :: clauses rest := by
  rw [clauses,List.splitOnP_append_cons clause rest ends,← clauses,clauses_last inside]
  rfl

namespace Phrase

-- The words that close an opened phrase, as they stand in a text.
def closes (closers : List Text) (whole : Bool) (word : Text) : Bool :=
  if whole then closers.contains word else closers.any (·.isSuffixOf word)

theorem closes_whole (closer : Text) : closes [closer] true = (· == closer) := by
  funext word
  rw [closes,if_pos rfl,List.contains_cons,List.contains_nil,Bool.or_false]

theorem closes_part (first second : Text) :
    closes [first, second] false = fun word => first.isSuffixOf word || second.isSuffixOf word := by
  funext word
  rw [closes,if_neg Bool.false_ne_true,List.any_cons,List.any_cons,List.any_nil,Bool.or_false]

section
variable {opener : Text} {closers : List Text} {whole : Bool}

-- What is reached from a place of a clause is reached from every place in front of it.
theorem reach_front (formed : ∀ closer ∈ closers, Word closer) {front rest : Text}
    (inside : ∀ c ∈ front, endsClause c = false) {before : Option Char}
    (found : (reach closers whole (front.getLast?.or before) rest).isSome = true) :
    (reach closers whole before (front ++ rest)).isSome = true := by
  obtain ⟨middle,closer,after,member,rfl,within,apart,free⟩ := (reach_some formed whole _ _).mp found
  refine (reach_some formed whole _ _).mpr ⟨front ++ middle,closer,after,member,by simp,?_,?_,free⟩
  · intro c place
    rcases List.mem_append.mp place with first | second
    · exact inside c first
    · exact within c second
  · intro both
    rw [List.getLast?_append,Option.or_assoc]
    exact apart both

-- The last closing word of a clause is the one that is reached.
theorem reach_last (formed : ∀ closer ∈ closers, Word closer) {text : Text}
    (inside : ∀ c ∈ text, endsClause c = false) {before : Option Char} {length : Nat}
    (found : reach closers whole before text = some length) :
    reach closers whole ((text.take length).getLast?.or before) (text.drop length) = none := by
  induction text generalizing before length with
  | nil => cases found
  | cons c text ih =>
    have below : ∀ d ∈ text, endsClause d = false := fun d member => inside d (List.mem_cons_of_mem _ member)
    have open_ : endsClause c = false := inside c List.mem_cons_self
    rw [reach,open_,if_neg Bool.false_ne_true] at found
    split at found
    · rename_i inner later
      cases Option.some.inj found
      rw [List.take_succ_cons,List.drop_succ_cons,last_front]
      exact ih below later
    · rename_i nothing
      obtain ⟨closer,here,rfl⟩ := Option.map_eq_some_iff.mp found
      obtain ⟨d,word,rfl⟩ := List.exists_cons_of_ne_nil (formed closer (List.mem_of_find?_eq_some here)).1
      rw [List.length_cons,List.take_succ_cons,List.drop_succ_cons,last_front]
      by_contra later
      have reached := reach_front formed (fun e member => below e (List.mem_of_mem_take member))
        (Option.isSome_iff_ne_none.mpr later)
      rw [List.take_append_drop,nothing] at reached
      cases reached

theorem lengthAt_last (formed : (pair opener closers whole).Formed) {text : Text}
    (inside : ∀ c ∈ text, endsClause c = false) {before : Option Char} {length : Nat}
    (found : (pair opener closers whole).lengthAt before text = some length) :
    0 < length ∧ ∃ last, reach closers whole last (text.drop length) = none := by
  rw [lengthAt] at found
  split at found
  · obtain ⟨inner,reached,rfl⟩ := Option.map_eq_some_iff.mp found
    have some := List.length_pos_iff.mpr formed.1.1
    have silent := reach_last formed.2 (fun c member => inside c (List.mem_of_mem_drop member)) reached
    rw [List.drop_drop] at silent
    exact ⟨Nat.add_pos_left some inner,_,silent⟩
  · cases found

-- Where no closing word is left, no phrase begins.
theorem silent_places (formed : (pair opener closers whole).Formed) {text : Text}
    (inside : ∀ c ∈ text, endsClause c = false) {last : Option Char}
    (silent : reach closers whole last text = none) (before : Option Char) :
    countApart 0 (places (pair opener closers whole).lengthAt before text) = 0 := by
  refine Nat.eq_zero_of_not_pos ?_
  rw [countApart_pos]
  rintro ⟨place,member,found⟩
  obtain ⟨front,c,rest,rfl,rfl⟩ := mem_places.mp member
  obtain ⟨_,behind,same,_,closing⟩ := (lengthAt_some formed _ _).mp found
  rw [same,← List.append_assoc] at inside silent
  have reached : (reach closers whole ((front ++ opener).getLast?.or last) behind).isSome = true := by
    refine (reach_some formed.2 whole _ _).mpr ?_
    obtain ⟨middle,closer,after,listed,below,within,apart,free⟩ := closing
    refine ⟨middle,closer,after,listed,below,within,fun both => ?_,free⟩
    obtain ⟨letters,letter,rfl⟩ := (List.eq_nil_or_concat opener).resolve_left formed.1.1
    have ends := apart both
    simp only [List.concat_eq_append,List.getLast?_append,List.getLast?_singleton,Option.some_or] at ends ⊢
    exact ends
  have whole := reach_front formed.2 (fun d member => inside d (List.mem_append_left _ member)) reached
  rw [silent] at whole
  cases whole

theorem countApart_drop (skip : Nat) (places : List (Option Nat)) :
    countApart skip places = countApart 0 (places.drop skip) := by
  induction places generalizing skip with
  | nil => cases skip <;> rfl
  | cons here rest ih =>
    cases skip with
    | zero => rfl
    | succ skip => exact ih skip

-- Behind one occurrence in a clause there is no other one.
theorem count_clause_le (formed : (pair opener closers whole).Formed) {text : Text}
    (inside : ∀ c ∈ text, endsClause c = false) : (pair opener closers whole).count text ≤ 1 := by
  rw [count_places formed]
  generalize (none : Option Char) = before
  induction text generalizing before with
  | nil => exact Nat.zero_le 1
  | cons c text ih =>
    have below : ∀ d ∈ text, endsClause d = false := fun d member => inside d (List.mem_cons_of_mem _ member)
    rw [places]
    cases here : (pair opener closers whole).lengthAt before (c :: text) with
    | none => exact ih below (some c)
    | some length =>
      obtain ⟨room,last,silent⟩ := lengthAt_last formed inside here
      obtain ⟨skip,rfl⟩ := Nat.exists_eq_add_of_lt room
      have fits : skip ≤ text.length := by
        have length := lengthAt_room here
        rw [List.length_cons] at length
        omega
      rw [Nat.zero_add,List.drop_succ_cons] at silent
      have behind : (places (pair opener closers whole).lengthAt (some c) text).drop skip =
          places (pair opener closers whole).lengthAt ((text.take skip).getLast?.or (some c)) (text.drop skip) := by
        conv => lhs; rw [← List.take_append_drop skip text]
        conv => lhs; arg 1; rw [← List.length_take_of_le fits]
        exact places_drop _ _ _ _
      have nothing := silent_places formed (fun d member => below d (List.mem_of_mem_drop member)) silent
        ((text.take skip).getLast?.or (some c))
      rw [countApart,Nat.zero_add,Nat.add_sub_cancel,countApart_drop,behind,nothing]

-- What stands in front of a closing word may belong to the same word.
theorem words_behind {closer : Text} (formed : Word closer) {after : Text} (free : joins after.head? = false)
    (middle : Text) :
    ∃ between run below, words (middle ++ (closer ++ after)) = between ++ (run ++ closer) :: below := by
  induction middle using words_induction with
  | nil => exact ⟨[],[],words after,words_word formed free⟩
  | other c rest different ih =>
    obtain ⟨between,run,below,same⟩ := ih
    exact ⟨between,run,below,by rw [List.cons_append,words_cons different,same]⟩
  | word front rest frontFormed apart ih =>
    cases rest with
    | nil =>
      have joined : Word (front ++ closer) := by
        refine ⟨by simp [formed.1],fun c member => ?_⟩
        rcases List.mem_append.mp member with first | second
        · exact frontFormed.2 c first
        · exact formed.2 c second
      refine ⟨[],front,words after,?_⟩
      rw [List.append_nil,← List.append_assoc,words_word joined free]
      rfl
    | cons c rest =>
      obtain ⟨between,run,below,same⟩ := ih
      have stop : joins (c :: rest ++ (closer ++ after)).head? = false := apart
      refine ⟨front :: between,run,below,?_⟩
      rw [List.append_assoc,words_word frontFormed stop,same]
      rfl

theorem occurs_words (formed : (pair opener closers whole).Formed) {text : Text}
    (occurs : (pair opener closers whole).Occurs text) :
    followed opener (closes closers whole) (words text) = true := by
  obtain ⟨front,_,rfl,free,behind,rfl,stop,middle,closer,after,member,rfl,_,apart,ends⟩ := occurs
  have closerFormed := formed.2 closer member
  rw [followed_exact,words_front free,words_word formed.1 stop,List.append_assoc]
  cases whole with
  | true =>
    have last := apart rfl
    have between : joins middle.getLast? = false := by
      cases middle with
      | nil => rfl
      | cons c middle => rwa [List.getLast?_append_cons] at last
    rw [words_front between,words_word closerFormed ends]
    exact ⟨words front,words middle,closer,words after,rfl,by simp [closes,member]⟩
  | false =>
    obtain ⟨between,run,below,same⟩ := words_behind closerFormed ends middle
    rw [same]
    refine ⟨words front,between,run ++ closer,below,rfl,?_⟩
    simp only [closes,Bool.false_eq_true,if_false,List.any_eq_true,List.isSuffixOf_iff_suffix]
    exact ⟨closer,member,run,rfl⟩

theorem words_occurs {text : Text} (inside : ∀ c ∈ text, endsClause c = false)
    (found : followed opener (closes closers whole) (words text) = true) :
    (pair opener closers whole).Occurs text := by
  obtain ⟨above,between,word,below,cut,closing⟩ := (followed_exact _ _ _).mp found
  obtain ⟨front,rest,rfl,free,stop,behind⟩ := words_cut cut
  have formed : Word word := words_formed (show word ∈ words rest by simp [behind])
  obtain ⟨middle,after,rfl,last,ends,_⟩ := words_cut behind
  have within : ∀ c ∈ middle ++ word, endsClause c = false := by
    intro c member
    refine inside c (List.mem_append_right _ (List.mem_append_right _ ?_))
    rw [← List.append_assoc]
    exact List.mem_append_left _ member
  cases whole with
  | true =>
    have listed : word ∈ closers := by simpa [closes] using closing
    refine ⟨front,_,rfl,free,_,rfl,stop,middle,word,after,listed,by rw [List.append_assoc],?_,?_,ends⟩
    · exact fun c member => within c (List.mem_append_left _ member)
    · intro _
      rwa [List.getLast?_append_of_ne_nil _ (word_behind formed stop)]
  | false =>
    simp only [closes,Bool.false_eq_true,if_false,List.any_eq_true,List.isSuffixOf_iff_suffix] at closing
    obtain ⟨closer,listed,run,rfl⟩ := closing
    refine ⟨front,_,rfl,free,_,rfl,stop,middle ++ run,closer,after,listed,by simp,?_,?_,ends⟩
    · refine fun c member => within c ?_
      rw [← List.append_assoc]
      exact List.mem_append_left _ member
    · exact fun never => absurd never Bool.false_ne_true

-- An occurrence in a clause, told by the words of the clause.
theorem occurs_followed (formed : (pair opener closers whole).Formed) {text : Text}
    (inside : ∀ c ∈ text, endsClause c = false) : (pair opener closers whole).Occurs text ↔
      followed opener (closes closers whole) (words text) = true :=
  ⟨occurs_words formed,words_occurs inside⟩

theorem count_followed (formed : (pair opener closers whole).Formed) {text : Text}
    (inside : ∀ c ∈ text, endsClause c = false) : (pair opener closers whole).count text =
      if followed opener (closes closers whole) (words text) then 1 else 0 := by
  have most := count_clause_le formed inside
  have found := (count_pos formed text).trans (occurs_followed formed inside)
  split
  · rename_i here
    have some := found.mpr here
    omega
  · rename_i here
    have none := mt found.mp here
    omega

theorem count_clauses (formed : (pair opener closers whole).Formed) (text : Text) :
    (pair opener closers whole).count text =
      (clauses text).countP fun clause => followed opener (closes closers whole) (words clause) := by
  induction text using clauses_induction with
  | last clause inside =>
    rw [count_followed formed inside,clauses_last inside,List.countP_singleton]
  | above clause c rest inside ends ih =>
    rw [count_clause formed ends,count_followed formed inside,clauses_above inside ends,List.countP_cons,ih,
      Nat.add_comm]

end
end Phrase

-- The branches of a text, told by its clauses and words. A clause counts where an `if` is followed by an
-- `or`, where it is followed by a word that ends in `otherwise` or `else`, and where an `either` is
-- followed by an `or`; the keywords count wherever they stand.
theorem branchCount_clauses (rules : Text) :
    let content := lowercase rules
    let within (opener : String) (closes : Text → Bool) :=
      (clauses content).countP fun clause => followed opener.toList closes (words clause)
    let all (keyword : String) := (words content).count keyword.toList
    let ifOr := within "if" (· == "or".toList)
    let ifElse := within "if" fun word => "otherwise".toList.isSuffixOf word || "else".toList.isSuffixOf word
    let eitherOr := within "either" (· == "or".toList)
    let counted := 2 * ifOr + 2 * ifElse + (all "if" - ifOr - ifElse) + all "when" + 2 * all "optionally" +
      2 * eitherOr
    branchCount rules =
      if counted ≠ 0 then counted else if rules.all isBlank then 0 else 1 := by
  intro content within all ifOr ifElse eitherOr counted
  obtain ⟨orFormed,elseFormed,ifFormed,whenFormed,optionallyFormed,eitherFormed⟩ := keywords_formed
  have first : Phrase.ifOr.count content = ifOr := by
    rw [Phrase.ifOr,Phrase.count_clauses orFormed,Phrase.closes_whole]
  have second : Phrase.ifElse.count content = ifElse := by
    rw [Phrase.ifElse,Phrase.count_clauses elseFormed,Phrase.closes_part]
  have third : Phrase.eitherOr.count content = eitherOr := by
    rw [Phrase.eitherOr,Phrase.count_clauses eitherFormed,Phrase.closes_whole]
  have keyword : ∀ word : String, Phrase.Word word.toList →
      (Phrase.word word.toList).count content = all word :=
    fun word formed => Phrase.count_words formed content
  have total : keywordBranches content = counted := by
    unfold keywordBranches
    rw [first,second,third,Phrase.ifWord,keyword "if" ifFormed,Phrase.whenWord,keyword "when" whenFormed,
      Phrase.optionally,keyword "optionally" optionallyFormed]
    dsimp only [counted]
    rw [Nat.mul_add,Nat.sub_sub]
  have blank : trim rules = [] ↔ rules.all isBlank = true := trim_eq_nil.trans List.all_eq_true.symm
  rw [branchCount,total]
  by_cases none : counted = 0
  · by_cases silent : rules.all isBlank = true
    · rw [if_neg (not_not.mpr none),if_pos silent,if_neg (fun some => some.2 (blank.mpr silent)),none]
    · rw [if_neg (not_not.mpr none),if_neg silent,if_pos ⟨none,mt blank.mp silent⟩]
  · rw [if_pos none,if_neg (fun some => none some.1)]

end SpecLint
