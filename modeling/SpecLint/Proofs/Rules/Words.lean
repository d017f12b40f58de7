import SpecLint.Proofs.Rules.Branches

namespace SpecLint
open Text

-- The words of a text: its longest runs of word characters, in order.
def words (text : Text) : List Text := (text.splitOnP fun c => !isWordChar c).filter (!·.isEmpty)

namespace Phrase

theorem words_nil : words [] = [] := by
  rw [words,List.splitOnP_nil]
  rfl

-- Any other character ends a word, and nothing is read across it.
theorem words_break {c : Char} (other : isWordChar c = false) (front rest : Text) :
    words (front ++ c :: rest) = words front ++ words rest := by
  rw [words,List.splitOnP_append_cons front rest (by simp [other]),List.filter_append]
  rfl

theorem words_cons {c : Char} (other : isWordChar c = false) (text : Text) : words (c :: text) = words text := by
  have cut := words_break other [] text
  rwa [words_nil] at cut

theorem word_joins {word : Text} (formed : Word word) (rest : Text) : joins (word ++ rest).head? = true := by
  obtain ⟨c,text,rfl⟩ := List.exists_cons_of_ne_nil formed.1
  exact formed.2 c List.mem_cons_self

-- Two words cannot stand side by side.
theorem word_behind {word middle rest : Text} (formed : Word word)
    (stop : joins (middle ++ (word ++ rest)).head? = false) : middle ≠ [] := by
  rintro rfl
  have joined : joins (word ++ rest).head? = false := stop
  rw [word_joins formed rest] at joined
  cases joined

theorem words_single {word : Text} (formed : Word word) : words word = [word] := by
  rw [words,List.splitOnP_eq_singleton fun c member => by simp [formed.2 c member]]
  simp [formed.1]

theorem words_word {word : Text} (formed : Word word) {rest : Text} (apart : joins rest.head? = false) :
    words (word ++ rest) = word :: words rest := by
  cases rest with
  | nil => rw [List.append_nil,words_single formed,words_nil]
  | cons c rest =>
    have other : isWordChar c = false := apart
    rw [words_break other,words_single formed,words_cons other,List.singleton_append]

theorem words_front {front : Text} (apart : joins front.getLast? = false) (rest : Text) :
    words (front ++ rest) = words front ++ words rest := by
  rcases List.eq_nil_or_concat front with rfl | ⟨before,c,rfl⟩
  · rw [words_nil]
    rfl
  · rw [List.concat_eq_append,List.getLast?_concat] at apart
    have other : isWordChar c = false := apart
    rw [List.concat_eq_append,List.append_assoc,List.singleton_append,words_break other,
      words_break other,words_nil,List.append_nil]

-- A text is read word by word.
theorem words_induction {motive : Text → Prop} (nil : motive [])
    (other : ∀ c rest, isWordChar c = false → motive rest → motive (c :: rest))
    (word : ∀ front rest, Word front → joins rest.head? = false → motive rest → motive (front ++ rest))
    (text : Text) : motive text := by
  induction size : text.length using Nat.strong_induction_on generalizing text with
  | _ size ih =>
    subst size
    cases text with
    | nil => exact nil
    | cons c text =>
      cases letter : isWordChar c with
      | false => exact other c text letter (ih _ (Nat.lt_succ_self _) text rfl)
      | true =>
        have front : (c :: text).takeWhile isWordChar ≠ [] := by simp [letter]
        have stop : joins ((c :: text).dropWhile isWordChar).head? = false := by
          have first := List.head?_dropWhile_not isWordChar (c :: text)
          cases rest : (c :: text).dropWhile isWordChar with
          | nil => rfl
          | cons d rest =>
            have other : isWordChar d = false := by simpa [rest] using first
            exact other
        have shorter : ((c :: text).dropWhile isWordChar).length < (c :: text).length := by
          rw [List.dropWhile_cons_of_pos letter]
          exact Nat.lt_succ_of_le (List.length_dropWhile_le _ _)
        have whole := word _ _ ⟨front,fun d member => List.mem_takeWhile_imp member⟩ stop (ih _ shorter _ rfl)
        rwa [List.takeWhile_append_dropWhile] at whole

theorem words_formed {text word : Text} (member : word ∈ words text) : Word word := by
  induction text using words_induction with
  | nil =>
    rw [words_nil] at member
    cases member
  | other c rest different ih =>
    rw [words_cons different] at member
    exact ih member
  | word front rest formed apart ih =>
    rw [words_word formed apart] at member
    rcases List.mem_cons.mp member with rfl | below
    · exact formed
    · exact ih below

-- Where a word of a text stands.
theorem words_cut {text word : Text} {above below : List Text} (cut : words text = above ++ word :: below) :
    ∃ front rest, text = front ++ (word ++ rest) ∧ joins front.getLast? = false ∧
      joins rest.head? = false ∧ words rest = below := by
  have formed : Word word := words_formed (show word ∈ words text by simp [cut])
  induction text using words_induction generalizing above with
  | nil =>
    rw [words_nil] at cut
    simp at cut
  | other c rest different ih =>
    rw [words_cons different] at cut
    obtain ⟨front,rest,rfl,free,apart,same⟩ := ih cut
    refine ⟨c :: front,rest,rfl,?_,apart,same⟩
    rw [List.getLast?_cons]
    cases last : front.getLast? with
    | none => exact different
    | some d =>
      rw [last] at free
      exact free
  | word first rest firstFormed stop ih =>
    rw [words_word firstFormed stop] at cut
    cases above with
    | nil =>
      obtain ⟨rfl,same⟩ := List.cons.inj cut
      exact ⟨[],rest,rfl,rfl,stop,same⟩
    | cons other above =>
      obtain ⟨rfl,same⟩ := List.cons.inj cut
      obtain ⟨front,rest,rfl,free,apart,last⟩ := ih same
      refine ⟨first ++ front,rest,by rw [List.append_assoc],?_,apart,last⟩
      rwa [List.getLast?_append_of_ne_nil _ (word_behind formed stop)]

theorem starts_inside {keyword front : Text} (letters : ∀ c ∈ front, isWordChar c = true) {c : Char}
    (letter : isWordChar c = true) : (word keyword).starts (some c) front = 0 := by
  have inside := word_inside letters keyword letter []
  rw [List.append_nil,← places_length (word keyword).lengthAt (some c) front,List.take_length] at inside
  rw [starts,List.countP_eq_zero]
  intro place member
  simp [inside place member]

theorem count_single {keyword : Text} (formed : Word keyword) {front : Text} (frontFormed : Word front) :
    (word keyword).count front = if front = keyword then 1 else 0 := by
  obtain ⟨c,text,rfl⟩ := List.exists_cons_of_ne_nil frontFormed.1
  have single : (word keyword).Formed := formed
  have inside : (word keyword).starts (some c) text = 0 :=
    starts_inside (fun d member => frontFormed.2 d (List.mem_cons_of_mem _ member))
      (frontFormed.2 c List.mem_cons_self)
  rw [count_word formed]
  split
  · rename_i same
    rw [starts_begins single ⟨rfl,[],by rw [same,List.append_nil],rfl⟩,inside]
  · rename_i different
    rw [starts_other single ?_,inside]
    intro begins
    obtain ⟨_,rest,whole,stop⟩ := begins
    cases rest with
    | nil => exact different (by simpa using whole)
    | cons d rest =>
      have letter := frontFormed.2 d (by simp [whole])
      have other : isWordChar d = false := stop
      rw [letter] at other
      cases other

-- A keyword is counted as often as it is one of the words.
theorem count_words {keyword : Text} (formed : Word keyword) (text : Text) :
    (word keyword).count text = (words text).count keyword := by
  have single : (word keyword).Formed := formed
  induction text using words_induction with
  | nil =>
    rw [words_nil]
    rfl
  | other c rest different ih => rw [count_cons single different,words_cons different,ih]
  | word front rest frontFormed apart ih =>
    rw [count_barred single apart,count_single formed frontFormed,words_word frontFormed apart,
      List.count_cons,ih,Nat.add_comm]
    simp

end Phrase
end SpecLint
