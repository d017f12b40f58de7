import SpecLint.WordSet

namespace SpecLint

theorem insertWord_first {word : Text} {words : List Text} (below : ∀ other ∈ words, word < other) :
    insertWord word words = word :: words := by
  cases words with
  | nil => rfl
  | cons head rest => rw [insertWord,if_pos (below head List.mem_cons_self)]

namespace WordSet

theorem mem_ofList (words : List Text) (word : Text) : word ∈ (ofList words).words ↔ word ∈ words := by
  induction words with
  | nil => exact Iff.rfl
  | cons head rest ih =>
    rw [List.mem_cons,← ih]
    exact insertWord_mem head word _

theorem words_ofList {words : List Text} (sorted : words.Pairwise (· < ·)) :
    (ofList words).words = words := by
  induction words with
  | nil => rfl
  | cons head rest ih =>
    obtain ⟨below,tail⟩ := List.pairwise_cons.mp sorted
    change insertWord head (ofList rest).words = head :: rest
    rw [ih tail,insertWord_first below]

-- What a set holds makes the same set again.
theorem ofList_words (set : WordSet) : ofList set.words = set := by
  obtain ⟨words,sorted⟩ := set
  have same := words_ofList sorted
  cases made : ofList words with
  | mk others othersSorted =>
    rw [made] at same
    cases same
    rfl

end WordSet
end SpecLint
