import SpecLint.Text.Basic

namespace SpecLint

def insertWord (word : Text) : List Text → List Text
  | [] => [word]
  | head :: rest =>
    if word < head then word :: head :: rest
    else if word = head then head :: rest
    else head :: insertWord word rest

theorem insertWord_mem (word other : Text) (words : List Text) :
    other ∈ insertWord word words ↔ other = word ∨ other ∈ words := by
  induction words with
  | nil => simp [insertWord]
  | cons head rest ih =>
    unfold insertWord
    split
    · simp
    · split
      · rename_i same; subst same; simp
      · simp only [List.mem_cons,ih]
        exact or_left_comm

theorem insertWord_sorted (word : Text) (words : List Text) (sorted : words.Pairwise (· < ·)) :
    (insertWord word words).Pairwise (· < ·) := by
  induction words with
  | nil => simp [insertWord]
  | cons head rest ih =>
    obtain ⟨below,tail⟩ := List.pairwise_cons.mp sorted
    unfold insertWord
    split
    · rename_i before
      refine List.pairwise_cons.mpr ⟨?_,sorted⟩
      intro other member
      rcases List.mem_cons.mp member with rfl | member
      · exact before
      · exact List.lt_trans before (below other member)
    · split
      · exact sorted
      · rename_i notBefore different
        refine List.pairwise_cons.mpr ⟨?_,ih tail⟩
        intro other member
        rcases (insertWord_mem word other rest).mp member with rfl | member
        · rcases Std.lt_trichotomy other head with before | same | after
          · exact absurd before notBefore
          · exact absurd same different
          · exact after
        · exact below other member

-- A set of words, held in order by scalar value without repeats, so that equal sets are equal
-- values and are written one way.
structure WordSet where
  words : List Text
  sorted : words.Pairwise (· < ·)
deriving DecidableEq

namespace WordSet

def empty : WordSet := ⟨[],.nil⟩

def insert (word : Text) (set : WordSet) : WordSet :=
  ⟨insertWord word set.words,insertWord_sorted word set.words set.sorted⟩

def ofList (words : List Text) : WordSet := words.foldr insert empty

def contains (set : WordSet) (word : Text) : Bool := set.words.contains word

end WordSet
end SpecLint
