import SpecLint.Check.Complexity
import SpecLint.Proofs.Rules.Branches

namespace SpecLint
open Text

theorem trim_lineFeed (first second : Text) :
    trim (first ++ '\n' :: second) = [] ↔ trim first = [] ∧ trim second = [] := by
  simp only [trim_eq_nil,List.forall_mem_append,List.forall_mem_cons,blank_lineFeed,true_and]

theorem trim_join (line : Text) (rest : List Text) :
    trim (join ['\n'] (line :: rest)) = [] ↔ trim line = [] ∧ trim (join ['\n'] rest) = [] := by
  cases rest with
  | nil =>
    have nothing : trim [] = [] := rfl
    simp [join,nothing]
  | cons next rest =>
    rw [join_cons _ _ _ (List.cons_ne_nil _ _),List.append_assoc,List.singleton_append,trim_lineFeed]

theorem Phrase.count_join {phrase : Phrase} (formed : phrase.Formed) (line : Text) (rest : List Text) :
    phrase.count (lowercase (join ['\n'] (line :: rest))) =
      phrase.count (lowercase line) + phrase.count (lowercase (join ['\n'] rest)) := by
  cases rest with
  | nil =>
    have nothing : phrase.count (lowercase []) = 0 := by cases phrase <;> rfl
    simp [join,nothing]
  | cons next rest =>
    rw [join_cons _ _ _ (List.cons_ne_nil _ _),List.append_assoc,List.singleton_append,count_lineFeed formed]

-- Rules that say anything are at least one branch.
def branchFloor (rules : Text) : Nat := if trim rules = [] then 0 else 1

theorem branchCount_floor (rules : Text) :
    branchCount rules = max (keywordBranches (lowercase rules)) (branchFloor rules) := by
  unfold branchCount branchFloor
  by_cases blank : trim rules = []
  · simp [blank]
  · by_cases none : keywordBranches (lowercase rules) = 0
    · simp [blank,none]
    · simp only [blank,none,false_and,if_false]
      omega

-- No keyword lowers the count, not even an alternative that takes its `if` away.
theorem keywordBranches_mono {content more : Text}
    (counts : ∀ phrase : Phrase, phrase.Formed → phrase.count content ≤ phrase.count more) :
    keywordBranches content ≤ keywordBranches more := by
  obtain ⟨ifOr,ifElse,ifWord,whenWord,optionally,eitherOr⟩ := keywords_formed
  have first := counts _ ifOr
  have second := counts _ ifElse
  have third := counts _ ifWord
  have fourth := counts _ whenWord
  have fifth := counts _ optionally
  have sixth := counts _ eitherOr
  simp only [keywordBranches]
  omega

theorem branchCount_mono {rules more : Text}
    (counts : ∀ phrase : Phrase, phrase.Formed → phrase.count (lowercase rules) ≤ phrase.count (lowercase more))
    (filled : trim more = [] → trim rules = []) : branchCount rules ≤ branchCount more := by
  have floor : branchFloor rules ≤ branchFloor more := by
    unfold branchFloor
    split
    · exact Nat.zero_le _
    · rename_i some
      rw [if_neg (mt filled some)]
  have keywords := keywordBranches_mono counts
  rw [branchCount_floor,branchCount_floor]
  omega

-- Lines may be added anywhere.
theorem branchCount_lines_mono {lines more : List Text} (kept : lines.Sublist more) :
    branchCount (join ['\n'] lines) ≤ branchCount (join ['\n'] more) := by
  refine branchCount_mono ?_ ?_
  · intro phrase formed
    induction kept with
    | slnil => exact Nat.le_refl _
    | cons line _ ih =>
      rw [Phrase.count_join formed]
      exact Nat.le_add_left_of_le ih
    | cons_cons line _ ih =>
      rw [Phrase.count_join formed,Phrase.count_join formed]
      exact Nat.add_le_add_left ih _
  · intro blank
    induction kept with
    | slnil => exact blank
    | cons line _ ih => exact ih ((trim_join _ _).mp blank).2
    | cons_cons line _ ih =>
      obtain ⟨first,rest⟩ := (trim_join _ _).mp blank
      exact (trim_join _ _).mpr ⟨first,ih rest⟩

theorem branchCount_below (first second : Text) :
    max (branchCount first) (branchCount second) ≤ branchCount (first ++ '\n' :: second) := by
  refine Nat.max_le.mpr ⟨branchCount_mono ?_ ?_,branchCount_mono ?_ ?_⟩
  · intro phrase formed
    rw [Phrase.count_lineFeed formed]
    exact Nat.le_add_right _ _
  · exact fun blank => ((trim_lineFeed first second).mp blank).1
  · intro phrase formed
    rw [Phrase.count_lineFeed formed]
    exact Nat.le_add_left _ _
  · exact fun blank => ((trim_lineFeed first second).mp blank).2

theorem branchCount_above (first second : Text) :
    branchCount (first ++ '\n' :: second) ≤ branchCount first + branchCount second := by
  obtain ⟨ifOr,ifElse,ifWord,whenWord,optionally,eitherOr⟩ := keywords_formed
  have counted : keywordBranches (lowercase (first ++ '\n' :: second)) ≤
      keywordBranches (lowercase first) + keywordBranches (lowercase second) := by
    simp only [keywordBranches,Phrase.count_lineFeed ifOr,Phrase.count_lineFeed ifElse,
      Phrase.count_lineFeed ifWord,Phrase.count_lineFeed whenWord,Phrase.count_lineFeed optionally,
      Phrase.count_lineFeed eitherOr]
    omega
  have floor : branchFloor (first ++ '\n' :: second) ≤ branchFloor first + branchFloor second := by
    unfold branchFloor
    split
    · exact Nat.zero_le _
    · rename_i some
      rcases not_and_or.mp (mt (trim_lineFeed first second).mpr some) with upper | lower
      · rw [if_neg upper]
        exact Nat.le_add_right _ _
      · rw [if_neg lower]
        exact Nat.le_add_left _ _
  rw [branchCount_floor,branchCount_floor,branchCount_floor]
  omega

theorem exampleCount_lineFeed (first second : Text) :
    exampleCount (first ++ '\n' :: second) = exampleCount first + exampleCount second := by
  rw [exampleCount,trimmedLines_append,List.countP_append,exampleCount,exampleCount]

theorem checkCoverage_covered {rules examples : Text} (covered : branchCount rules ≤ exampleCount examples)
    (location : Text) (verdict : Verdict) : verdict.checkCoverage rules examples location = verdict := by
  unfold Verdict.checkCoverage
  rw [if_neg (Nat.not_lt.mpr covered),ite_self]

-- Merged rules have no fewer branches than each part and no more than both, and examples just add up.
-- So what covers two blocks of rules covers them together.
theorem branchCount_merged (rules others : Text) :
    (max (branchCount rules) (branchCount others) ≤ branchCount (rules ++ '\n' :: others) ∧
      branchCount (rules ++ '\n' :: others) ≤ branchCount rules + branchCount others) ∧
    (∀ examples more, exampleCount (examples ++ '\n' :: more) = exampleCount examples + exampleCount more) ∧
    (∀ lines more : List Text, lines.Sublist more →
      branchCount (join ['\n'] lines) ≤ branchCount (join ['\n'] more)) ∧
    ∀ examples more, branchCount rules ≤ exampleCount examples → branchCount others ≤ exampleCount more →
      branchCount (rules ++ '\n' :: others) ≤ exampleCount (examples ++ '\n' :: more) ∧
        ∀ location verdict, Verdict.checkCoverage (rules ++ '\n' :: others) (examples ++ '\n' :: more)
          location verdict = verdict := by
  have above := branchCount_above rules others
  refine ⟨⟨branchCount_below rules others,above⟩,exampleCount_lineFeed,fun _ _ => branchCount_lines_mono,?_⟩
  intro examples more first second
  have covered : branchCount (rules ++ '\n' :: others) ≤ exampleCount (examples ++ '\n' :: more) := by
    rw [exampleCount_lineFeed]
    exact above.trans (Nat.add_le_add first second)
  exact ⟨covered,checkCoverage_covered covered⟩

theorem branchCount_merged_either :
    let rules := "either a or b".toList
    let others := "if x, y\notherwise z\r".toList
    let examples := "(a) → b\n(b) -> c".toList
    let more := "(x) → y".toList
    branchCount rules = 2 ∧ branchCount others = 1 ∧
      branchCount (join ['\n'] [rules]) ≤ branchCount (join ['\n'] [rules, others]) ∧
      ∀ location verdict, Verdict.checkCoverage (rules ++ '\n' :: others) (examples ++ '\n' :: more)
        location verdict = verdict := by
  intro rules others examples more
  have first : branchCount rules = 2 := by decide +kernel
  have second : branchCount others = 1 := by decide +kernel
  obtain ⟨_,_,lines,covered⟩ := branchCount_merged rules others
  refine ⟨first,second,lines _ _ (.cons_cons _ (.cons _ .slnil)),(covered examples more ?_ ?_).2⟩
  · rw [first]
    decide +kernel
  · rw [second]
    decide +kernel

end SpecLint
