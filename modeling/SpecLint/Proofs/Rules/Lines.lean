import SpecLint.Proofs.Rules.Phrase
import SpecLint.Proofs.Text.Lines
import SpecLint.Proofs.Text.Lowercase
import SpecLint.Rules.Branches
import SpecLint.Rules.Items

namespace SpecLint
open Text

theorem blankCodes_other : ∀ code ∈ blankCodes, isWordChar (Char.ofNat code) = false := by decide

theorem blank_other {c : Char} (blank : isBlank c = true) : isWordChar c = false := by
  have facts := blankCodes_other c.toNat ((blank_codes c).mp blank)
  rwa [Char.ofNat_toNat] at facts

theorem Phrase.count_trim {phrase : Phrase} (formed : phrase.Formed) (text : Text) :
    phrase.count (lowercase (trim text)) = phrase.count (lowercase text) := by
  obtain ⟨before,after,whole,first,last⟩ := trim_parts text
  conv => rhs; rw [whole]
  rw [lowercase_after last,lowercase_before first,
    count_after formed fun c member => blank_other (last c member),
    count_before formed fun c member => blank_other (first c member)]

theorem Phrase.count_lineFeed {phrase : Phrase} (formed : phrase.Formed) (line rest : Text) :
    phrase.count (lowercase (line ++ '\n' :: rest)) =
      phrase.count (lowercase line) + phrase.count (lowercase rest) := by
  rw [lowercase_append blank_lineFeed,count_line formed]

-- Phrases are counted line by line, whatever the blanks around a line.
theorem Phrase.count_lines {phrase : Phrase} (formed : phrase.Formed) {text other : Text}
    (same : trimmedLines text = trimmedLines other) :
    phrase.count (lowercase text) = phrase.count (lowercase other) := by
  have nothing : phrase.count (lowercase []) = 0 := by cases phrase <;> rfl
  have single : ∀ line, (([trim line].filter (!·.isEmpty)).map fun line =>
      phrase.count (lowercase line)).sum = phrase.count (lowercase line) := by
    intro line
    rw [← count_trim formed line]
    cases trim line with
    | nil => simp [nothing]
    | cons c kept => simp
  have total : ∀ text, phrase.count (lowercase text) =
      ((trimmedLines text).map fun line => phrase.count (lowercase line)).sum := by
    intro text
    induction text using lines_induction with
    | last line noFeed => rw [trimmedLines_line noFeed,single]
    | above line rest noFeed ih =>
      rw [count_lineFeed formed,ih,trimmedLines_append,List.map_append,List.sum_append,
        trimmedLines_line noFeed,single]
  rw [total,total,same]

theorem keywords_formed : Phrase.ifOr.Formed ∧ Phrase.ifElse.Formed ∧ Phrase.ifWord.Formed ∧
    Phrase.whenWord.Formed ∧ Phrase.optionally.Formed ∧ Phrase.eitherOr.Formed := by decide

theorem branchCount_lines {rules other : Text} (same : trimmedLines rules = trimmedLines other) :
    branchCount rules = branchCount other := by
  have each : ∀ phrase : Phrase, phrase.Formed →
      phrase.count (lowercase rules) = phrase.count (lowercase other) :=
    fun _ formed => Phrase.count_lines formed same
  obtain ⟨ifOr,ifElse,ifWord,whenWord,optionally,eitherOr⟩ := keywords_formed
  have counted : keywordBranches (lowercase rules) = keywordBranches (lowercase other) := by
    simp only [keywordBranches,each _ ifOr,each _ ifElse,each _ ifWord,each _ whenWord,
      each _ optionally,each _ eitherOr]
  have blank : trim rules = [] ↔ trim other = [] := by
    rw [← trimmedLines_eq_nil,same,trimmedLines_eq_nil]
  simp only [branchCount,counted,ne_eq,blank]

theorem exampleCount_lines {examples other : Text} (same : trimmedLines examples = trimmedLines other) :
    exampleCount examples = exampleCount other := by
  rw [exampleCount,same,exampleCount]

theorem bulletItem?_trim (line : Text) : bulletItem? (trim line) = bulletItem? line := by
  rw [bulletItem?,trim_trim,bulletItem?]

theorem ruleItems_lines {rules other : Text} (same : trimmedLines rules = trimmedLines other) :
    ruleItems rules = ruleItems other := by
  have bulleted : (lines rules).filterMap bulletItem? = (lines other).filterMap bulletItem? := by
    rw [← filterMap_trimmedLines bulletItem? bulletItem?_trim rfl,same,
      filterMap_trimmedLines bulletItem? bulletItem?_trim rfl]
  simp only [ruleItems,bulleted,same]

-- An item as it stands on a line of its own.
def bulleted (item : Text) : Text := "- ".toList ++ item

theorem bulleted_solid {item : Text} (solid : Solid item) : Solid (bulleted item) := by
  have dash : isBlank '-' = false := by decide
  obtain ⟨_,last⟩ := trim_eq_self.mp solid.trimmed
  refine ⟨List.cons_ne_nil _ _,?_,trim_eq_self.mpr ⟨?_,?_⟩⟩
  · have between : '\n' ∉ "- ".toList := by decide
    exact List.not_mem_append between solid.oneLine
  · intro c head
    exact Option.some.inj head ▸ dash
  · intro c ending
    apply last c
    rwa [bulleted,List.getLast?_append_of_ne_nil _ solid.some] at ending

theorem bulletItem?_bulleted {item : Text} (solid : Solid item) : bulletItem? (bulleted item) = some item := by
  have dashed : after? ['-'] (bulleted item) = some (' ' :: item) := rfl
  have kept : trim (' ' :: item) = item := (trim_cons (by decide) item).trans solid.trimmed
  simp [bulletItem?,(bulleted_solid solid).trimmed,dashed,kept,solid.some]

-- What is written as bulleted lines is read item by item.
theorem ruleItems_bulleted {rules : Text} {items : List Text} (solid : ∀ item ∈ items, Solid item)
    (written : trimmedLines rules = items.map bulleted) : ruleItems rules = items := by
  have read : (lines rules).filterMap bulletItem? = items := by
    rw [← filterMap_trimmedLines bulletItem? bulletItem?_trim rfl,written,List.filterMap_map]
    have each : ∀ item ∈ items, (bulletItem? ∘ bulleted) item = some item := fun item member =>
      bulletItem?_bulleted (solid item member)
    rw [List.filterMap_congr each,List.filterMap_some]
  rw [ruleItems,read]
  cases items with
  | nil => exact written
  | cons item rest => rfl

end SpecLint
