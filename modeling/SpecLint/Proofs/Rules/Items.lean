import SpecLint.Proofs.Rules.Lines

namespace SpecLint
open Text

-- What a line says as one of several bullets: the text behind its dash, where there is any.
def BulletItem (line item : Text) : Prop :=
  ∃ rest, trim line = '-' :: rest ∧ (∃ c ∈ rest, isBlank c = false) ∧ item = trim rest

-- What a line says where nothing is bulleted: all of its text. A dash is text like any other.
def PlainItem (line item : Text) : Prop := (∃ c ∈ line, isBlank c = false) ∧ item = trim line

-- What is read from some lines, in their order. A line is left out only if nothing can be read
-- from it.
inductive Picks (reads : Text → Text → Prop) : (texts items : List Text) → Prop where
  | nil : Picks reads [] []
  | take (found : reads line item) (rest : Picks reads texts items) :
      Picks reads (line :: texts) (item :: items)
  | skip (nothing : ∀ item, ¬reads line item) (rest : Picks reads texts items) :
      Picks reads (line :: texts) items

-- The items of a text. One bullet with something behind it is enough to leave all other lines out.
inductive ItemsOf (rules : Text) (items : List Text) : Prop where
  | bulleted (some : ∃ line ∈ lines rules, ∃ item, BulletItem line item)
      (picks : Picks BulletItem (lines rules) items)
  | plain (none : ∀ line ∈ lines rules, ∀ item, ¬BulletItem line item)
      (picks : Picks PlainItem (lines rules) items)

theorem trim_some {text : Text} : trim text ≠ [] ↔ ∃ c ∈ text, isBlank c = false := by
  rw [ne_eq,trim_eq_nil]
  simp

theorem bulletItem?_exact (line item : Text) : bulletItem? line = some item ↔ BulletItem line item := by
  have dashed : ∀ rest, after? ['-'] (trim line) = some rest ↔ trim line = '-' :: rest :=
    fun rest => after?_exact ['-'] (trim line) rest
  unfold BulletItem bulletItem?
  simp only [← dashed,← trim_some]
  cases after? ['-'] (trim line) with
  | none => simp
  | some rest =>
    by_cases empty : trim rest = []
    · simp [empty]
    · simpa [empty] using eq_comm

theorem picks_exact {reads : Text → Text → Prop} {read? : Text → Option Text}
    (exact : ∀ line item, read? line = some item ↔ reads line item) {texts items : List Text} :
    Picks reads texts items ↔ texts.filterMap read? = items := by
  constructor
  · intro picks
    induction picks with
    | nil => rfl
    | take found _ ih => rw [List.filterMap_cons_some ((exact _ _).mpr found),ih]
    | skip nothing _ ih =>
      rw [List.filterMap_cons_none,ih]
      exact Option.eq_none_iff_forall_ne_some.mpr fun item read => nothing item ((exact _ _).mp read)
  · intro same
    subst same
    induction texts with
    | nil => exact .nil
    | cons line texts ih =>
      cases read : read? line with
      | none =>
        rw [List.filterMap_cons_none read]
        refine .skip ?_ ih
        intro item found
        rw [(exact line item).mpr found] at read
        cases read
      | some item =>
        rw [List.filterMap_cons_some read]
        exact .take ((exact line item).mp read) ih

theorem trimmedLines_picks (text : Text) (items : List Text) :
    Picks PlainItem (lines text) items ↔ trimmedLines text = items := by
  have exact : ∀ line item, (some (trim line)).filter (!·.isEmpty) = some item ↔ PlainItem line item := by
    intro line item
    unfold PlainItem
    rw [← trim_some,Option.filter_eq_some_iff,Option.some.injEq]
    constructor
    · intro found
      obtain ⟨rfl,filled⟩ := found
      exact ⟨by simpa using filled,rfl⟩
    · intro found
      obtain ⟨filled,rfl⟩ := found
      exact ⟨rfl,by simpa using filled⟩
  rw [picks_exact exact,trimmedLines,← List.filterMap_eq_map,List.filter_filterMap]
  rfl

theorem ruleItems_exact (rules : Text) (items : List Text) : ItemsOf rules items ↔ ruleItems rules = items := by
  have bulletless : (∀ line ∈ lines rules, ∀ item, ¬BulletItem line item) ↔
      (lines rules).filterMap bulletItem? = [] := by
    simp only [List.filterMap_eq_nil_iff,Option.eq_none_iff_forall_ne_some,ne_eq,bulletItem?_exact]
  constructor
  · intro found
    cases found with
    | bulleted some picks =>
      have read := (picks_exact bulletItem?_exact).mp picks
      have filled : (lines rules).filterMap bulletItem? ≠ [] := by
        rw [ne_eq,← bulletless]
        simpa using some
      rw [ruleItems,if_neg (by simpa using filled),read]
    | plain none picks =>
      rw [ruleItems,bulletless.mp none]
      exact (trimmedLines_picks rules items).mp picks
  · intro read
    rw [ruleItems] at read
    split at read
    · rename_i empty
      exact .plain (bulletless.mpr (List.isEmpty_iff.mp empty)) ((trimmedLines_picks rules items).mpr read)
    · rename_i filled
      refine .bulleted ?_ ((picks_exact bulletItem?_exact).mpr read)
      rw [List.isEmpty_iff,← bulletless] at filled
      simpa using filled

theorem solid_trimmedLines {text line : Text} (member : line ∈ trimmedLines text) : Solid line := by
  rw [trimmedLines_split,List.mem_filter,List.mem_map] at member
  obtain ⟨⟨piece,inside,rfl⟩,filled⟩ := member
  refine ⟨by simpa using filled,?_,trim_trim piece⟩
  intro feed
  exact split_parts inside ((trim_sublist piece).subset feed)

theorem ruleItems_solid {rules item : Text} (member : item ∈ ruleItems rules) : Solid item := by
  unfold ruleItems at member
  dsimp only at member
  split at member
  · exact solid_trimmedLines member
  · rw [← filterMap_trimmedLines bulletItem? bulletItem?_trim rfl] at member
    obtain ⟨line,inside,read⟩ := List.mem_filterMap.mp member
    obtain ⟨rest,dashed,visible,rfl⟩ := (bulletItem?_exact _ _).mp read
    have solid := solid_trimmedLines inside
    rw [solid.trimmed] at dashed
    refine ⟨trim_some.mpr visible,?_,trim_trim rest⟩
    intro feed
    apply solid.oneLine
    rw [dashed]
    exact List.mem_cons_of_mem _ ((trim_sublist rest).subset feed)

-- The items of any rules are read back from their own bullets, whether or not the last of these
-- ends in a line feed: an item that begins with a dash, or is nothing else, has one more before it.
theorem ruleItems_canonical (rules : Text) :
    let bullets := (ruleItems rules).map bulleted
    (∀ item ∈ ruleItems rules, Solid item) ∧
    (∀ items, ItemsOf rules items ↔ items = ruleItems rules) ∧
    ruleItems (join ['\n'] bullets) = ruleItems rules ∧ ruleItems (ended bullets) = ruleItems rules := by
  intro bullets
  have solid : ∀ item ∈ ruleItems rules, Solid item := fun _ => ruleItems_solid
  have lines : trimmedLines (join ['\n'] bullets) = bullets := by
    apply trimmedLines_solid
    intro line member
    obtain ⟨item,inside,rfl⟩ := List.mem_map.mp member
    exact bulleted_solid (solid item inside)
  have closed : trimmedLines (ended bullets) = bullets := by
    by_cases empty : bullets = []
    · rw [empty]
      rfl
    · rw [ended_eq_join empty,trimmedLines_concat blank_lineFeed,lines]
  refine ⟨solid,?_,ruleItems_bulleted solid lines,ruleItems_bulleted solid closed⟩
  intro items
  rw [ruleItems_exact,eq_comm]

end SpecLint
