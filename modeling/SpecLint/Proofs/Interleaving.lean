namespace SpecLint

-- A list made of all values of several lists, each list in its own order. Nothing is said about
-- the order between two of them.
inductive Interleaved : (parts : List (List α)) → (whole : List α) → Prop where
  | done : (∀ part ∈ parts, part = []) → Interleaved parts []
  | next : Interleaved (above ++ rest :: below) whole →
      Interleaved (above ++ (value :: rest) :: below) (value :: whole)

namespace Interleaved

theorem perm (mixed : Interleaved parts whole) : whole.Perm parts.flatten := by
  induction mixed with
  | done empty => rw [List.flatten_eq_nil_iff.mpr empty]
  | next _ ih =>
    simp only [List.flatten_append,List.flatten_cons,List.cons_append] at ih ⊢
    exact (ih.cons _).trans List.perm_middle.symm

theorem cons_empty (mixed : Interleaved parts whole) : Interleaved ([] :: parts) whole := by
  induction mixed with
  | done empty =>
    refine .done ?_
    intro part member
    cases member with
    | head => rfl
    | tail _ member => exact empty part member
  | @next above rest below whole value _ ih => exact @next _ ([] :: above) rest below whole value ih

theorem of_cons_empty (mixed : Interleaved ([] :: parts) whole) : Interleaved parts whole := by
  generalize whole_parts : [] :: parts = all at mixed
  induction mixed generalizing parts with
  | done empty => exact .done fun part member => empty part (whole_parts ▸ List.mem_cons_of_mem _ member)
  | @next above _ _ _ _ _ ih =>
    cases above with
    | nil => cases whole_parts
    | cons first above =>
      obtain ⟨rfl,rfl⟩ := List.cons.inj whole_parts
      exact .next (ih rfl)

-- One list has nothing to be mixed with.
theorem single (mixed : Interleaved [part] whole) : whole = part := by
  generalize alone : [part] = parts at mixed
  induction mixed generalizing part with
  | done empty => exact (empty part (alone ▸ List.mem_singleton.mpr rfl)).symm
  | @next above _ below _ _ _ ih =>
    cases above with
    | nil =>
      obtain ⟨rfl,rfl⟩ := List.cons.inj alone
      rw [ih rfl]
    | cons first above => simp at alone

theorem flatten (parts : List (List α)) : Interleaved parts parts.flatten := by
  induction parts with
  | nil => exact .done fun _ member => by cases member
  | cons part parts ih =>
    induction part with
    | nil => exact ih.cons_empty
    | cons value part inner => exact @next _ [] part parts _ value inner

theorem filter (keep : α → Bool) (mixed : Interleaved parts whole) :
    Interleaved (parts.map (List.filter keep)) (whole.filter keep) := by
  induction mixed with
  | done empty =>
    refine .done ?_
    intro part member
    obtain ⟨source,inside,rfl⟩ := List.mem_map.mp member
    rw [empty source inside]
    rfl
  | @next above rest below whole value _ ih =>
    rw [List.map_append,List.map_cons] at ih ⊢
    by_cases kept : keep value = true
    · rw [List.filter_cons_of_pos kept,List.filter_cons_of_pos kept]
      exact .next ih
    · rw [List.filter_cons_of_neg kept,List.filter_cons_of_neg kept]
      exact ih

-- What is mixed first and what is mixed behind it belongs to the same lists, part by part.
theorem append {first second : List (List α)} (mixed : Interleaved first whole)
    (other : Interleaved second behind) (same : first.length = second.length) :
    Interleaved (first.zipWith (· ++ ·) second) (whole ++ behind) := by
  induction mixed generalizing second with
  | @done parts empty =>
    have nothing : parts.zipWith (· ++ ·) second = second := by
      refine List.ext_getElem ?_ ?_
      · rw [List.length_zipWith,same,Nat.min_self]
      · intro place inside _
        rw [List.getElem_zipWith,empty _ (List.getElem_mem _),List.nil_append]
    rw [nothing]
    exact other
  | @next above rest below whole value _ ih =>
    obtain ⟨front,part,tail,rfl,level⟩ : ∃ front part tail, second = front ++ part :: tail ∧
        above.length = front.length := by
      have room : above.length < second.length := by
        rw [← same,List.length_append,List.length_cons]
        omega
      exact ⟨second.take above.length,second[above.length],second.drop (above.length + 1),
        by simp,by simp; omega⟩
    have deeper := ih other (by simpa using same)
    rw [List.zipWith_append level,List.zipWith_cons_cons] at deeper ⊢
    exact .next deeper

-- A table read row by row mixes its columns.
theorem table (rows : List α) (columns : List β) (cell : α → β → List γ) :
    Interleaved (columns.map fun column => rows.flatMap (cell · column))
      (rows.flatMap fun row => columns.flatMap (cell row)) := by
  induction rows with
  | nil =>
    refine .done ?_
    intro part member
    obtain ⟨column,_,rfl⟩ := List.mem_map.mp member
    rfl
  | cons row rows ih =>
    have first : Interleaved (columns.map (cell row)) (columns.flatMap (cell row)) :=
      flatten (columns.map (cell row))
    have both := first.append ih (by simp)
    rw [List.zipWith_map,List.zipWith_self] at both
    exact both

end Interleaved
end SpecLint
