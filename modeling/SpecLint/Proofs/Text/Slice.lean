import SpecLint.Proofs.Text.Split

namespace SpecLint.Text

-- Cuts a text at a byte offset. Inside a character, or beyond the end, there is no cut.
def cutAt? : (offset : Nat) → Text → Option (Text × Text)
  | 0, text => some ([],text)
  | _ + 1, [] => none
  | offset + 1, c :: text =>
    if c.utf8Size ≤ offset + 1 then
      (cutAt? (offset + 1 - c.utf8Size) text).map fun cut => (c :: cut.1,cut.2)
    else none

-- The part of a text between two byte offsets, where both of them are cuts and in order.
def slice? (text : Text) (start stop : Nat) : Option Text :=
  if start ≤ stop then do
    let outer ← cutAt? start text
    let inner ← cutAt? (stop - start) outer.2
    return inner.1
  else none

theorem cutAt?_start (text before after : Text) :
    cutAt? 0 text = some (before,after) ↔ text = before ++ after ∧ byteLength before = 0 := by
  rw [byteLength_eq_zero,cutAt?,Option.some.injEq,Prod.mk.injEq]
  constructor
  · intro same
    obtain ⟨rfl,rfl⟩ := same
    exact ⟨rfl,rfl⟩
  · intro parts
    obtain ⟨rfl,rfl⟩ := parts
    exact ⟨rfl,rfl⟩

theorem cutAt?_exact (offset : Nat) (text before after : Text) :
    cutAt? offset text = some (before,after) ↔ text = before ++ after ∧ byteLength before = offset := by
  induction text generalizing offset before with
  | nil =>
    cases offset with
    | zero => exact cutAt?_start _ _ _
    | succ offset =>
      simp only [cutAt?,reduceCtorEq,false_iff,not_and]
      intro empty
      simp [(List.append_eq_nil_iff.mp empty.symm).1,byteLength]
  | cons c text ih =>
    have positive := c.utf8Size_pos
    cases offset with
    | zero => exact cutAt?_start _ _ _
    | succ offset =>
      rw [cutAt?]
      constructor
      · intro cut
        split at cut
        · rename_i fits
          obtain ⟨⟨above,below⟩,found,same⟩ := Option.map_eq_some_iff.mp cut
          cases same
          obtain ⟨rfl,length⟩ := (ih _ _).mp found
          refine ⟨rfl,?_⟩
          simp only [byteLength,length]
          omega
        · cases cut
      · intro parts
        obtain ⟨same,length⟩ := parts
        cases before with
        | nil => simp [byteLength] at length
        | cons d before =>
          obtain ⟨rfl,rfl⟩ := List.cons.inj same
          simp only [byteLength] at length
          rw [if_pos (by omega),(ih _ before).mpr ⟨rfl,by omega⟩]
          rfl

theorem slice?_exact (text part : Text) (start stop : Nat) :
    slice? text start stop = some part ↔ ∃ before after, text = before ++ part ++ after ∧
      byteLength before = start ∧ byteLength (before ++ part) = stop := by
  simp only [byteLength_append,slice?]
  constructor
  · intro sliced
    split at sliced
    · rename_i order
      obtain ⟨⟨before,rest⟩,first,inner⟩ := Option.bind_eq_some_iff.mp sliced
      obtain ⟨⟨middle,after⟩,second,same⟩ := Option.bind_eq_some_iff.mp inner
      obtain ⟨rfl,above⟩ := (cutAt?_exact _ _ _ _).mp first
      obtain ⟨rfl,length⟩ := (cutAt?_exact _ _ _ _).mp second
      cases same
      exact ⟨before,after,by simp,above,by dsimp only; omega⟩
    · cases sliced
  · intro placed
    obtain ⟨before,after,rfl,rfl,rfl⟩ := placed
    have first : cutAt? (byteLength before) (before ++ part ++ after) = some (before,part ++ after) :=
      (cutAt?_exact _ _ _ _).mpr ⟨by simp,rfl⟩
    have second : cutAt? (byteLength before + byteLength part - byteLength before) (part ++ after) =
        some (part,after) := (cutAt?_exact _ _ _ _).mpr ⟨rfl,by omega⟩
    rw [if_pos (by omega),first,Option.bind_eq_bind,Option.bind_some,second]
    rfl

-- Of two openings of a text the one with fewer bytes opens the other.
theorem opening_of_le {text before after first rest : Text} (outer : text = before ++ after)
    (inner : text = first ++ rest) (order : byteLength before ≤ byteLength first) :
    ∃ part, first = before ++ part := by
  have same : before ++ after = first ++ rest := outer.symm.trans inner
  rcases List.append_eq_append_iff.mp same with ⟨part,found,_⟩ | ⟨part,found,_⟩
  · exact ⟨part,found⟩
  · rw [found,byteLength_append] at order
    have empty : part = [] := byteLength_eq_zero.mp (by omega)
    exact ⟨[],by simp [found,empty]⟩

theorem slice?_adjacent {text left right : Text} {start middle stop : Nat}
    (first : slice? text start middle = some left) (second : slice? text middle stop = some right) :
    slice? text start stop = some (left ++ right) := by
  obtain ⟨before,after,opens,rfl,rfl⟩ := (slice?_exact _ _ _ _).mp first
  obtain ⟨above,below,closes,length,rfl⟩ := (slice?_exact _ _ _ _).mp second
  obtain ⟨rest,found⟩ := opening_of_le (opens.trans rfl)
    (show text = above ++ (right ++ below) by simp [closes]) (by omega)
  have empty : rest = [] := by
    rw [found,byteLength_append] at length
    exact byteLength_eq_zero.mp (by omega)
  subst empty
  rw [List.append_nil] at found
  subst found
  exact (slice?_exact _ _ _ _).mpr ⟨before,below,by simp [closes],rfl,by simp⟩

end SpecLint.Text
