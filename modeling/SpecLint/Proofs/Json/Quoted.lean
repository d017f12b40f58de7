import SpecLint.Json.Quoted

namespace SpecLint.Json
open Text

-- Without any control character.
def Printable (text : Text) : Prop := ∀ c ∈ text, 0x20 ≤ c.toNat

instance (text : Text) : Decidable (Printable text) := List.decidableBAll _ text

theorem hexDigit_value : ∀ n < 16, hexValue? (hexDigit n) = some n := by decide

theorem hexDigit_printable : ∀ n < 16, 0x20 ≤ (hexDigit n).toNat := by decide

theorem character?_code (c : Char) : character? c.toNat = some c := by
  have valid : c.toNat.isValidChar := c.valid
  rw [character?,if_pos valid,Char.ofNat_toNat]

-- A control character that has no letter of its own.
theorem readCharacter?_control {c : Char} (control : c.toNat < 0x20) (rest : Text) :
    readCharacter? ('0' :: '0' :: hexDigit (c.toNat / 16) :: hexDigit (c.toNat % 16) :: rest) =
      some (c,rest) := by
  have high := hexDigit_value (c.toNat / 16) (by omega)
  have low := hexDigit_value (c.toNat % 16) (by omega)
  have zero : hexValue? '0' = some 0 := by decide
  have code : 16 * (16 * (16 * (16 * 0 + 0) + 0) + c.toNat / 16) + c.toNat % 16 = c.toNat := by omega
  have number : readHex 4 0 ('0' :: '0' :: hexDigit (c.toNat / 16) :: hexDigit (c.toNat % 16) :: rest) =
      some (c.toNat,rest) := by
    simp only [readHex,zero,high,low,Option.bind_eq_bind,Option.bind_some,code]
  have plane : ¬(0xD800 ≤ c.toNat ∧ c.toNat < 0xDC00) := by omega
  simp only [readCharacter?,number,Option.bind_eq_bind,Option.bind_some,if_neg plane,character?_code]
  rfl

-- A character is written as a backslash with what is read back as the character, or as itself.
theorem escapeChar_cases (c : Char) :
    (∃ code, escapeChar c = '\\' :: code ∧ Printable code ∧
      ∀ rest, readEscape? (code ++ rest) = some (c,rest)) ∨
      escapeChar c = [c] ∧ c ≠ '"' ∧ c ≠ '\\' ∧ ¬c.toNat < 0x20 := by
  by_cases quote : c = '"'
  · subst quote
    exact .inl ⟨['"'],rfl,by decide,fun _ => rfl⟩
  by_cases backslash : c = '\\'
  · subst backslash
    exact .inl ⟨['\\'],rfl,by decide,fun _ => rfl⟩
  unfold escapeChar
  rw [if_neg quote,if_neg backslash]
  split
  · rename_i letter; subst letter
    exact .inl ⟨['b'],rfl,by decide,fun _ => rfl⟩
  split
  · rename_i letter; subst letter
    exact .inl ⟨['f'],rfl,by decide,fun _ => rfl⟩
  split
  · rename_i letter; subst letter
    exact .inl ⟨['n'],rfl,by decide,fun _ => rfl⟩
  split
  · rename_i letter; subst letter
    exact .inl ⟨['r'],rfl,by decide,fun _ => rfl⟩
  split
  · rename_i letter; subst letter
    exact .inl ⟨['t'],rfl,by decide,fun _ => rfl⟩
  split
  · rename_i control
    refine .inl ⟨_,rfl,?_,fun rest => readCharacter?_control control rest⟩
    have high := hexDigit_printable (c.toNat / 16) (by omega)
    have low := hexDigit_printable (c.toNat % 16) (by omega)
    simp only [Printable,List.forall_mem_cons]
    exact ⟨by decide,by decide,by decide,high,low,fun _ nothing => by cases nothing⟩
  · rename_i visible
    exact .inr ⟨rfl,quote,backslash,visible⟩

theorem escapeChar_printable (c : Char) : Printable (escapeChar c) := by
  rcases escapeChar_cases c with ⟨code,written,printable,_⟩ | ⟨written,_,_,visible⟩
  · rw [written,Printable,List.forall_mem_cons]
    exact ⟨by decide,printable⟩
  · rw [written,Printable,List.forall_mem_singleton]
    exact Nat.le_of_not_lt visible

theorem quote_printable (text : Text) : Printable (quote text) := by
  intro d member
  rw [quote,List.cons_append,List.mem_cons,List.mem_append,List.mem_flatMap,List.mem_singleton] at member
  rcases member with rfl | ⟨c,_,inside⟩ | rfl
  · decide
  · exact escapeChar_printable c d inside
  · decide

-- A quoted text is read back up to its closing quote, whatever follows.
theorem readQuoted_quoted (text rest : Text) {fuel : Nat} (room : text.length < fuel) :
    readQuoted fuel (text.flatMap escapeChar ++ '"' :: rest) = some (text,rest) := by
  induction text generalizing fuel with
  | nil =>
    obtain ⟨fuel,rfl⟩ := Nat.exists_eq_succ_of_ne_zero (Nat.ne_of_gt room)
    rfl
  | cons c text ih =>
    obtain ⟨fuel,rfl⟩ := Nat.exists_eq_succ_of_ne_zero (Nat.ne_of_gt (Nat.lt_of_le_of_lt (Nat.zero_le _) room))
    have later := ih (Nat.lt_of_succ_lt_succ room)
    rw [List.flatMap_cons,List.append_assoc]
    rcases escapeChar_cases c with ⟨code,written,_,read⟩ | ⟨written,quote,backslash,visible⟩
    · have different : ¬ '\\' = '"' := by decide
      rw [written,List.cons_append,readQuoted,if_neg different,if_pos rfl,read]
      simp only [Option.bind_eq_bind,Option.bind_some,later]
      rfl
    · rw [written,List.singleton_append,readQuoted,if_neg quote,if_neg backslash,if_neg visible,later]
      rfl

theorem length_quote (text : Text) : text.length + 2 ≤ (quote text).length := by
  have escaped : text.length ≤ (text.flatMap escapeChar).length := by
    induction text with
    | nil => exact Nat.le_refl _
    | cons c text ih =>
      have filled : 0 < (escapeChar c).length := by
        rcases escapeChar_cases c with ⟨code,written,_⟩ | ⟨written,_⟩
        · rw [written]
          exact Nat.succ_pos _
        · rw [written]
          exact Nat.one_pos
      rw [List.flatMap_cons,List.length_append,List.length_cons]
      omega
  rw [quote,List.length_append,List.length_cons,List.length_singleton]
  omega

end SpecLint.Json
