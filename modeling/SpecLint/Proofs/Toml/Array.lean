import SpecLint.Config.Toml
import SpecLint.Proofs.Text.Prefix
import SpecLint.Proofs.Toml.Number

namespace SpecLint.Toml
open Text

-- Without quotes, backslashes and control characters a word stands between its quotes as it is.
def PlainWord (word : Text) : Prop :=
  ∀ c ∈ word, c ≠ '"' ∧ c ≠ '\\' ∧ 0x20 ≤ c.toNat ∧ c ≠ '\x7f'

instance (word : Text) : Decidable (PlainWord word) := List.decidableBAll _ word

theorem visible_ne {c other : Char} (visible : 0x20 ≤ c.toNat) (control : other.toNat < 0x20) :
    c ≠ other := by
  intro same
  rw [same] at visible
  omega

theorem escapeChar_plain {c : Char} (quote : c ≠ '"') (backslash : c ≠ '\\') (visible : 0x20 ≤ c.toNat)
    (delete : c ≠ '\x7f') : escapeChar c = [c] := by
  have last : ¬(c.toNat < 0x20 ∨ c = '\x7f') := not_or.mpr ⟨Nat.not_lt.mpr visible,delete⟩
  rw [escapeChar,if_neg quote,if_neg backslash,if_neg (visible_ne visible (by decide)),
    if_neg (visible_ne visible (by decide)),if_neg (visible_ne visible (by decide)),
    if_neg (visible_ne visible (by decide)),if_neg (visible_ne visible (by decide)),if_neg last]

theorem quote_plain {word : Text} (plain : PlainWord word) : quote word = '"' :: (word ++ ['"']) := by
  have same : word.flatMap escapeChar = word := by
    induction word with
    | nil => rfl
    | cons c word ih =>
      obtain ⟨quote,backslash,visible,delete⟩ := plain c List.mem_cons_self
      rw [List.flatMap_cons,escapeChar_plain quote backslash visible delete,
        ih fun d member => plain d (List.mem_cons_of_mem _ member)]
      rfl
  rw [quote,same,List.cons_append]

theorem readBasic_plain {word : Text} (plain : PlainWord word) (rest : Text) {fuel : Nat}
    (room : word.length < fuel) : readBasic fuel (word ++ '"' :: rest) = some (word,rest) := by
  induction word generalizing fuel with
  | nil =>
    obtain ⟨fuel,rfl⟩ := Nat.exists_eq_add_one_of_ne_zero (Nat.ne_zero_of_lt room)
    rfl
  | cons c word ih =>
    obtain ⟨fuel,rfl⟩ := Nat.exists_eq_add_one_of_ne_zero (Nat.ne_zero_of_lt room)
    obtain ⟨quote,backslash,visible,delete⟩ := plain c List.mem_cons_self
    have shown : isPlain c = true := by simp [isPlain,visible,delete]
    have later := ih (fun d member => plain d (List.mem_cons_of_mem _ member)) (Nat.lt_of_succ_lt_succ room)
    rw [List.cons_append,readBasic,if_neg quote,if_neg backslash,if_pos shown,later]
    rfl

-- A quote behind an empty word would open a block of lines.
theorem readString_plain {word : Text} (plain : PlainWord word) {c : Char} (other : c ≠ '"') (rest : Text)
    {fuel : Nat} (room : word.length < fuel) :
    readString fuel (quote word ++ c :: rest) = some (word,c :: rest) := by
  have block : after? ['"', '"', '"'] ('"' :: (word ++ '"' :: c :: rest)) = none := by
    cases word with
    | nil => simp [after?,other]
    | cons d word =>
      have inner := (plain d List.mem_cons_self).1
      simp [after?,inner]
  rw [quote_plain plain,List.cons_append,List.append_assoc,List.singleton_append,readString,block]
  exact readBasic_plain plain (c :: rest) room

theorem readValue_plain {word : Text} (plain : PlainWord word) {c : Char} (other : c ≠ '"') (rest : Text)
    (depth : Nat) {fuel : Nat} (room : word.length < fuel) :
    readValue (fuel + 1) depth (quote word ++ c :: rest) = some (.string word,c :: rest) := by
  have read := readString_plain plain other rest room
  rw [quote_plain plain,List.cons_append] at read ⊢
  rw [readValue,if_pos (.inl rfl),read]
  rfl

-- Characters that begin something other than a gap between items.
def Firm (c : Char) : Prop := isSpace c = false ∧ c ≠ '#' ∧ c ≠ '\n' ∧ c ≠ '\r'

instance (c : Char) : Decidable (Firm c) := inferInstanceAs (Decidable (_ ∧ _))

theorem skipSpace_firm {c : Char} (firm : Firm c) (rest : Text) : skipSpace (c :: rest) = c :: rest :=
  List.dropWhile_cons_of_neg (by simp [firm.1])

theorem skipGap_firm {c : Char} (firm : Firm c) (fuel : Nat) (rest : Text) :
    skipGap (fuel + 1) (c :: rest) = some (c :: rest) := by
  unfold skipGap
  rw [skipSpace_firm firm]
  obtain ⟨_,mark,feed,back⟩ := firm
  split
  · rename_i same
    exact absurd (List.cons.inj same).1 mark
  · rename_i same
    exact absurd (List.cons.inj same).1 feed
  · rename_i same
    exact absurd (List.cons.inj same).1 back
  · rfl

theorem skipGap_feed (fuel : Nat) (rest : Text) : skipGap (fuel + 1) ('\n' :: rest) = skipGap fuel rest := rfl

theorem skipGap_indent (fuel : Nat) (rest : Text) :
    skipGap (fuel + 1) ("    ".toList ++ rest) = skipGap (fuel + 1) rest := by
  have skipped : skipSpace ("    ".toList ++ rest) = skipSpace rest := rfl
  rw [skipGap,skipGap,skipped]

theorem readArray_closed {fuel depth : Nat} {text rest : Text} (gap : skipGap fuel text = some (']' :: rest)) :
    readArray (fuel + 1) depth text = some ([],rest) := by
  simp only [readArray,gap,Option.bind_eq_bind,Option.bind_some]

-- What is read of an item before the character behind it is looked at.
def ReadsItem (fuel depth : Nat) (text : Text) (item : Value) (behind : Text) : Prop :=
  ∃ inner next, skipGap fuel text = some ('"' :: inner) ∧
    readValue fuel depth ('"' :: inner) = some (item,next) ∧ skipGap fuel next = some behind

theorem readArray_last {fuel depth : Nat} {text rest : Text} {item : Value}
    (read : ReadsItem fuel depth text item (']' :: rest)) :
    readArray (fuel + 1) depth text = some ([item],rest) := by
  obtain ⟨inner,next,gap,value,behind⟩ := read
  simp only [readArray,gap,Option.bind_eq_bind,Option.bind_some]
  split
  · rename_i same
    exact absurd (List.cons.inj same).1 (by decide)
  · simp only [value,behind,Option.bind_some]

theorem readArray_more {fuel depth : Nat} {text behind rest : Text} {item : Value} {items : List Value}
    (read : ReadsItem fuel depth text item (',' :: behind))
    (later : readArray fuel depth behind = some (items,rest)) :
    readArray (fuel + 1) depth text = some (item :: items,rest) := by
  obtain ⟨inner,next,gap,value,comma⟩ := read
  simp only [readArray,gap,Option.bind_eq_bind,Option.bind_some]
  split
  · rename_i same
    exact absurd (List.cons.inj same).1 (by decide)
  · simp only [value,comma,later,Option.bind_some]
    rfl

theorem readsItem_plain {word : Text} (plain : PlainWord word) {c : Char} (other : c ≠ '"') (firm : Firm c)
    (rest : Text) (depth : Nat) {fuel : Nat} (room : word.length < fuel) {text : Text}
    (gap : skipGap (fuel + 1) text = some (quote word ++ c :: rest)) :
    ReadsItem (fuel + 1) depth text (.string word) (c :: rest) := by
  have read := readValue_plain plain other rest depth room
  rw [quote_plain plain,List.cons_append] at gap read
  exact ⟨_,_,gap,read,skipGap_firm firm fuel rest⟩

theorem length_tomlItem {item : Text} (plain : PlainWord item) : (tomlItem item).length = item.length + 8 := by
  rw [tomlItem,quote_plain plain]
  simp

-- The items of a long array, each on a line of its own with a comma behind it.
theorem readArray_items {items : List Text} (plain : ∀ item ∈ items, PlainWord item) (rest : Text)
    (depth : Nat) {fuel : Nat} (room : (items.flatMap tomlItem).length + 3 ≤ fuel) :
    readArray fuel depth ('\n' :: (items.flatMap tomlItem ++ ']' :: rest)) =
      some (items.map .string,rest) := by
  induction items generalizing fuel with
  | nil =>
    obtain ⟨fuel,rfl⟩ := Nat.exists_eq_add_of_le' (show 3 ≤ fuel by simpa using room)
    refine readArray_closed ?_
    rw [List.flatMap_nil,List.nil_append,skipGap_feed]
    exact skipGap_firm (by decide) _ _
  | cons item items ih =>
    have first := plain item List.mem_cons_self
    have width := length_tomlItem first
    rw [List.flatMap_cons,List.length_append] at room
    obtain ⟨fuel,rfl⟩ := Nat.exists_eq_add_of_le' (show 3 ≤ fuel by omega)
    have later := ih (fun other member => plain other (List.mem_cons_of_mem _ member))
      (show _ ≤ fuel + 2 by omega)
    have cut : (item :: items).flatMap tomlItem ++ ']' :: rest =
        "    ".toList ++ (quote item ++ ',' :: '\n' :: (items.flatMap tomlItem ++ ']' :: rest)) := by
      simp [tomlItem]
    have gap : skipGap (fuel + 2) ('\n' :: ((item :: items).flatMap tomlItem ++ ']' :: rest)) =
        some (quote item ++ ',' :: '\n' :: (items.flatMap tomlItem ++ ']' :: rest)) := by
      rw [cut,skipGap_feed,skipGap_indent,quote_plain first,List.cons_append]
      exact skipGap_firm (by decide) _ _
    exact readArray_more (readsItem_plain first (by decide) (by decide) _ depth (by omega) gap) later

theorem readArray_written {items : List Text} (plain : ∀ item ∈ items, PlainWord item) (rest : Text)
    (depth : Nat) : ∃ inner, tomlArray items = '[' :: inner ∧
      ∀ fuel, inner.length + 3 ≤ fuel →
        readArray fuel depth (inner ++ rest) = some (items.map .string,rest) := by
  match items, plain with
  | [], _ =>
    refine ⟨[']'],rfl,?_⟩
    intro fuel room
    obtain ⟨fuel,rfl⟩ := Nat.exists_eq_add_of_le' (Nat.le_of_add_left_le room)
    exact readArray_closed (skipGap_firm (by decide) _ rest)
  | [item], plain =>
    have word := plain item List.mem_cons_self
    refine ⟨quote item ++ [']'],rfl,?_⟩
    intro fuel room
    obtain ⟨fuel,rfl⟩ := Nat.exists_eq_add_of_le' (Nat.le_of_add_left_le room)
    rw [List.append_assoc,List.singleton_append]
    have gap : skipGap (fuel + 2) (quote item ++ ']' :: rest) = some (quote item ++ ']' :: rest) := by
      rw [quote_plain word,List.cons_append]
      exact skipGap_firm (by decide) _ _
    have width : item.length < fuel + 1 := by
      rw [quote_plain word] at room
      simp at room
      omega
    exact readArray_last (readsItem_plain word (by decide) (by decide) rest depth width gap)
  | item :: next :: items, plain =>
    refine ⟨'\n' :: ((item :: next :: items).flatMap tomlItem ++ [']']),by simp [tomlArray],?_⟩
    intro fuel room
    rw [List.length_cons,List.length_append,List.length_singleton] at room
    rw [List.cons_append,List.append_assoc,List.singleton_append]
    exact readArray_items plain rest depth (by omega)

theorem skipSpace_array (items : List Text) (rest : Text) :
    skipSpace (tomlArray items ++ rest) = tomlArray items ++ rest := by
  match items with
  | [] => rfl
  | [_] => rfl
  | _ :: _ :: _ => rfl

theorem readValue_array {items : List Text} (plain : ∀ item ∈ items, PlainWord item) (rest : Text)
    (depth : Nat) {fuel : Nat} (room : (tomlArray items).length + 3 ≤ fuel) :
    readValue fuel (depth + 1) (tomlArray items ++ rest) = some (.array (items.map .string),rest) := by
  obtain ⟨inner,cut,read⟩ := readArray_written plain rest depth
  rw [cut,List.length_cons] at room
  obtain ⟨fuel,rfl⟩ := Nat.exists_eq_add_one_of_ne_zero (Nat.ne_zero_of_lt (show 0 < fuel by omega))
  rw [cut,List.cons_append,readValue,if_neg (by decide),if_pos rfl,if_neg (Nat.succ_ne_zero depth),
    Nat.add_sub_cancel,read fuel (by omega)]
  rfl

end SpecLint.Toml
