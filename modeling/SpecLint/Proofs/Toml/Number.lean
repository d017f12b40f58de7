import SpecLint.Proofs.Text.Decimal
import SpecLint.Proofs.Text.Split
import SpecLint.Toml.Reader

namespace SpecLint.Toml
open Text

theorem after?_digits {word : Text} (digits : Digits word) {mark : Char} (other : mark.isDigit = false) :
    after? [mark] word = none := by
  cases word with
  | nil => rfl
  | cons c word => exact if_neg (digit_ne (digits c List.mem_cons_self) other)

theorem fixedDigits?_rest {count n : Nat} {word rest : Text} (read : fixedDigits? count word = some (n,rest)) :
    rest = word.drop count := by
  unfold fixedDigits? at read
  dsimp only at read
  split at read
  · exact (Prod.mk.inj (Option.some.inj read)).2.symm
  · cases read

theorem drop_digits {word : Text} (digits : Digits word) (count : Nat) : Digits (word.drop count) :=
  fun c member => digits c (List.mem_of_mem_drop member)

theorem within?_digits {low high n : Nat} {word rest : Text} (digits : Digits word)
    (read : within? low high word = some (n,rest)) : Digits rest := by
  unfold within? at read
  cases fixed : fixedDigits? 2 word with
  | none => simp [fixed] at read
  | some pair =>
    simp only [fixed,Option.bind_eq_bind,Option.bind_some] at read
    split at read
    · cases Option.some.inj read
      rw [fixedDigits?_rest fixed]
      exact drop_digits digits 2
    · cases read

-- Neither a date nor a time is made of digits alone.
theorem date?_digits {word : Text} (digits : Digits word) : date? word = none := by
  unfold date?
  cases fixed : fixedDigits? 4 word with
  | none => rfl
  | some pair =>
    obtain ⟨year,rest⟩ := pair
    have more : Digits rest := fixedDigits?_rest fixed ▸ drop_digits digits 4
    simp only [Option.bind_eq_bind,Option.bind_some,after?_digits more (show '-'.isDigit = false by decide)]
    rfl

theorem time?_digits {word : Text} (digits : Digits word) : time? word = none := by
  unfold time?
  cases hour : within? 0 23 word with
  | none => rfl
  | some pair =>
    obtain ⟨n,rest⟩ := pair
    have more := within?_digits digits hour
    simp only [Option.bind_eq_bind,Option.bind_some,after?_digits more (show ':'.isDigit = false by decide)]
    rfl

theorem grouped?_digits {word : Text} (digits : Digits word) (some : word ≠ []) :
    grouped? Char.isDigit word = .some word := by
  induction word with
  | nil => exact absurd rfl some
  | cons c word ih =>
    have digit := digits c List.mem_cons_self
    have tail : Digits word := fun d member => digits d (List.mem_cons_of_mem _ member)
    cases word with
    | nil => exact if_pos digit
    | cons d word =>
      have later := ih tail (List.cons_ne_nil _ _)
      unfold grouped?
      split
      · rename_i none
        cases none
      · rename_i single
        cases single
      · rename_i underscore
        have same := (List.cons.inj (List.cons.inj underscore).2).1
        exact absurd same (digit_ne (tail d List.mem_cons_self) (by decide))
      · rename_i same
        obtain ⟨rfl,rfl⟩ := List.cons.inj same
        rw [if_pos digit,later]
        rfl

theorem signed_digits {word : Text} (digits : Digits word) : Signed.ofText word = ⟨false,word⟩ := by
  unfold Signed.ofText
  split
  · exact absurd rfl (digit_ne (digits '-' List.mem_cons_self) (by decide))
  · exact absurd rfl (digit_ne (digits '+' List.mem_cons_self) (by decide))
  · rfl

theorem based?_digits {word : Text} (digits : Digits word) : based? word = none := by
  unfold based?
  split
  · exact absurd rfl (digit_ne (digits 'x' (by simp)) (by decide))
  · exact absurd rfl (digit_ne (digits 'o' (by simp)) (by decide))
  · exact absurd rfl (digit_ne (digits 'b' (by simp)) (by decide))
  · rfl

theorem special?_digits {word : Text} (digits : Digits word) : special? word = none := by
  have other : ∀ name : Text, 'n' ∈ name → word ≠ name := by
    intro name inside same
    exact digit_ne (digits 'n' (same ▸ inside)) (by decide) rfl
  have plain : ¬(word == "inf".toList || word == "nan".toList) = true := by
    rw [Bool.or_eq_true,beq_iff_eq,beq_iff_eq]
    exact not_or.mpr ⟨other _ (by decide),other _ (by decide)⟩
  rw [special?,signed_digits digits]
  exact if_neg plain

-- A fraction has a point or an exponent.
theorem fraction?_digits {word : Text} (digits : Digits word) : fraction? word = none := by
  have mantissa : ∀ c ∈ word, (!isExponentMark c) = true := by
    intro c member
    have small := digit_ne (digits c member) (show 'e'.isDigit = false by decide)
    have large := digit_ne (digits c member) (show 'E'.isDigit = false by decide)
    simp [isExponentMark,small,large]
  have whole : ∀ c ∈ word, (c != '.') = true := by
    intro c member
    simpa using digit_ne (digits c member) (show '.'.isDigit = false by decide)
  have kept : word.takeWhile (fun c => !isExponentMark c) = word := List.takeWhile_eq_self_iff.mpr mantissa
  have exponent : word.dropWhile (fun c => !isExponentMark c) = [] := List.dropWhile_eq_nil_iff.mpr mantissa
  have places : word.dropWhile (· != '.') = [] := List.dropWhile_eq_nil_iff.mpr whole
  simp only [fraction?,signed_digits digits,kept,exponent,places,Option.bind_eq_bind,Option.bind_some]
  cases wholeDigits? (word.takeWhile (· != '.')) <;> rfl

theorem wholeDigits?_decimal (n : Nat) : wholeDigits? (decimal n) = some (decimal n) := by
  have leading : ¬((decimal n).head? = some '0' ∧ decimal n ≠ ['0']) :=
    fun zero => zero.2 (decimal_leading zero.1)
  rw [wholeDigits?,if_neg leading]
  exact grouped?_digits (decimal_digits n) (decimal_ne_nil n)

theorem integer?_decimal {n : Nat} (fits : n < signedLimit) :
    integer? (decimal n) = some (.integer n) := by
  unfold integer?
  simp only [based?_digits (decimal_digits n),signed_digits (decimal_digits n),wholeDigits?_decimal,
    Option.bind_eq_bind,Option.bind_some,decimalValue_decimal]
  exact if_pos fits

theorem scalar?_decimal {n : Nat} (fits : n < signedLimit) :
    scalar? (decimal n) = some (.integer n) := by
  have digits := decimal_digits n
  have other : ∀ name : Text, 'e' ∈ name → decimal n ≠ name := by
    intro name inside same
    exact digit_ne (digits 'e' (same ▸ inside)) (by decide) rfl
  have moment : ¬(isDate (decimal n) || isTime (decimal n) || isJoinedMoment (decimal n)) = true := by
    simp only [isDate,isTime,isJoinedMoment,date?_digits digits,time?_digits digits]
    decide
  rw [scalar?,if_neg (other _ (by decide)),if_neg (other _ (by decide)),if_neg moment,
    special?_digits digits,fraction?_digits digits,integer?_decimal fits]
  rfl

theorem word_digits {word : Text} (digits : Digits word) : ∀ c ∈ word, isWordChar c = true := by
  intro c member
  have letter : c.isAlphanum = true := by simp [Char.isAlphanum,digits c member]
  simp [isWordChar,letter]

-- A number stands at the end of its line.
theorem readScalar?_decimal {n : Nat} (fits : n < signedLimit) (rest : Text) :
    readScalar? (decimal n ++ '\n' :: rest) = some (.integer n,'\n' :: rest) := by
  have stops : ∀ c, ('\n' :: rest).head? = some c → isWordChar c = false := by
    intro c first
    cases Option.some.inj first
    decide
  obtain ⟨word,after⟩ := span_word (word_digits (decimal_digits n)) stops
  simp only [readScalar?,word,after,scalar?_decimal fits]
  rfl

theorem decimal_cons (n : Nat) : ∃ c rest, decimal n = c :: rest ∧ c.isDigit = true := by
  obtain ⟨c,rest,cut⟩ := List.exists_cons_of_ne_nil (decimal_ne_nil n)
  exact ⟨c,rest,cut,decimal_digits n c (by simp [cut])⟩

theorem readValue_decimal {n : Nat} (fits : n < signedLimit) (fuel depth : Nat) (rest : Text) :
    readValue (fuel + 1) depth (decimal n ++ '\n' :: rest) = some (.integer n,'\n' :: rest) := by
  have read := readScalar?_decimal fits rest
  obtain ⟨c,more,cut,digit⟩ := decimal_cons n
  rw [cut,List.cons_append] at read ⊢
  have quotes : ¬(c = '"' ∨ c = '\'') := not_or.mpr ⟨digit_ne digit (by decide),digit_ne digit (by decide)⟩
  rw [readValue,if_neg quotes,if_neg (digit_ne digit (by decide)),if_neg (digit_ne digit (by decide)),read]

theorem skipSpace_decimal (n : Nat) (rest : Text) : skipSpace (decimal n ++ rest) = decimal n ++ rest := by
  obtain ⟨c,more,cut,digit⟩ := decimal_cons n
  have space : isSpace c = false := by
    simp [isSpace,digit_ne digit (show ' '.isDigit = false by decide),
      digit_ne digit (show '\t'.isDigit = false by decide)]
  rw [cut,List.cons_append]
  exact List.dropWhile_cons_of_neg (by simp [space])

end SpecLint.Toml
