import SpecLint.Text.Basic

namespace SpecLint.Text

-- A word of digits and nothing else.
def Digits (word : Text) : Prop := ∀ c ∈ word, c.isDigit = true

theorem digit_ne {c other : Char} (digit : c.isDigit = true) (mark : other.isDigit = false) :
    c ≠ other := by
  intro same
  rw [same,mark] at digit
  cases digit

theorem decimal_digits (n : Nat) : Digits (decimal n) :=
  fun _ member => Nat.isDigit_of_mem_toDigits (by decide) (by decide) member

theorem decimal_avoids {c : Char} (mark : c.isDigit = false) (n : Nat) : c ∉ decimal n :=
  fun member => digit_ne (decimal_digits n c member) mark rfl

theorem decimalValue_decimal (n : Nat) : decimalValue (decimal n) = n := Nat.ofDigitChars_ten_toDigits

theorem decimal_ne_nil (n : Nat) : decimal n ≠ [] := Nat.toDigits_ne_nil

theorem decimal_step (n : Nat) : decimal n =
    if n < 10 then [Nat.digitChar n] else decimal (n / 10) ++ [Nat.digitChar (n % 10)] :=
  Nat.toDigits_eq_if (by decide)

-- A leading zero is all of the number.
theorem decimal_zero {n : Nat} (leading : (decimal n).head? = some '0') : n = 0 := by
  induction n using Nat.strongRecOn with
  | ind n ih =>
    rw [decimal_step] at leading
    split at leading
    · exact Nat.digitChar_eq_zero.mp (Option.some.inj leading)
    · rename_i large
      obtain ⟨c,rest,cut⟩ := List.exists_cons_of_ne_nil (decimal_ne_nil (n / 10))
      rw [cut,List.cons_append,List.head?_cons,← List.head?_cons,← cut] at leading
      have := ih (n / 10) (Nat.div_lt_self (by omega) (by decide)) leading
      omega

theorem decimal_leading {n : Nat} (leading : (decimal n).head? = some '0') : decimal n = ['0'] := by
  rw [decimal_zero leading]
  rfl

end SpecLint.Text
