import SpecLint.Proofs.Text.Lines
import SpecLint.Proofs.Text.Prefix
import SpecLint.Signature

namespace SpecLint
open Text

namespace Signature

-- The pieces of a line `name (inputs) → type` in their order, with the blanks between them.
structure Pieces where
  name : Text
  gap : Text
  between : Text
  space : Text
  arrow : Text
  result : Text

-- What a line must be made of to be a signature, without a word on how it is read.
structure Cuts (line : Text) (pieces : Pieces) : Prop where
  whole : line = pieces.name ++ pieces.gap ++ "(".toList ++ pieces.between ++ ")".toList ++
    pieces.space ++ pieces.arrow ++ pieces.result
  named : pieces.name ≠ []
  nameChars : ∀ c ∈ pieces.name, c.isAlphanum = true ∨ c = '_'
  gap : ∀ c ∈ pieces.gap, isBlank c = true
  between : ')' ∉ pieces.between
  space : ∀ c ∈ pieces.space, isBlank c = true
  arrow : pieces.arrow = "→".toList ∨ pieces.arrow = "->".toList
  result : ∃ c ∈ pieces.result, isBlank c = false

theorem isNameChar_exact (c : Char) : isNameChar c = true ↔ c.isAlphanum = true ∨ c = '_' := by
  simp only [isNameChar,Bool.or_eq_true,beq_iff_eq]

theorem nameChar_exact (c : Char) : isNameChar c = true ↔ (65 ≤ c.toNat ∧ c.toNat ≤ 90) ∨
    (97 ≤ c.toNat ∧ c.toNat ≤ 122) ∨ (48 ≤ c.toNat ∧ c.toNat ≤ 57) ∨ c = '_' := by
  have upper : c.isUpper = true ↔ 65 ≤ c.toNat ∧ c.toNat ≤ 90 := decide_eq_true_iff
  have lower : c.isLower = true ↔ 97 ≤ c.toNat ∧ c.toNat ≤ 122 :=
    Bool.and_eq_true_iff.trans (and_congr decide_eq_true_iff decide_eq_true_iff)
  have digit : c.isDigit = true ↔ 48 ≤ c.toNat ∧ c.toNat ≤ 57 :=
    Bool.and_eq_true_iff.trans (and_congr decide_eq_true_iff decide_eq_true_iff)
  rw [← upper,← lower,← digit]
  change (((c.isUpper || c.isLower) || c.isDigit) || c == '_') = true ↔ _
  simp only [Bool.or_eq_true,beq_iff_eq,or_assoc]

theorem nameChar_visible {c : Char} (part : isNameChar c = true) : isBlank c = false := by
  have code : 33 ≤ c.toNat ∧ c.toNat ≤ 122 := by
    rcases (nameChar_exact c).mp part with upper | lower | digit | line
    · omega
    · omega
    · omega
    · subst line
      decide
  simp only [isBlank,Bool.or_eq_false_iff,Bool.and_eq_false_iff,decide_eq_false_iff_not,
    beq_eq_false_iff_ne]
  omega

theorem afterArrow?_exact (text rest : Text) : afterArrow? text = some rest ↔
    ∃ arrow, (arrow = "→".toList ∨ arrow = "->".toList) ∧ text = arrow ++ rest := by
  have wide : "→".toList = ['→'] := rfl
  have narrow : "->".toList = ['-','>'] := rfl
  simp only [wide,narrow]
  constructor
  · intro found
    unfold afterArrow? at found
    split at found
    · cases found
      exact ⟨['→'],.inl rfl,rfl⟩
    · cases found
      exact ⟨['-','>'],.inr rfl,rfl⟩
    · cases found
  · intro parts
    obtain ⟨arrow,rfl | rfl,rfl⟩ := parts
    · rfl
    · rfl

theorem trim_filled {text : Text} : trim text ≠ [] ↔ ∃ c ∈ text, isBlank c = false := by
  rw [ne_eq,trim_eq_nil]
  simp

namespace Cuts
variable {line : Text} {pieces : Pieces}

theorem joined (cuts : Cuts line pieces) : line = pieces.name ++ (pieces.gap ++ '(' ::
    (pieces.between ++ ')' :: (pieces.space ++ (pieces.arrow ++ pieces.result)))) := by
  have opening : "(".toList = ['('] := rfl
  have closing : ")".toList = [')'] := rfl
  have whole := cuts.whole
  simpa only [opening,closing,List.append_assoc,List.cons_append,List.nil_append] using whole

-- Each piece ends where the class of its characters ends, so its reader stops at its end.
theorem name_all (cuts : Cuts line pieces) : ∀ c ∈ pieces.name, isNameChar c = true :=
  fun c member => (isNameChar_exact c).mpr (cuts.nameChars c member)

theorem name_stops (cuts : Cuts line pieces) (rest : Text) :
    ∀ c, (pieces.gap ++ '(' :: rest).head? = some c → isNameChar c = false := by
  intro c first
  cases gap : pieces.gap with
  | nil =>
    rw [gap] at first
    cases Option.some.inj first
    decide
  | cons d gaps =>
    rw [gap] at first
    cases Option.some.inj first
    have blank : isBlank c = true := cuts.gap c (by simp [gap])
    cases part : isNameChar c with
    | false => rfl
    | true => rw [nameChar_visible part] at blank; cases blank

theorem space_stops (cuts : Cuts line pieces) :
    ∀ c, (pieces.arrow ++ pieces.result).head? = some c → isBlank c = false := by
  intro c first
  rcases cuts.arrow with wide | narrow
  · rw [wide] at first
    cases Option.some.inj first
    decide
  · rw [narrow] at first
    cases Option.some.inj first
    decide

theorem between_all (cuts : Cuts line pieces) : ∀ c ∈ pieces.between, (c != ')') = true := by
  intro c member
  have other : c ≠ ')' := ne_of_mem_of_not_mem member cuts.between
  simpa using other

theorem arrow_read (cuts : Cuts line pieces) :
    afterArrow? (pieces.arrow ++ pieces.result) = some pieces.result :=
  (afterArrow?_exact _ _).mpr ⟨pieces.arrow,cuts.arrow,rfl⟩

end Cuts

theorem opening_visible (rest : Text) : ∀ c, ('(' :: rest).head? = some c → isBlank c = false := by
  intro c first
  cases Option.some.inj first
  decide

theorem closing_stops (rest : Text) : ∀ c, (')' :: rest).head? = some c → (c != ')') = false := by
  intro c first
  cases Option.some.inj first
  decide

-- A line is cut into its pieces in one way.
theorem cuts_unique {line : Text} {first second : Pieces} (left : Cuts line first)
    (right : Cuts line second) : first = second := by
  have lines := left.joined.symm.trans right.joined
  obtain ⟨name,lines⟩ := span_unique left.name_all (left.name_stops _) right.name_all (right.name_stops _) lines
  obtain ⟨gap,lines⟩ := span_unique left.gap (opening_visible _) right.gap (opening_visible _) lines
  obtain ⟨between,lines⟩ := span_unique left.between_all (closing_stops _) right.between_all (closing_stops _)
    (List.cons.inj lines).2
  obtain ⟨space,lines⟩ := span_unique left.space left.space_stops right.space right.space_stops
    (List.cons.inj lines).2
  have result : first.result = second.result := by
    have read := left.arrow_read
    rw [lines,right.arrow_read] at read
    exact (Option.some.inj read).symm
  rw [result] at lines
  have arrow : first.arrow = second.arrow := List.append_cancel_right lines
  cases first
  cases second
  simp_all only

theorem ofLine?_cuts {line : Text} {pieces : Pieces} (cuts : Cuts line pieces) : ofLine? line =
    some ⟨line,pieces.name,splitInputs pieces.between,trim pieces.result⟩ := by
  have lines := cuts.joined
  generalize closed : pieces.space ++ (pieces.arrow ++ pieces.result) = tail at lines
  generalize opened : pieces.between ++ ')' :: tail = inner at lines
  obtain ⟨name,below⟩ := span_word cuts.name_all (cuts.name_stops inner)
  obtain ⟨_,bracket⟩ := span_word cuts.gap (opening_visible inner)
  obtain ⟨between,ending⟩ := span_word cuts.between_all (closing_stops tail)
  obtain ⟨_,arrow⟩ := span_word cuts.space cuts.space_stops
  have filled : trim pieces.result ≠ [] := trim_filled.mpr cuts.result
  rw [← lines] at name below
  rw [opened] at between ending
  rw [closed] at arrow
  unfold ofLine?
  simp [name,below,trimStart,bracket,after?,between,ending,arrow,cuts.arrow_read,cuts.named,filled]

theorem cuts_ofLine? {line : Text} {signature : Signature} (found : ofLine? line = some signature) :
    ∃ pieces, Cuts line pieces := by
  unfold ofLine? at found
  simp only [Option.bind_eq_bind,Option.bind_eq_some_iff] at found
  obtain ⟨opened,opens,closed,closes,result,arrives,some⟩ := found
  have named := (after?_exact _ _ _).mp opens
  have bracket := (after?_exact _ _ _).mp closes
  obtain ⟨arrow,kind,pointed⟩ := (afterArrow?_exact _ _).mp arrives
  split at some
  · cases some
  · rename_i filled
    simp only [Bool.or_eq_true,List.isEmpty_iff,not_or] at filled
    refine ⟨⟨line.takeWhile isNameChar,(line.dropWhile isNameChar).takeWhile isBlank,
      opened.takeWhile (· != ')'),closed.takeWhile isBlank,arrow,result⟩,?_,filled.1,?_,?_,?_,?_,kind,
      trim_filled.mp filled.2⟩
    · have first : line.takeWhile isNameChar ++ line.dropWhile isNameChar = line :=
        List.takeWhile_append_dropWhile
      have second : (line.dropWhile isNameChar).takeWhile isBlank ++ trimStart (line.dropWhile isNameChar) =
        line.dropWhile isNameChar := List.takeWhile_append_dropWhile
      have third : opened.takeWhile (· != ')') ++ opened.dropWhile (· != ')') = opened :=
        List.takeWhile_append_dropWhile
      have fourth : closed.takeWhile isBlank ++ trimStart closed = closed := List.takeWhile_append_dropWhile
      rw [named] at second
      rw [bracket] at third
      rw [pointed] at fourth
      conv => lhs; rw [← first,← second,← third,← fourth]
      simp [List.append_assoc]
    · intro c member
      exact (isNameChar_exact c).mp (List.mem_takeWhile_imp member)
    · intro c member
      exact List.mem_takeWhile_imp member
    · intro member
      simpa using List.mem_takeWhile_imp member
    · intro c member
      exact List.mem_takeWhile_imp member

end Signature
end SpecLint
