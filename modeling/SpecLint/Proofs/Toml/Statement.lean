import SpecLint.Proofs.Toml.Array

namespace SpecLint.Toml
open Text

-- A key that needs no quotes.
def Bare (key : Text) : Prop := key ≠ [] ∧ ∀ c ∈ key, isBareChar c = true

instance (key : Text) : Decidable (Bare key) :=
  @instDecidableAnd _ _ inferInstance (List.decidableBAll _ key)

theorem bare_ne {c other : Char} (bare : isBareChar c = true) (mark : isBareChar other = false) :
    c ≠ other := by
  intro same
  rw [same,mark] at bare
  cases bare

theorem bare_firm {c : Char} (bare : isBareChar c = true) : Firm c := by
  have space := bare_ne bare (show isBareChar ' ' = false by decide)
  have tab := bare_ne bare (show isBareChar '\t' = false by decide)
  exact ⟨by simp [isSpace,space,tab],bare_ne bare (by decide),bare_ne bare (by decide),
    bare_ne bare (by decide)⟩

theorem readSimpleKey?_bare {key : Text} (bare : Bare key) {rest : Text}
    (stops : ∀ c, rest.head? = some c → isBareChar c = false) (fuel : Nat) :
    readSimpleKey? fuel (key ++ rest) = some (key,rest) := by
  obtain ⟨word,after⟩ := span_word bare.2 stops
  obtain ⟨c,more,rfl⟩ := List.exists_cons_of_ne_nil bare.1
  have first := bare.2 c List.mem_cons_self
  unfold readSimpleKey?
  split
  · rename_i same
    exact absurd (List.cons.inj same).1 (bare_ne first (by decide))
  · rename_i same
    exact absurd (List.cons.inj same).1 (bare_ne first (by decide))
  · rw [word,after]
    rfl

-- A key alone, before the sign of an assignment or the end of a header.
theorem readKey?_bare {key : Text} (bare : Bare key) {c : Char} (dot : c ≠ '.') {rest behind : Text}
    (stops : ∀ c, rest.head? = some c → isBareChar c = false) (skipped : skipSpace rest = c :: behind)
    (fuel : Nat) : readKey? (fuel + 1) (key ++ rest) = some ([key],c :: behind) := by
  have opening : skipSpace (key ++ rest) = key ++ rest := by
    obtain ⟨first,more,rfl⟩ := List.exists_cons_of_ne_nil bare.1
    exact skipSpace_firm (bare_firm (bare.2 first List.mem_cons_self)) _
  have path : readPath (fuel + 1) (key ++ rest) = some ([key],c :: behind) := by
    simp only [readPath,opening,readSimpleKey?_bare bare stops,skipped,Option.bind_eq_bind,Option.bind_some]
    split
    · rename_i same
      exact absurd (List.cons.inj same).1 dot
    · rfl
  simp only [readKey?,path,Option.bind_eq_bind,Option.bind_some]
  rfl

theorem readKey?_assign {key : Text} (bare : Bare key) (fuel : Nat) (value : Text) :
    readKey? (fuel + 1) (key ++ " = ".toList ++ value) = some ([key],'=' :: ' ' :: value) := by
  have stops : ∀ c, (" = ".toList ++ value).head? = some c → isBareChar c = false := by
    intro c first
    cases Option.some.inj first
    decide
  rw [List.append_assoc]
  exact readKey?_bare bare (by decide) stops rfl fuel

theorem readStatement?_assign {key : Text} (bare : Bare key) {value rest : Text} {read : Value} {fuel : Nat}
    (firm : skipSpace (value ++ '\n' :: rest) = value ++ '\n' :: rest)
    (reads : readValue (fuel + 1) (depthLimit - 1) (value ++ '\n' :: rest) = some (read,'\n' :: rest)) :
    readStatement? (fuel + 1) (key ++ " = ".toList ++ (value ++ '\n' :: rest)) =
      some (.assign [key] read,rest) := by
  have named := readKey?_assign bare fuel (value ++ '\n' :: rest)
  have skipped : skipSpace (' ' :: (value ++ '\n' :: rest)) = value ++ '\n' :: rest := firm
  have ended : endLine? ('\n' :: rest) = some rest := rfl
  obtain ⟨c,more,rfl⟩ := List.exists_cons_of_ne_nil bare.1
  have first : c ≠ '[' := bare_ne (bare.2 c List.mem_cons_self) (by decide)
  unfold readStatement?
  split
  · rename_i same
    exact absurd (List.cons.inj same).1 first
  · rename_i same
    exact absurd (List.cons.inj same).1 first
  · simp only [named,after?,if_true,skipped,reads,ended,Option.bind_eq_bind,Option.bind_some]
    rfl

-- A statement that begins at once is read, then those after it.
theorem readStatements_firm {c : Char} (firm : Firm c) {fuel : Nat} {text rest : Text} {statement : Statement}
    (read : readStatement? fuel (c :: text) = some (statement,rest)) :
    readStatements (fuel + 1) (c :: text) = (readStatements fuel rest).map (statement :: ·) := by
  have skipped := skipSpace_firm firm text
  obtain ⟨_,mark,feed,back⟩ := firm
  generalize later : readStatements fuel rest = statements
  unfold readStatements
  rw [skipped]
  split
  · rename_i none
    cases none
  · rename_i same
    exact absurd (List.cons.inj same).1 mark
  · rename_i same
    exact absurd (List.cons.inj same).1 feed
  · rename_i same
    exact absurd (List.cons.inj same).1 back
  · simp only [read,later,Option.bind_eq_bind,Option.bind_some]
    cases statements <;> rfl

theorem readStatements_assign {key : String} (bare : Bare key.toList) {value rest : Text} {read : Value}
    {fuel : Nat} (firm : skipSpace (value ++ '\n' :: rest) = value ++ '\n' :: rest)
    (reads : readValue (fuel + 1) (depthLimit - 1) (value ++ '\n' :: rest) = some (read,'\n' :: rest)) :
    readStatements (fuel + 2) (tomlLine key value ++ rest) =
      (readStatements (fuel + 1) rest).map (.assign [key.toList] read :: ·) := by
  have statement := readStatement?_assign bare firm reads
  have cut : tomlLine key value ++ rest = key.toList ++ " = ".toList ++ (value ++ '\n' :: rest) := by
    simp [tomlLine]
  obtain ⟨c,more,keyCut⟩ := List.exists_cons_of_ne_nil bare.1
  have opening := bare_firm (bare.2 c (by simp [keyCut]))
  rw [cut]
  rw [keyCut] at statement ⊢
  exact readStatements_firm opening statement

theorem readStatements_count {key : String} (bare : Bare key.toList) {n : Nat} (fits : n < signedLimit)
    (rest : Text) (fuel : Nat) : readStatements (fuel + 2) (tomlLine key (decimal n) ++ rest) =
      (readStatements (fuel + 1) rest).map (.assign [key.toList] (.integer n) :: ·) :=
  readStatements_assign bare (skipSpace_decimal n _) (readValue_decimal fits fuel _ rest)

theorem readStatements_texts {key : String} (bare : Bare key.toList) {items : List Text}
    (plain : ∀ item ∈ items, PlainWord item) (rest : Text) {fuel : Nat}
    (room : (tomlArray items).length + 3 ≤ fuel + 1) :
    readStatements (fuel + 2) (tomlLine key (tomlArray items) ++ rest) =
      (readStatements (fuel + 1) rest).map (.assign [key.toList] (.array (items.map .string)) :: ·) :=
  readStatements_assign bare (skipSpace_array items _) (readValue_array plain _ _ room)

theorem readStatements_header {key : Text} (bare : Bare key) (rest : Text) (fuel : Nat) :
    readStatements (fuel + 3) ('\n' :: '[' :: (key ++ ']' :: '\n' :: rest)) =
      (readStatements (fuel + 1) rest).map (.header [key] :: ·) := by
  have stops : ∀ c, (']' :: '\n' :: rest).head? = some c → isBareChar c = false := by
    intro c first
    cases Option.some.inj first
    decide
  have named := readKey?_bare bare (show ']' ≠ '.' by decide) stops rfl fuel
  have ended : endLine? ('\n' :: rest) = some rest := rfl
  have statement : readStatement? (fuel + 1) ('[' :: (key ++ ']' :: '\n' :: rest)) =
      some (.header [key],rest) := by
    obtain ⟨c,more,rfl⟩ := List.exists_cons_of_ne_nil bare.1
    have first : c ≠ '[' := bare_ne (bare.2 c List.mem_cons_self) (by decide)
    unfold readStatement?
    split
    · rename_i same
      exact absurd (List.cons.inj (List.cons.inj same).2).1 first
    · rename_i same
      cases (List.cons.inj same).2
      simp only [named,after?,if_true,ended,Option.bind_eq_bind,Option.bind_some]
      rfl
    · rename_i single
      exact absurd rfl (single _)
  exact readStatements_firm (by decide) statement

end SpecLint.Toml
