import SpecLint.Proofs.Text.Lines
import SpecLint.Proofs.Text.Lowercase

namespace SpecLint.Text

-- A text in small letters as far as these are ASCII. Texts of the same letters have one such form.
def asciiLower (text : Text) : Text := text.map Char.toLower

theorem capitals_letters : ∀ code ∈ List.range' 0x41 26, let c := Char.ofNat code
    c.isAlpha = true ∧ c.toLower.isAlpha = true ∧ isBlank c = false ∧ isBlank c.toLower = false := by
  decide

theorem toLower_other {d : Char} (other : d.isAlpha = false) (c : Char) : c.toLower = d ↔ c = d := by
  rcases toLower_cases c with same | capital
  · rw [same]
  · obtain ⟨large,small,_⟩ := capitals_letters c.toNat capital
    rw [Char.ofNat_toNat] at large small
    refine iff_of_false ?_ ?_
    · rintro rfl
      simp [other] at small
    · rintro rfl
      simp [other] at large

theorem toLower_blank (c : Char) : isBlank c.toLower = isBlank c := by
  rcases toLower_cases c with same | capital
  · rw [same]
  · obtain ⟨_,_,large,small⟩ := capitals_letters c.toNat capital
    rw [Char.ofNat_toNat] at large small
    rw [large,small]

theorem lowercase_asciiLower (text : Text) : lowercase (asciiLower text) = lowercase text :=
  lowerFrom_letters [] text

theorem asciiLower_eq_nil {text : Text} : asciiLower text = [] ↔ text = [] := List.map_eq_nil_iff

theorem asciiLower_isEmpty (text : Text) : (asciiLower text).isEmpty = text.isEmpty := by
  cases text <;> rfl

theorem asciiLower_length (text : Text) : (asciiLower text).length = text.length := List.length_map _

theorem blank_toLower : isBlank ∘ Char.toLower = isBlank := funext toLower_blank

theorem trimStart_asciiLower (text : Text) : trimStart (asciiLower text) = asciiLower (trimStart text) := by
  rw [trimStart,asciiLower,List.dropWhile_map,blank_toLower]
  rfl

theorem trim_asciiLower (text : Text) : trim (asciiLower text) = asciiLower (trim text) := by
  have turned : ∀ other : Text, (asciiLower other).reverse = asciiLower other.reverse := by
    intro other
    exact List.map_reverse.symm
  rw [trim,trimEnd_eq,trimStart_asciiLower,turned,trimStart_asciiLower,turned,← trimEnd_eq,trim]

theorem split_asciiLower {separator : Char} (other : separator.isAlpha = false) (text : Text) :
    split separator (asciiLower text) = (split separator text).map asciiLower := by
  induction text with
  | nil => rfl
  | cons c text ih =>
    change split separator (c.toLower :: asciiLower text) = _
    rw [split,split,ih]
    by_cases same : c = separator
    · rw [if_pos same,if_pos ((toLower_other other c).mpr same)]
      rfl
    · rw [if_neg same,if_neg (mt (toLower_other other c).mp same)]
      obtain ⟨head,tail,cut⟩ := List.exists_cons_of_ne_nil (split_ne_nil separator text)
      rw [cut]
      rfl

theorem dropReturn_asciiLower (line : Text) : dropReturn (asciiLower line) = asciiLower (dropReturn line) := by
  have ending : (asciiLower line).getLast? = some '\r' ↔ line.getLast? = some '\r' := by
    rw [asciiLower,List.getLast?_map]
    cases line.getLast? with
    | none => simp
    | some c => simp [toLower_other]
  unfold dropReturn
  by_cases returned : line.getLast? = some '\r'
  · rw [if_pos returned,if_pos (ending.mpr returned)]
    exact List.map_dropLast.symm
  · rw [if_neg returned,if_neg (mt ending.mp returned)]

theorem pieces_asciiLower (pieces : List Text) :
    linesOfPieces (pieces.map asciiLower) = (linesOfPieces pieces).map asciiLower := by
  induction pieces with
  | nil => rfl
  | cons piece pieces ih =>
    cases pieces with
    | nil =>
      rw [List.map_singleton,linesOfPieces,linesOfPieces,asciiLower_isEmpty]
      split <;> rfl
    | cons next pieces =>
      rw [List.map_cons] at ih
      rw [List.map_cons,List.map_cons,linesOfPieces,ih,dropReturn_asciiLower]
      · rfl
      · simp

theorem lines_asciiLower (text : Text) : lines (asciiLower text) = (lines text).map asciiLower := by
  rw [lines,split_asciiLower (by decide),pieces_asciiLower,lines]

theorem trimmedLines_asciiLower (text : Text) :
    trimmedLines (asciiLower text) = (trimmedLines text).map asciiLower := by
  have trimmed : trim ∘ asciiLower = asciiLower ∘ trim := funext trim_asciiLower
  have filled : (!List.isEmpty ·) ∘ asciiLower = (!List.isEmpty ·) := by
    funext line
    exact congrArg (!·) (asciiLower_isEmpty line)
  rw [trimmedLines,lines_asciiLower,List.map_map,trimmed,← List.map_map,List.filter_map,filled,trimmedLines]

-- Signs without any letter, which stand in a text at the same places whatever the case.
def Signs (part : Text) : Prop := ∀ c ∈ part, c.isAlpha = false

instance (part : Text) : Decidable (Signs part) := List.decidableBAll (fun c : Char => c.isAlpha = false) part

theorem after?_asciiLower {opening : Text} (signs : Signs opening) (text : Text) :
    after? opening (asciiLower text) = (after? opening text).map asciiLower := by
  induction opening generalizing text with
  | nil => rfl
  | cons d opening ih =>
    cases text with
    | nil => rfl
    | cons c text =>
      have first : d.isAlpha = false := signs d List.mem_cons_self
      have below := ih (fun e member => signs e (List.mem_cons_of_mem _ member)) text
      change after? (d :: opening) (c.toLower :: asciiLower text) = _
      rw [after?,after?,below]
      by_cases same : c = d
      · rw [if_pos same,if_pos ((toLower_other first c).mpr same)]
      · rw [if_neg same,if_neg (mt (toLower_other first c).mp same)]
        rfl

theorem startsWith_asciiLower {opening : Text} (signs : Signs opening) (text : Text) :
    startsWith opening (asciiLower text) = startsWith opening text := by
  rw [startsWith,after?_asciiLower signs,Option.isSome_map,startsWith]

theorem occurs_asciiLower {part : Text} (signs : Signs part) (text : Text) :
    occurs part (asciiLower text) = occurs part text := by
  induction text with
  | nil => rfl
  | cons c text ih =>
    have first := startsWith_asciiLower signs (c :: text)
    change occurs part (c.toLower :: asciiLower text) = _
    rw [occurs,occurs,ih,← first]
    rfl

theorem firstWord?_asciiLower (text : Text) : firstWord? (asciiLower text) = (firstWord? text).map asciiLower := by
  have shown : (fun c => !isBlank c) ∘ Char.toLower = fun c => !isBlank c := by
    funext c
    exact congrArg (!·) (toLower_blank c)
  unfold firstWord?
  rw [trimStart_asciiLower,asciiLower,List.takeWhile_map,shown]
  cases (trimStart text).takeWhile (fun c => !isBlank c) <;> rfl

end SpecLint.Text
