import Mathlib.Data.List.TakeWhile
import SpecLint.Text.Lines

namespace SpecLint.Text

theorem byteLength_append (left right : Text) :
    byteLength (left ++ right) = byteLength left + byteLength right := by
  induction left with
  | nil => simp [byteLength]
  | cons c left ih =>
    simp only [List.cons_append,byteLength,ih]
    omega

-- No character is empty, so a part of a text that has no bytes has no characters.
theorem byteLength_eq_zero {text : Text} : byteLength text = 0 ↔ text = [] := by
  cases text with
  | nil => simp [byteLength]
  | cons c text =>
    have := c.utf8Size_pos
    simp only [byteLength,reduceCtorEq,iff_false]
    omega

theorem takeWhile_before {c : Char} {before : Text} (plain : c ∉ before) (after : Text) :
    (before ++ c :: after).takeWhile (· != c) = before := by
  rw [List.takeWhile_append_of_pos (by intro d member; simpa using ne_of_mem_of_not_mem member plain)]
  simp

theorem dropWhile_before {c : Char} {before : Text} (plain : c ∉ before) (after : Text) :
    (before ++ c :: after).dropWhile (· != c) = c :: after := by
  rw [List.dropWhile_append_of_pos (by intro d member; simpa using ne_of_mem_of_not_mem member plain)]
  simp

-- A word ends where the first character of another kind stands.
theorem span_word {kind : Char → Bool} {word rest : Text} (all : ∀ c ∈ word, kind c = true)
    (stops : ∀ c, rest.head? = some c → kind c = false) :
    (word ++ rest).takeWhile kind = word ∧ (word ++ rest).dropWhile kind = rest := by
  rw [List.takeWhile_append_of_pos all,List.dropWhile_append_of_pos all]
  cases rest with
  | nil => exact ⟨List.append_nil _,rfl⟩
  | cons c rest =>
    have other : ¬kind c = true := by simp [stops c rfl]
    rw [List.takeWhile_cons_of_neg other,List.dropWhile_cons_of_neg other,List.append_nil]
    exact ⟨rfl,rfl⟩

theorem span_unique {kind : Char → Bool} {word rest other tail : Text} (all : ∀ c ∈ word, kind c = true)
    (stops : ∀ c, rest.head? = some c → kind c = false) (others : ∀ c ∈ other, kind c = true)
    (ends : ∀ c, tail.head? = some c → kind c = false) (same : word ++ rest = other ++ tail) :
    word = other ∧ rest = tail := by
  obtain ⟨taken,left⟩ := span_word all stops
  obtain ⟨again,kept⟩ := span_word others ends
  rw [same] at taken left
  exact ⟨taken.symm.trans again,left.symm.trans kept⟩

theorem split_eq_splitOn (separator : Char) (text : Text) :
    split separator text = text.splitOn separator := by
  induction text with
  | nil => rfl
  | cons c text ih =>
    rw [split,List.splitOn_cons_eq_if_modifyHead,ih]
    simp

theorem split_ne_nil (separator : Char) (text : Text) : split separator text ≠ [] := by
  rw [split_eq_splitOn]
  exact List.splitOn_ne_nil separator text

theorem split_plain {separator : Char} {text : Text} (plain : separator ∉ text) :
    split separator text = [text] := by
  rw [split_eq_splitOn]
  exact List.splitOn_eq_singleton plain

theorem split_append (separator : Char) (left right : Text) :
    split separator (left ++ separator :: right) = split separator left ++ split separator right := by
  simp only [split_eq_splitOn]
  exact List.splitOn_append_cons_self left right

theorem split_line {separator : Char} {line : Text} (plain : separator ∉ line) (rest : Text) :
    split separator (line ++ separator :: rest) = line :: split separator rest := by
  rw [split_append,split_plain plain,List.singleton_append]

theorem join_split (separator : Char) (text : Text) :
    join [separator] (split separator text) = text := by
  rw [split_eq_splitOn]
  exact List.intercalate_splitOn separator

theorem split_before {separator : Char} {before text first : Text} {rest : List Text}
    (plain : separator ∉ before) (cut : split separator text = first :: rest) :
    split separator (before ++ text) = (before ++ first) :: rest := by
  induction before with
  | nil => exact cut
  | cons c before ih =>
    have other : c ≠ separator := by
      intro same
      simp [same] at plain
    have below : separator ∉ before := fun member => plain (List.mem_cons_of_mem _ member)
    rw [List.cons_append,split,if_neg other,ih below]
    rfl

theorem split_join {separator : Char} {parts : List Text} (some : parts ≠ [])
    (plain : ∀ part ∈ parts, separator ∉ part) : split separator (join [separator] parts) = parts := by
  rw [split_eq_splitOn]
  exact List.splitOn_intercalate separator plain some

theorem split_parts {separator : Char} {text part : Text} (member : part ∈ split separator text) :
    separator ∉ part := by
  induction text generalizing part with
  | nil =>
    have empty : part = [] := by simpa [split] using member
    simp [empty]
  | cons c text ih =>
    rw [split] at member
    split at member
    · rcases List.mem_cons.mp member with rfl | below
      · simp
      · exact ih below
    · rename_i other
      obtain ⟨head,tail,cut⟩ := List.exists_cons_of_ne_nil (split_ne_nil separator text)
      rw [cut,List.modifyHead_cons] at member
      rcases List.mem_cons.mp member with rfl | below
      · have plain : separator ∉ head := ih (by simp [cut])
        simp [Ne.symm other,plain]
      · exact ih (by simp [cut,below])

theorem split_length (separator : Char) (text : Text) :
    (split separator text).length = text.count separator + 1 := by
  induction text with
  | nil => rfl
  | cons c text ih =>
    rw [split]
    split
    · rename_i same
      rw [List.length_cons,ih,same,List.count_cons_self]
    · rename_i other
      rw [List.length_modifyHead,ih,List.count_cons_of_ne other]

theorem split_flatten (separator : Char) (text : Text) :
    (split separator text).flatten = text.filter (· != separator) := by
  induction text with
  | nil => rfl
  | cons c text ih =>
    rw [split]
    split
    · rename_i same
      simp [same,ih]
    · rename_i other
      obtain ⟨head,tail,cut⟩ := List.exists_cons_of_ne_nil (split_ne_nil separator text)
      rw [cut] at ih
      rw [cut,List.modifyHead_cons,List.flatten_cons,List.cons_append,← List.flatten_cons,ih]
      simp [other]

theorem split_sublist {separator : Char} {text part : Text} (member : part ∈ split separator text) :
    part.Sublist text := by
  apply (List.sublist_flatten_of_mem member).trans
  rw [split_flatten]
  exact List.filter_sublist

theorem split_head (separator : Char) (text : Text) :
    (split separator text).head? = some (text.takeWhile (· != separator)) := by
  induction text with
  | nil => rfl
  | cons c text ih =>
    rw [split]
    split
    · rename_i same
      simp [same]
    · rename_i other
      rw [List.head?_modifyHead,ih]
      simp [other]

-- The text of lines that each end in a line feed.
def ended (lines : List Text) : Text := lines.flatMap (· ++ ['\n'])

theorem ended_cons (line : Text) (rest : List Text) :
    ended (line :: rest) = line ++ '\n' :: ended rest := by
  simp [ended]

theorem ended_append (first second : List Text) : ended (first ++ second) = ended first ++ ended second :=
  List.flatMap_append

theorem byteLength_ended_cons (line : Text) (rest : List Text) :
    byteLength (ended (line :: rest)) = byteLength line + 1 + byteLength (ended rest) := by
  rw [ended_cons,byteLength_append,byteLength,show '\n'.utf8Size = 1 from rfl]
  omega

theorem join_cons (glue : Text) (line : Text) (rest : List Text) (more : rest ≠ []) :
    join glue (line :: rest) = line ++ glue ++ join glue rest :=
  List.intercalate_cons_of_ne_nil more

theorem join_avoids {c : Char} {glue : Text} {parts : List Text} (between : c ∉ glue)
    (plain : ∀ part ∈ parts, c ∉ part) : c ∉ join glue parts := by
  induction parts with
  | nil => simp [join]
  | cons part parts ih =>
    have first := plain part (by simp)
    have below := ih (fun other member => plain other (by simp [member]))
    cases parts with
    | nil => simpa [join] using first
    | cons next parts =>
      rw [join_cons _ _ _ (by simp)]
      simp [first,between,below]

-- Texts that are joined keep their own parts.
theorem split_join_texts (separator : Char) {texts : List Text} (some : texts ≠ []) :
    split separator (join [separator] texts) = texts.flatMap (split separator) := by
  induction texts with
  | nil => contradiction
  | cons text texts ih =>
    cases texts with
    | nil => simp [join]
    | cons next texts =>
      rw [join_cons _ _ _ (by simp),List.append_assoc,List.singleton_append,split_append,ih (by simp)]
      rfl

-- What stands above a line is ended; the last line has no line feed behind it.
theorem join_above (above : List Text) (line : Text) (below : List Text) :
    join ['\n'] (above ++ line :: below) = ended above ++ join ['\n'] (line :: below) := by
  induction above with
  | nil => rfl
  | cons head above ih =>
    rw [List.cons_append,join_cons _ _ _ (by simp),ih,ended_cons]
    simp

theorem ended_eq_join {lines : List Text} (some : lines ≠ []) :
    ended lines = join ['\n'] lines ++ ['\n'] := by
  induction lines with
  | nil => contradiction
  | cons line lines ih =>
    cases lines with
    | nil => simp [ended,join]
    | cons next lines =>
      rw [ended_cons,ih (by simp),join_cons ['\n'] line _ (by simp)]
      simp

theorem split_above {lines : List Text} (plain : ∀ line ∈ lines, '\n' ∉ line) (below : Text) :
    split '\n' (ended lines ++ below) = lines ++ split '\n' below := by
  induction lines with
  | nil => rfl
  | cons line rest ih =>
    rw [ended_cons,List.append_assoc,List.cons_append,split_line (plain line (by simp)),
      ih fun other member => plain other (by simp [member])]
    rfl

-- Cutting ended lines apart gives an empty line behind the last of them.
theorem split_ended {lines : List Text} (plain : ∀ line ∈ lines, '\n' ∉ line) :
    split '\n' (ended lines) = lines ++ [[]] := by
  have cut := split_above plain []
  rwa [List.append_nil] at cut

theorem ended_split (text : Text) : ended (split '\n' text) = text ++ ['\n'] := by
  induction text with
  | nil => rfl
  | cons c text ih =>
    rw [split]
    split
    · rename_i same
      simp [ended_cons,ih,same]
    · obtain ⟨head,tail,cut⟩ := List.exists_cons_of_ne_nil (split_ne_nil '\n' text)
      rw [cut,ended_cons] at ih
      simp only [cut,List.modifyHead_cons,ended_cons,List.cons_append,ih]

theorem ended_lines {text : Text} (ends : text = [] ∨ text.getLast? = some '\n') :
    ∃ lines, text = ended lines ∧ ∀ line ∈ lines, '\n' ∉ line := by
  rcases ends with rfl | last
  · exact ⟨[],rfl,by simp⟩
  · obtain ⟨before,rfl⟩ := List.getLast?_eq_some_iff.mp last
    exact ⟨split '\n' before,(ended_split before).symm,fun _ member => split_parts member⟩

-- A text is one line, or a line above another text.
theorem lines_induction {motive : Text → Prop} (last : ∀ line, '\n' ∉ line → motive line)
    (above : ∀ line rest, '\n' ∉ line → motive rest → motive (line ++ '\n' :: rest)) (text : Text) :
    motive text := by
  have whole := join_split '\n' text
  have plain : ∀ line ∈ split '\n' text, '\n' ∉ line := fun _ member => split_parts member
  rw [← whole]
  generalize split '\n' text = parts at plain
  induction parts with
  | nil => exact last [] (by simp)
  | cons line rest ih =>
    have first := plain line (by simp)
    cases rest with
    | nil => simpa [join] using last line first
    | cons next rest =>
      have below := ih (fun other member => plain other (by simp [member]))
      rw [join_cons _ _ _ (by simp),List.append_assoc]
      exact above line _ first below

end SpecLint.Text
