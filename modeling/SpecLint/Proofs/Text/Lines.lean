import SpecLint.Proofs.Text.Split
import SpecLint.Proofs.Text.Trim

namespace SpecLint.Text

theorem trim_parts (text : Text) : ∃ before after, text = before ++ trim text ++ after ∧
    (∀ c ∈ before, isBlank c = true) ∧ ∀ c ∈ after, isBlank c = true := by
  have parts : (trimStart text).reverse = (trimStart text).reverse.takeWhile isBlank ++
      (trimStart text).reverse.dropWhile isBlank := List.takeWhile_append_dropWhile.symm
  have ending := congrArg List.reverse parts
  rw [List.reverse_reverse,List.reverse_append] at ending
  refine ⟨text.takeWhile isBlank,((trimStart text).reverse.takeWhile isBlank).reverse,?_,?_,?_⟩
  · rw [trim,trimEnd_eq,List.append_assoc]
    exact (List.takeWhile_append_dropWhile).symm.trans (congrArg _ ending)
  · intro c member
    exact List.mem_takeWhile_imp member
  · intro c member
    exact List.mem_takeWhile_imp (List.mem_reverse.mp member)

theorem trim_trim (text : Text) : trim (trim text) = trim text := by
  obtain ⟨before,after,whole,first,last⟩ := trim_parts text
  conv => rhs; rw [whole]
  rw [trim_after last,trim_before first]

theorem trim_eq_nil {text : Text} : trim text = [] ↔ ∀ c ∈ text, isBlank c = true := by
  constructor
  · intro nothing
    obtain ⟨before,after,whole,first,last⟩ := trim_parts text
    rw [nothing,List.append_nil] at whole
    rw [whole]
    intro c member
    rcases List.mem_append.mp member with above | below
    · exact first c above
    · exact last c below
  · intro blank
    have start : trimStart text = [] := trimStart_eq_nil.mpr blank
    rw [trim,start]
    rfl

theorem dropReturn_cases (line : Text) :
    dropReturn line = line ∨ line = dropReturn line ++ ['\r'] := by
  unfold dropReturn
  split
  · rename_i ending
    obtain ⟨before,rfl⟩ := List.getLast?_eq_some_iff.mp ending
    exact .inr (by simp)
  · exact .inl rfl

theorem dropReturn_sublist (line : Text) : (dropReturn line).Sublist line := by
  unfold dropReturn
  split
  · exact List.dropLast_sublist line
  · exact List.Sublist.refl line

theorem trim_dropReturn (line : Text) : trim (dropReturn line) = trim line := by
  rcases dropReturn_cases line with same | ending
  · rw [same]
  · conv => rhs; rw [ending]
    exact (trim_after (by simp [blank_return]) _).symm

theorem solid_pieces (pieces : List Text) : ((linesOfPieces pieces).map trim).filter (!·.isEmpty) =
    (pieces.map trim).filter (!·.isEmpty) := by
  induction pieces with
  | nil => rfl
  | cons piece pieces ih =>
    cases pieces with
    | nil =>
      unfold linesOfPieces
      split
      · rename_i empty
        rw [List.isEmpty_iff.mp empty]
        rfl
      · rfl
    | cons next pieces =>
      rw [linesOfPieces,List.map_cons,List.map_cons,List.filter_cons,List.filter_cons,ih,
        trim_dropReturn]
      simp

-- A line is what a piece between line feeds leaves of it.
theorem linesOfPieces_piece {pieces : List Text} {line : Text} (member : line ∈ linesOfPieces pieces) :
    ∃ piece ∈ pieces, line.Sublist piece := by
  induction pieces with
  | nil => cases member
  | cons piece pieces ih =>
    cases pieces with
    | nil =>
      unfold linesOfPieces at member
      split at member
      · cases member
      · cases List.mem_singleton.mp member
        exact ⟨line,List.mem_cons_self,List.Sublist.refl line⟩
    | cons next pieces =>
      rcases List.mem_cons.mp member with rfl | below
      · exact ⟨piece,List.mem_cons_self,dropReturn_sublist piece⟩
      · obtain ⟨inner,inside,part⟩ := ih below
        exact ⟨inner,List.mem_cons_of_mem _ inside,part⟩

theorem lines_sublist {text line : Text} (member : line ∈ lines text) : line.Sublist text := by
  obtain ⟨piece,inside,part⟩ := linesOfPieces_piece member
  exact part.trans (split_sublist inside)

theorem lines_oneLine {text line : Text} (member : line ∈ lines text) : '\n' ∉ line := by
  obtain ⟨piece,inside,part⟩ := linesOfPieces_piece member
  exact fun feed => split_parts inside (part.subset feed)

theorem firstLine_sublist (text : Text) : (firstLine text).Sublist text := by
  unfold firstLine
  cases cut : lines text with
  | nil => exact List.nil_sublist text
  | cons line rest => exact lines_sublist (by simp [cut])

-- The endings of the lines are trimmed away, so the pieces between line feeds will do.
theorem trimmedLines_split (text : Text) :
    trimmedLines text = ((split '\n' text).map trim).filter (!·.isEmpty) :=
  solid_pieces _

-- What is read from lines without looking at the blanks around them.
theorem filterMap_trimmedLines (read : Text → Option α) (around : ∀ line, read (trim line) = read line)
    (nothing : read [] = none) (text : Text) :
    (trimmedLines text).filterMap read = (lines text).filterMap read := by
  rw [trimmedLines,List.filterMap_filter,List.filterMap_map]
  congr 1
  funext line
  rw [Function.comp_apply]
  split
  · exact around line
  · rename_i empty
    have blank : trim line = [] := by simpa using empty
    rw [← around line,blank,nothing]

theorem trimmedLines_append (text rest : Text) :
    trimmedLines (text ++ '\n' :: rest) = trimmedLines text ++ trimmedLines rest := by
  simp only [trimmedLines_split,split_append,List.map_append,List.filter_append]

theorem trimmedLines_join (lines : List Text) :
    trimmedLines (join ['\n'] lines) = lines.flatMap trimmedLines := by
  induction lines with
  | nil => rfl
  | cons line rest ih =>
    cases rest with
    | nil => rw [join,List.intercalate_singleton,List.flatMap_singleton]
    | cons next rest =>
      rw [join_cons _ _ _ (by simp),List.append_assoc,List.singleton_append,trimmedLines_append,ih,
        ← List.flatMap_cons]

theorem trimmedLines_line {line : Text} (noFeed : '\n' ∉ line) :
    trimmedLines line = [trim line].filter (!·.isEmpty) := by
  rw [trimmedLines_split,split_plain noFeed,List.map_singleton]

theorem trimmedLines_solid {lines : List Text} (solid : ∀ line ∈ lines, Solid line) :
    trimmedLines (join ['\n'] lines) = lines := by
  rw [trimmedLines_join]
  induction lines with
  | nil => rfl
  | cons line rest ih =>
    have first := solid line List.mem_cons_self
    rw [List.flatMap_cons,ih fun other member => solid other (List.mem_cons_of_mem _ member),
      trimmedLines_line first.oneLine,first.trimmed,List.filter_cons_of_pos (by simp [first.some])]
    rfl

theorem trimmedLines_cons {c : Char} (blank : isBlank c = true) (text : Text) :
    trimmedLines (c :: text) = trimmedLines text := by
  by_cases feed : c = '\n'
  · subst feed
    exact trimmedLines_append [] text
  · have other : '\n' ≠ c := Ne.symm feed
    induction text using lines_induction with
    | last line noFeed =>
      rw [trimmedLines_line (by simp [other,noFeed]),trimmedLines_line noFeed,trim_cons blank]
    | above line rest noFeed =>
      rw [← List.cons_append,trimmedLines_append,trimmedLines_append,
        trimmedLines_line (by simp [other,noFeed]),trimmedLines_line noFeed,trim_cons blank]

theorem trimmedLines_before {before : Text} (blank : ∀ c ∈ before, isBlank c = true) (text : Text) :
    trimmedLines (before ++ text) = trimmedLines text := by
  induction before with
  | nil => rfl
  | cons c before ih =>
    rw [List.cons_append,trimmedLines_cons (blank c (by simp))]
    exact ih (fun d member => blank d (by simp [member]))

theorem trimmedLines_concat {c : Char} (blank : isBlank c = true) (text : Text) :
    trimmedLines (text ++ [c]) = trimmedLines text := by
  by_cases feed : c = '\n'
  · subst feed
    rw [trimmedLines_append]
    exact List.append_nil _
  · have other : '\n' ≠ c := Ne.symm feed
    induction text using lines_induction with
    | last line noFeed =>
      rw [trimmedLines_line (by simp [other,noFeed]),trimmedLines_line noFeed,
        trim_after (by simpa using blank)]
    | above line rest noFeed ih =>
      rw [List.append_assoc,List.cons_append,trimmedLines_append,trimmedLines_append,ih]

theorem trimmedLines_after {after : Text} (blank : ∀ c ∈ after, isBlank c = true) (text : Text) :
    trimmedLines (text ++ after) = trimmedLines text := by
  induction after generalizing text with
  | nil => rw [List.append_nil]
  | cons c after ih =>
    have below := ih (fun d member => blank d (by simp [member])) (text ++ [c])
    rw [List.append_assoc,List.singleton_append] at below
    rw [below,trimmedLines_concat (blank c (by simp))]

theorem trimmedLines_trim (text : Text) : trimmedLines (trim text) = trimmedLines text := by
  obtain ⟨before,after,whole,first,last⟩ := trim_parts text
  conv => rhs; rw [whole]
  rw [trimmedLines_after last,trimmedLines_before first]

theorem trimmedLines_eq_nil {text : Text} : trimmedLines text = [] ↔ trim text = [] := by
  rw [trim_eq_nil]
  induction text using lines_induction with
  | last line noFeed =>
    rw [trimmedLines_line noFeed,← trim_eq_nil]
    simp
  | above line rest noFeed ih =>
    rw [trimmedLines_append,List.append_eq_nil_iff,ih,trimmedLines_line noFeed]
    have first : [trim line].filter (!·.isEmpty) = [] ↔ ∀ c ∈ line, isBlank c = true := by
      rw [← trim_eq_nil]
      simp
    simp only [first,List.mem_append,List.mem_cons]
    constructor
    · intro both c member
      rcases member with above | rfl | below
      · exact both.1 c above
      · exact blank_lineFeed
      · exact both.2 c below
    · intro all
      exact ⟨fun c member => all c (.inl member),fun c member => all c (.inr (.inr member))⟩

theorem firstLine_append {line : Text} (noFeed : '\n' ∉ line) (rest : Text) :
    firstLine (line ++ '\n' :: rest) = dropReturn line := by
  obtain ⟨next,below,cut⟩ := List.exists_cons_of_ne_nil (split_ne_nil '\n' rest)
  rw [firstLine,lines,split_line noFeed,cut]
  rfl

theorem firstLine_line {line : Text} (noFeed : '\n' ∉ line) : firstLine line = line := by
  rw [firstLine,lines,split_plain noFeed,linesOfPieces]
  split
  · rename_i empty
    exact (List.isEmpty_iff.mp empty).symm
  · rfl

-- The first line of a trimmed text is not blank, so it is the first of those that are left.
theorem trim_firstLine {text : Text} (trimmed : trim text = text) :
    trim (firstLine text) = (trimmedLines text).headD [] := by
  induction text using lines_induction with
  | last line noFeed =>
    rw [firstLine_line noFeed,trimmedLines_line noFeed,trimmed]
    cases line <;> rfl
  | above line rest noFeed =>
    have some : trim line ≠ [] := by
      intro nothing
      have head := (trim_eq_self.mp trimmed).1
      cases line with
      | nil => exact absurd (head '\n' rfl) (by decide)
      | cons c line =>
        have blank := trim_eq_nil.mp nothing c (by simp)
        rw [head c rfl] at blank
        cases blank
    rw [firstLine_append noFeed,trim_dropReturn,trimmedLines_append,trimmedLines_line noFeed]
    simp [some]

theorem firstWord?_sublist {text word : Text} (first : firstWord? text = some word) : word.Sublist text := by
  unfold firstWord? at first
  split at first
  · cases first
  · cases first
    exact (List.takeWhile_sublist _).trans (trimStart_sublist text)

theorem firstWord?_before {before : Text} (blank : ∀ c ∈ before, isBlank c = true) (text : Text) :
    firstWord? (before ++ text) = firstWord? text := by
  rw [firstWord?,trimStart_before blank,firstWord?]

theorem firstWord?_append {c : Char} (blank : isBlank c = true) (text rest : Text) :
    firstWord? (text ++ c :: rest) = (firstWord? text).or (firstWord? rest) := by
  cases start : trimStart text with
  | nil =>
    have opening : ∀ d ∈ text ++ [c], isBlank d = true := by
      intro d member
      rcases List.mem_append.mp member with inside | last
      · exact trimStart_eq_nil.mp start d inside
      · rw [List.mem_singleton.mp last]
        exact blank
    have nothing : firstWord? text = none := by
      rw [firstWord?,start]
      rfl
    have skipped := firstWord?_before opening rest
    rw [List.append_assoc,List.singleton_append] at skipped
    rw [nothing,skipped,Option.none_or]
  | cons d kept =>
    have first : isBlank d = false := by
      have stop := List.head?_dropWhile_not isBlank text
      rw [trimStart] at start
      rw [start] at stop
      simpa using stop
    have word : (d :: kept ++ c :: rest).takeWhile (fun e => !isBlank e) =
        (d :: kept).takeWhile (fun e => !isBlank e) := by
      rw [List.takeWhile_append]
      split
      · rename_i whole
        rw [List.takeWhile_cons_of_neg (by simp [blank]),List.append_nil]
        exact ((List.takeWhile_prefix _).eq_of_length whole).symm
      · rfl
    have joined : trimStart (text ++ c :: rest) = d :: kept ++ c :: rest := by
      rw [trimStart] at start
      rw [trimStart,List.dropWhile_append,start]
      rfl
    rw [firstWord?,firstWord?,joined,word,start,List.takeWhile_cons_of_pos (by simp [first])]
    rfl

theorem firstWord?_trim {line : Text} : firstWord? (trim line) = firstWord? line := by
  obtain ⟨before,after,whole,first,last⟩ := trim_parts line
  conv => rhs; rw [whole,List.append_assoc,firstWord?_before first]
  cases after with
  | nil => rw [List.append_nil]
  | cons c after =>
    have nothing : firstWord? after = none := by
      have empty : trimStart after = [] := trimStart_eq_nil.mpr fun d member => last d (by simp [member])
      rw [firstWord?,empty]
      rfl
    rw [firstWord?_append (last c (by simp)),nothing,Option.or_none]

-- The first word of a text stands on the first of its lines that is not blank.
theorem firstWord?_lines (text : Text) :
    firstWord? text = (trimmedLines text).findSome? firstWord? := by
  induction text using lines_induction with
  | last line noFeed =>
    rw [trimmedLines_line noFeed,← firstWord?_trim]
    cases trim line <;> simp [firstWord?,trimStart]
  | above line rest noFeed ih =>
    rw [firstWord?_append blank_lineFeed,ih,trimmedLines_append,List.findSome?_append,
      trimmedLines_line noFeed,← firstWord?_trim]
    cases trim line <;> simp [firstWord?,trimStart]

-- Contents that nothing which reads them tells apart.
structure Alike (content other : Text) : Prop where
  lines : trimmedLines content = trimmedLines other
  firstLine : trim (firstLine content) = trim (firstLine other)
  empty : content = [] ↔ other = []

theorem Alike.refl (content : Text) : Alike content content := ⟨rfl,rfl,Iff.rfl⟩

theorem alike_trimmed {content other : Text} (trimmed : trim content = content)
    (same : trim other = other) (lines : trimmedLines content = trimmedLines other) :
    Alike content other := by
  have nothing : ∀ text, trim text = text → (trimmedLines text = [] ↔ text = []) := by
    intro text alone
    rw [trimmedLines_eq_nil,alone]
  refine ⟨lines,?_,?_⟩
  · rw [trim_firstLine trimmed,trim_firstLine same,lines]
  · rw [← nothing content trimmed,← nothing other same,lines]

theorem Alike.isEmpty {content other : Text} (alike : Alike content other) :
    content.isEmpty = other.isEmpty := by
  rw [Bool.eq_iff_iff,List.isEmpty_iff,List.isEmpty_iff]
  exact alike.empty

end SpecLint.Text
