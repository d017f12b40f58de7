import SpecLint.Proofs.Landmark.Outline
import SpecLint.Proofs.Text.Slice

namespace SpecLint
open Text

-- Where a header stands in a text, said of the text alone: at the start of a line.
def HeaderAt (text : Text) (offset : Nat) : Prop := ∃ before after, text = before ++ after ∧
  byteLength before = offset ∧ (before = [] ∨ before.getLast? = some '\n') ∧ BeginsHeader after

-- What a landmark is read from: the text above it, its first line and the body behind that line,
-- each of them the slice of the text between two of its offsets.
structure Landmark.Cut (landmark : Landmark) (text before line inline body : Text) : Prop where
  above : slice? text 0 landmark.startOffset = some before
  number : landmark.lineNumber = before.count '\n' + 1
  first : slice? text landmark.startOffset (landmark.startOffset + byteLength line) = some line
  oneLine : '\n' ∉ line
  rest : slice? text (landmark.startOffset + byteLength line) landmark.endOffset = some body
  nextLine : body = [] ∨ body.head? = some '\n'
  named : NameForm landmark.name
  header : dropReturn line = landmark.name ++ ':' :: inline
  content : landmark.content = blockContent (trim inline) (trim body)

-- The parts of a line on both sides of a colon are slices of the line.
def ColonCut (line : Text) : Prop := ∀ name tail, line = name ++ ':' :: tail →
  slice? line 0 (byteLength name) = some name ∧
    slice? line (byteLength name + 1) (byteLength line) = some tail

-- The landmarks of a text in order, as blocks that share the text out among them.
structure Partition (text : Text) (landmarks : List Landmark) : Prop where
  increasing : landmarks.Pairwise (·.startOffset < ·.startOffset)
  starts : ∀ offset, (∃ landmark ∈ landmarks, landmark.startOffset = offset) ↔ HeaderAt text offset
  ends : ∀ index landmark, landmarks[index]? = some landmark →
    landmark.endOffset = (landmarks[index + 1]?.map (·.startOffset)).getD (byteLength text)
  colons : ∀ line ∈ split '\n' text, ColonCut (dropReturn line)
  cuts : ∀ landmark ∈ landmarks, ∃ before line inline body, landmark.Cut text before line inline body
  covers : ∃ lead parts, slice? text 0 (blockEnd (byteLength text) landmarks) = some lead ∧
    (∀ line ∈ split '\n' lead, ¬BeginsHeader line) ∧
    landmarks.mapM (fun landmark => slice? text landmark.startOffset landmark.endOffset) = some parts ∧
    lead ++ parts.flatten = text

theorem colon_cut (line : Text) : ColonCut line := by
  intro name tail same
  subst same
  refine ⟨(slice?_exact _ _ _ _).mpr ⟨[],':' :: tail,by simp,rfl,by simp⟩,
    (slice?_exact _ _ _ _).mpr ⟨name ++ [':'],[],by simp,?_,by simp⟩⟩
  rw [byteLength_append]
  rfl

-- Where reading stands before some lines of a text: the text above them ends a line, and the
-- running offset and number are those of the first of the lines.
structure Reached (text before : Text) (lines : List Text) (number offset : Nat) : Prop where
  whole : text = before ++ join ['\n'] lines
  offset : offset = byteLength before
  number : number = before.count '\n' + 1
  lineStart : before = [] ∨ before.getLast? = some '\n'
  plain : ∀ line ∈ lines, '\n' ∉ line

theorem reached_start (text : Text) : Reached text [] (split '\n' text) 1 0 :=
  ⟨(join_split '\n' text).symm,rfl,rfl,.inl rfl,fun _ member => split_parts member⟩

theorem reached_next {text before line : Text} {rest : List Text} {number offset : Nat}
    (reached : Reached text before (line :: rest) number offset) (more : rest ≠ []) :
    Reached text (before ++ line ++ ['\n']) rest (number + 1) (offset + byteLength line + 1) := by
  have noFeed := List.count_eq_zero_of_not_mem (reached.plain line (by simp))
  have width : '\n'.utf8Size = 1 := rfl
  refine ⟨?_,?_,?_,.inr (by simp),fun other member => reached.plain other (by simp [member])⟩
  · rw [reached.whole,join_cons _ _ _ more]
    simp
  · rw [reached.offset,byteLength_append,byteLength_append,byteLength,byteLength,width]
  · rw [reached.number,List.count_append,List.count_append,noFeed]
    simp

-- The lines up to the next header end where the next block starts, or with the text.
theorem reached_gap {text before : Text} {lines : List Text} {number offset : Nat}
    (reached : Reached text before lines number offset) (some : lines ≠ []) :
    ∃ gap after, text = before ++ gap ++ after ∧ byteLength (before ++ gap) =
        blockEnd (byteLength text) (outline (byteLength text) number offset lines).landmarks ∧
      trim gap = trim (join ['\n'] (outline (byteLength text) number offset lines).lead) ∧
      ∀ line ∈ split '\n' gap, ¬BeginsHeader line := by
  obtain ⟨lead,below,rfl,plain,closed⟩ := lines_split lines
  rw [outline_skip plain]
  have ending := outline_closed closed (byteLength text) (number + lead.length)
    (offset + byteLength (ended lead))
  simp only [ending.1,List.append_nil,ending.2]
  have noFeed : ∀ line ∈ lead, '\n' ∉ line := fun line member => reached.plain line (by simp [member])
  have noHeader : ∀ line ∈ lead, ¬BeginsHeader line :=
    fun line member => (Header.ofLine?_none line).mp (plain line member)
  cases below with
  | nil =>
    rw [List.append_nil] at some reached
    refine ⟨join ['\n'] lead,[],by simp [reached.whole],by simp [reached.whole],rfl,?_⟩
    rw [split_join some noFeed]
    exact noHeader
  | cons line below =>
    have above := reached.whole
    rw [join_above] at above
    refine ⟨ended lead,join ['\n'] (line :: below),by simp [above],?_,?_,?_⟩
    · simp [byteLength_append,reached.offset]
    · cases lead with
      | nil => rfl
      | cons first lead =>
        rw [ended_eq_join (by simp),trim_after (by simp [blank_lineFeed])]
    · rw [split_ended noFeed]
      intro other member
      rcases List.mem_append.mp member with inside | last
      · exact noHeader other inside
      · rw [List.mem_singleton.mp last]
        exact beginsHeader_empty

theorem reached_cut {text before line : Text} {header : Header} {rest : List Text} {number offset : Nat}
    (reached : Reached text before (line :: rest) number offset)
    (found : Header.ofLine? line = some header) :
    ∃ landmark, (outline (byteLength text) number offset (line :: rest)).landmarks.head? = some landmark ∧
      ∃ above inline body, landmark.Cut text above line inline body := by
  rw [← Header.ofLine?_dropReturn] at found
  obtain ⟨inline,same,form,content⟩ := (Header.ofLine?_exact _ _).mp found
  rw [Header.ofLine?_dropReturn] at found
  have noFeed := reached.plain line (by simp)
  rw [outline_header found]
  refine ⟨_,rfl,before,inline,?_⟩
  rw [content]
  cases rest with
  | nil =>
    have whole : text = before ++ line := by simpa [join] using reached.whole
    have stop : byteLength text = offset + byteLength line := by
      rw [whole,byteLength_append,reached.offset]
    refine ⟨[],?_,reached.number,?_,noFeed,?_,.inl rfl,form,same,rfl⟩
    · exact (slice?_exact _ _ _ _).mpr ⟨[],line,by simp [whole],rfl,by simp [reached.offset]⟩
    · exact (slice?_exact _ _ _ _).mpr ⟨before,[],by simp [whole],reached.offset.symm,
        by rw [byteLength_append,reached.offset]⟩
    · exact (slice?_exact _ _ _ _).mpr ⟨before ++ line,[],by simp [whole],
        by rw [byteLength_append,reached.offset],by simp [whole,outline,blockEnd]⟩
  | cons next rest =>
    obtain ⟨gap,after,whole,stop,trimmed,_⟩ := reached_gap (reached_next reached (by simp)) (by simp)
    refine ⟨'\n' :: gap,?_,reached.number,?_,noFeed,?_,.inr rfl,form,same,?_⟩
    · exact (slice?_exact _ _ _ _).mpr ⟨[],line ++ '\n' :: gap ++ after,by simp [whole],rfl,
        by simp [reached.offset]⟩
    · exact (slice?_exact _ _ _ _).mpr ⟨before,'\n' :: gap ++ after,by simp [whole],
        reached.offset.symm,by rw [byteLength_append,reached.offset]⟩
    · exact (slice?_exact _ _ _ _).mpr ⟨before ++ line,after,by simp [whole],
        by rw [byteLength_append,reached.offset],by simpa using stop⟩
    · rw [trim_cons blank_lineFeed,trimmed]

theorem outline_cuts {text before : Text} {lines : List Text} {number offset : Nat}
    (reached : Reached text before lines number offset) :
    ∀ landmark ∈ (outline (byteLength text) number offset lines).landmarks,
      ∃ before line inline body, landmark.Cut text before line inline body := by
  induction lines generalizing before number offset with
  | nil =>
    intro landmark member
    cases member
  | cons line rest ih =>
    have below : ∀ landmark ∈ (outline (byteLength text) (number + 1)
        (offset + byteLength line + 1) rest).landmarks,
        ∃ before line inline body, landmark.Cut text before line inline body := by
      cases rest with
      | nil =>
        intro landmark member
        cases member
      | cons next rest => exact ih (reached_next reached (by simp))
    intro landmark member
    cases found : Header.ofLine? line with
    | none =>
      rw [outline_text found] at member
      exact below landmark member
    | some header =>
      obtain ⟨first,at_,above,inline,body,cut⟩ := reached_cut reached found
      rw [outline_header found] at member at_
      cases Option.some.inj at_
      rcases List.mem_cons.mp member with same | deeper
      · subst same
        exact ⟨above,line,inline,body,cut⟩
      · exact below landmark deeper

theorem scan_trimmed {text : Text} {landmark : Landmark} (member : landmark ∈ scan text) :
    trim landmark.content = landmark.content := by
  obtain ⟨_,_,inline,body,cut⟩ := outline_cuts (reached_start text) landmark member
  rw [cut.content]
  exact blockContent_trimmed (trim_trim inline) (trim_trim body)

-- Each landmark ends where the next one starts.
def Linked (total : Nat) : List Landmark → Prop
  | [] => True
  | landmark :: rest => landmark.endOffset = blockEnd total rest ∧ Linked total rest

theorem outline_linked (total number offset : Nat) (lines : List Text) :
    Linked total (outline total number offset lines).landmarks := by
  induction lines generalizing number offset with
  | nil => trivial
  | cons line rest ih =>
    cases found : Header.ofLine? line with
    | none =>
      rw [outline_text found]
      exact ih _ _
    | some header =>
      rw [outline_header found]
      exact ⟨rfl,ih _ _⟩

theorem linked_ends {total : Nat} {landmarks : List Landmark} (linked : Linked total landmarks)
    (index : Nat) (landmark : Landmark) (found : landmarks[index]? = some landmark) :
    landmark.endOffset = (landmarks[index + 1]?.map (·.startOffset)).getD total := by
  induction landmarks generalizing index with
  | nil => simp at found
  | cons first rest ih =>
    cases index with
    | zero =>
      cases Option.some.inj found
      rw [linked.1]
      cases rest <;> rfl
    | succ index => exact ih linked.2 index found

theorem outline_increasing (total number offset : Nat) (lines : List Text) :
    (outline total number offset lines).landmarks.Pairwise (·.startOffset < ·.startOffset) := by
  induction lines generalizing number offset with
  | nil => exact .nil
  | cons line rest ih =>
    cases found : Header.ofLine? line with
    | none =>
      rw [outline_text found]
      exact ih _ _
    | some header =>
      rw [outline_header found]
      refine List.pairwise_cons.mpr ⟨?_,ih _ _⟩
      intro landmark member
      obtain ⟨above,_,_,_,_,place⟩ := (outline_starts _ _ _ _ _).mp ⟨landmark,member,rfl⟩
      show offset < landmark.startOffset
      omega

theorem first_line {text line : Text} {below : List Text} (cut : split '\n' text = line :: below) :
    BeginsHeader text ↔ BeginsHeader line := by
  have whole := join_split '\n' text
  have noFeed : '\n' ∉ line := split_parts (show line ∈ split '\n' text by simp [cut])
  rw [cut] at whole
  cases below with
  | nil =>
    have single : line = text := by simpa [join] using whole
    rw [single]
  | cons next below =>
    rw [← whole,join_cons _ _ _ (by simp),List.append_assoc]
    exact beginsHeader_line noFeed _

theorem closed_split {text : Text} (begins : BeginsHeader text) : Closed (split '\n' text) := by
  intro line top
  obtain ⟨next,rest,cut⟩ := List.exists_cons_of_ne_nil (split_ne_nil '\n' text)
  rw [cut] at top
  rw [← Option.some.inj top,Option.isSome_iff_ne_none,ne_eq,Header.ofLine?_none,not_not]
  exact (first_line cut).mp begins

-- The lines of a text that begin with a header are the places of headers in it.
theorem headerAt_exact (text : Text) (offset : Nat) : HeaderAt text offset ↔
    ∃ above line below, split '\n' text = above ++ line :: below ∧ BeginsHeader line ∧
      byteLength (ended above) = offset := by
  constructor
  · intro header
    obtain ⟨before,after,rfl,length,lineStart,begins⟩ := header
    obtain ⟨line,below,cut⟩ := List.exists_cons_of_ne_nil (split_ne_nil '\n' after)
    have opens : BeginsHeader line := (first_line cut).mp begins
    rcases lineStart with rfl | ending
    · exact ⟨[],line,below,cut,opens,length⟩
    · obtain ⟨above,rfl⟩ := List.getLast?_eq_some_iff.mp ending
      refine ⟨split '\n' above,line,below,?_,opens,?_⟩
      · rw [List.append_assoc,List.singleton_append,split_append,cut]
      · rw [ended_split,length]
  · intro placed
    obtain ⟨above,line,below,cut,begins,length⟩ := placed
    have whole := join_split '\n' text
    rw [cut,join_above] at whole
    have plain : ∀ other ∈ line :: below, '\n' ∉ other := fun other member =>
      split_parts (show other ∈ split '\n' text by rw [cut]; exact List.mem_append_right _ member)
    refine ⟨ended above,_,whole.symm,length,?_,(first_line (split_join (by simp) plain)).mpr begins⟩
    cases above with
    | nil => exact .inl rfl
    | cons first above =>
      rw [ended_eq_join (by simp)]
      exact .inr (by simp)

-- The blocks of linked landmarks put together reach from the first of them to the end of the text.
theorem linked_slices {text : Text} {landmarks : List Landmark}
    (linked : Linked (byteLength text) landmarks)
    (cuts : ∀ landmark ∈ landmarks,
      ∃ part, slice? text landmark.startOffset landmark.endOffset = some part) :
    ∃ parts, landmarks.mapM (fun landmark => slice? text landmark.startOffset landmark.endOffset) =
        some parts ∧
      slice? text (blockEnd (byteLength text) landmarks) (byteLength text) = some parts.flatten := by
  induction landmarks with
  | nil =>
    refine ⟨[],rfl,?_⟩
    exact (slice?_exact _ _ _ _).mpr ⟨text,[],by simp,rfl,by simp⟩
  | cons landmark rest ih =>
    obtain ⟨part,first⟩ := cuts landmark (by simp)
    obtain ⟨parts,read,below⟩ := ih linked.2 (fun other member => cuts other (by simp [member]))
    refine ⟨part :: parts,by simp [List.mapM_cons,first,read],?_⟩
    rw [← linked.1] at below
    exact slice?_adjacent first below

theorem scan_partition (text : Text) : Partition text (scan text) := by
  have reached := reached_start text
  have linked : Linked (byteLength text) (scan text) := outline_linked _ _ _ _
  have cuts := outline_cuts reached
  have blocks : ∀ landmark ∈ scan text,
      ∃ part, slice? text landmark.startOffset landmark.endOffset = some part := by
    intro landmark member
    obtain ⟨before,line,inline,body,cut⟩ := cuts landmark member
    exact ⟨line ++ body,slice?_adjacent cut.first cut.rest⟩
  refine ⟨outline_increasing _ _ _ _,?_,linked_ends linked,fun line _ => colon_cut _,cuts,?_⟩
  · intro offset
    rw [headerAt_exact]
    simpa [scan] using outline_starts (byteLength text) 1 0 (split '\n' text) offset
  · obtain ⟨lead,after,whole,stop,_,plain⟩ := reached_gap reached (split_ne_nil '\n' text)
    rw [List.nil_append] at stop whole
    obtain ⟨parts,read,below⟩ := linked_slices linked blocks
    have above : slice? text 0 (blockEnd (byteLength text) (scan text)) = some lead :=
      (slice?_exact _ _ _ _).mpr ⟨[],after,by simp [← whole],rfl,stop⟩
    have all := slice?_adjacent above below
    rw [(slice?_exact text text 0 (byteLength text)).mpr ⟨[],[],by simp,rfl,rfl⟩] at all
    exact ⟨lead,parts,above,plain,read,(Option.some.inj all).symm⟩

end SpecLint
