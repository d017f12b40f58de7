import SpecLint.Proofs.Landmark.Partition

namespace SpecLint
open Text

-- The characters of a text that are not blank, in their order.
def visible (text : Text) : Text := text.filter (!isBlank ·)

theorem visible_append (first second : Text) : visible (first ++ second) = visible first ++ visible second :=
  List.filter_append _ _

theorem visible_cons {c : Char} (blank : isBlank c = true) (text : Text) : visible (c :: text) = visible text :=
  List.filter_cons_of_neg (by simp [blank])

theorem visible_blank {text : Text} (blank : ∀ c ∈ text, isBlank c = true) : visible text = [] := by
  refine List.filter_eq_nil_iff.mpr ?_
  intro c member
  simp [blank c member]

theorem visible_trim (text : Text) : visible (trim text) = visible text := by
  obtain ⟨before,after,whole,first,last⟩ := trim_parts text
  conv => rhs; rw [whole,visible_append,visible_append,visible_blank first,visible_blank last,
    List.nil_append,List.append_nil]

theorem visible_dropReturn (line : Text) : visible (dropReturn line) = visible line := by
  rw [← visible_trim,trim_dropReturn,visible_trim]

theorem visible_join (lines : List Text) : visible (join ['\n'] lines) = lines.flatMap visible := by
  induction lines with
  | nil => rfl
  | cons line rest ih =>
    cases rest with
    | nil => rw [join,List.intercalate_singleton,List.flatMap_singleton]
    | cons next rest =>
      rw [join_cons _ _ _ (List.cons_ne_nil _ _),List.append_assoc,List.singleton_append,visible_append,
        visible_cons blank_lineFeed,ih,← List.flatMap_cons]

theorem visible_blockContent (inline body : Text) :
    visible (blockContent inline body) = visible inline ++ visible body := by
  unfold blockContent
  split
  · rename_i empty
    rw [List.isEmpty_iff.mp empty]
    rfl
  · split
    · rename_i empty
      rw [List.isEmpty_iff.mp empty]
      exact (List.append_nil _).symm
    · rw [visible_append,visible_cons blank_lineFeed]

-- What a landmark holds of its block: the name with its colon, and the content.
def Landmark.held (landmark : Landmark) : Text := landmark.name ++ ':' :: landmark.content

-- However a block is put together, from the rest of its first line and the body below.
theorem visible_held {landmark : Landmark} {inline body : Text}
    (content : landmark.content = blockContent (trim inline) (trim body)) :
    visible landmark.held = visible (landmark.name ++ ':' :: inline) ++ visible body := by
  have colon : ∀ tail, visible (landmark.name ++ ':' :: tail) = visible (landmark.name ++ [':']) ++ visible tail := by
    intro tail
    rw [← visible_append,List.append_assoc,List.singleton_append]
  rw [Landmark.held,content,colon (blockContent _ _),colon inline,visible_blockContent,visible_trim,
    visible_trim,List.append_assoc]

-- Line by line nothing visible is lost on the way into the landmarks and the lines above them.
theorem outline_visible (total number offset : Nat) (lines : List Text) :
    let read := outline total number offset lines
    lines.flatMap visible = read.lead.flatMap visible ++ read.landmarks.flatMap (visible ·.held) := by
  induction lines generalizing number offset with
  | nil => rfl
  | cons line rest ih =>
    have below := ih (number + 1) (offset + byteLength line + 1)
    dsimp only at below ⊢
    cases found : Header.ofLine? line with
    | none => rw [outline_text found,List.flatMap_cons,below,List.flatMap_cons,List.append_assoc]
    | some header =>
      obtain ⟨tail,same,_,inline⟩ := (Header.ofLine?_exact _ _).mp found
      rw [outline_header found,List.flatMap_cons,below,List.flatMap_cons,
        visible_held (congrArg (blockContent · _) inline),visible_join,← same,List.append_assoc]
      rfl

-- A document is the text above its first header and what its landmarks hold, up to blanks.
theorem scan_visible (text : Text) : ∃ lead,
    slice? text 0 (blockEnd (byteLength text) (scan text)) = some lead ∧
    visible text = visible lead ++ (scan text).flatMap (visible ·.held) := by
  obtain ⟨lead,after,whole,length,trimmed,_⟩ := reached_gap (reached_start text) (split_ne_nil '\n' text)
  refine ⟨lead,(slice?_exact _ _ _ _).mpr ⟨[],after,whole,rfl,length⟩,?_⟩
  have lines := outline_visible (byteLength text) 1 0 (split '\n' text)
  dsimp only at lines
  rw [← visible_join,join_split,← visible_join,← visible_trim (join _ _),← trimmed,visible_trim] at lines
  exact lines

-- A content begins and ends with something visible, and with its name it holds all that is visible
-- of its block, no more and in the same order.
theorem scan_keeps (text : Text) (landmark : Landmark) (member : landmark ∈ scan text) :
    trim landmark.content = landmark.content ∧
    ∃ block, slice? text landmark.startOffset landmark.endOffset = some block ∧
      visible (landmark.name ++ ':' :: landmark.content) = visible block := by
  obtain ⟨before,line,inline,body,cut⟩ := outline_cuts (reached_start text) landmark member
  refine ⟨scan_trimmed member,line ++ body,slice?_adjacent cut.first cut.rest,?_⟩
  rw [visible_append line body,← visible_dropReturn line,cut.header]
  exact visible_held cut.content

-- A return ends the first line, blanks stand behind the arrow and in front of the line below it.
theorem scan_keeps_return :
    let text := "above\nDATA: é → \r\n\n  b  c\r\nDATA: d".toList
    let landmark : Landmark := ⟨"DATA".toList,"é →\nb  c".toList,2,6,30⟩
    landmark ∈ scan text ∧ trim landmark.content = landmark.content ∧
      ∃ block, slice? text 6 30 = some block ∧
        visible (landmark.name ++ ':' :: landmark.content) = visible block := by
  intro text landmark
  have member : landmark ∈ scan text := by decide
  exact ⟨member,scan_keeps text landmark member⟩

end SpecLint
