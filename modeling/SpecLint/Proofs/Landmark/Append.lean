import SpecLint.Proofs.Landmark.Compose

namespace SpecLint
open Text

namespace Landmark

-- The same block in a document with more lines and bytes above it.
def lower (lines bytes : Nat) (landmark : Landmark) : Landmark :=
  { landmark with
    lineNumber := landmark.lineNumber + lines
    startOffset := landmark.startOffset + bytes
    endOffset := landmark.endOffset + bytes }

-- The last block of a document goes as far as the document does. All others end where they did.
def stretch (last : Option Landmark) (bytes : Nat) (landmark : Landmark) : Landmark :=
  if last = some landmark then { landmark with endOffset := landmark.endOffset + bytes } else landmark

theorem stretch_last (landmark : Landmark) (bytes : Nat) : landmark.stretch (some landmark) bytes =
    { landmark with endOffset := landmark.endOffset + bytes } :=
  if_pos rfl

theorem stretch_other {landmark : Landmark} {last : Option Landmark} (other : last ≠ some landmark)
    (bytes : Nat) : landmark.stretch last bytes = landmark :=
  if_neg other

theorem stretch_name (last : Option Landmark) (bytes : Nat) (landmark : Landmark) :
    (landmark.stretch last bytes).name = landmark.name := by
  unfold stretch
  split <;> rfl

theorem stretch_content (last : Option Landmark) (bytes : Nat) (landmark : Landmark) :
    (landmark.stretch last bytes).content = landmark.content := by
  unfold stretch
  split <;> rfl

theorem stretch_lineNumber (last : Option Landmark) (bytes : Nat) (landmark : Landmark) :
    (landmark.stretch last bytes).lineNumber = landmark.lineNumber := by
  unfold stretch
  split <;> rfl

theorem stretch_startOffset (last : Option Landmark) (bytes : Nat) (landmark : Landmark) :
    (landmark.stretch last bytes).startOffset = landmark.startOffset := by
  unfold stretch
  split <;> rfl

end Landmark

theorem blockEnd_append (total : Nat) (first second : List Landmark) :
    blockEnd total (first ++ second) = blockEnd (blockEnd total second) first := by
  cases first <;> rfl

theorem blockEnd_lower (total lines bytes : Nat) (landmarks : List Landmark) :
    blockEnd (total + bytes) (landmarks.map (·.lower lines bytes)) = blockEnd total landmarks + bytes := by
  cases landmarks <;> rfl

-- Lines above a header end where the header begins, whatever is below it.
theorem outline_append {above below : List Text} (closed : Closed below) (some : below ≠ [])
    {offset stop : Nat} (stops : offset + byteLength (ended above) = stop) (total number : Nat) :
    outline total number offset (above ++ below) =
      ⟨(outline stop number offset above).lead,(outline stop number offset above).landmarks ++
        (outline total (number + above.length) stop below).landmarks⟩ := by
  induction above generalizing number offset with
  | nil =>
    cases stops
    have lead := (outline_closed closed total number offset).1
    simp only [List.nil_append,ended,List.flatMap_nil,byteLength,Nat.add_zero,List.length_nil,outline]
    rw [← lead]
  | cons line rest ih =>
    have next : offset + byteLength line + 1 + byteLength (ended rest) = stop := by
      rw [← stops,byteLength_ended_cons]
      omega
    have numbers : number + 1 + rest.length = number + (line :: rest).length := by
      rw [List.length_cons]
      omega
    have later := ih next (number + 1)
    rw [numbers] at later
    rw [List.cons_append]
    cases found : Header.ofLine? line with
    | none => rw [outline_text found,outline_text found,later]
    | some header =>
      have ending := (outline_closed closed total (number + (line :: rest).length) stop).2
      rw [if_neg some] at ending
      rw [outline_header found,outline_header found,later]
      simp only [blockEnd_append,ending,List.cons_append]

-- Nothing but the places in the document depends on what stands above.
theorem outline_lower (lines bytes total number offset : Nat) (text : List Text) :
    (outline (total + bytes) (number + lines) (offset + bytes) text).landmarks =
      (outline total number offset text).landmarks.map (·.lower lines bytes) := by
  induction text generalizing number offset with
  | nil => rfl
  | cons line rest ih =>
    have numbers : number + lines + 1 = number + 1 + lines := by omega
    have offsets : offset + bytes + byteLength line + 1 = offset + byteLength line + 1 + bytes := by omega
    cases found : Header.ofLine? line with
    | none => rw [outline_text found,outline_text found,numbers,offsets,ih]
    | some header =>
      rw [outline_header found,outline_header found,numbers,offsets]
      dsimp only
      rw [ih,outline_lead,outline_lead,blockEnd_lower]
      rfl

theorem stretch_cons {first : Landmark} {rest : List Landmark}
    (increasing : (first :: rest).Pairwise (·.startOffset < ·.startOffset)) (some : rest ≠ []) (bytes : Nat) :
    (first :: rest).map (·.stretch (first :: rest).getLast? bytes) =
      first :: rest.map (·.stretch rest.getLast? bytes) := by
  have last : (first :: rest).getLast? = rest.getLast? := List.getLast?_cons_of_ne_nil some
  have other : rest.getLast? ≠ Option.some first := by
    intro same
    have before := (List.pairwise_cons.mp increasing).1 first (List.mem_of_getLast? same)
    exact Nat.lt_irrefl _ before
  rw [last,List.map_cons,Landmark.stretch_other other]

theorem outline_stretch (total bytes number offset : Nat) (text : List Text) :
    (outline (total + bytes) number offset text).landmarks =
      (outline total number offset text).landmarks.map
        (·.stretch (outline total number offset text).landmarks.getLast? bytes) := by
  induction text generalizing number offset with
  | nil => rfl
  | cons line rest ih =>
    cases found : Header.ofLine? line with
    | none =>
      rw [outline_text found,outline_text found]
      exact ih _ _
    | some header =>
      have increasing := outline_increasing total number offset (line :: rest)
      rw [outline_header found] at increasing
      rw [outline_header found,outline_header found]
      dsimp only at increasing ⊢
      rw [outline_lead] at increasing
      rw [ih,outline_lead,outline_lead]
      generalize (outline total (number + 1) (offset + byteLength line + 1) rest).landmarks = below at increasing ⊢
      cases below with
      | nil => simp [Landmark.stretch_last,blockEnd]
      | cons next later =>
        rw [stretch_cons increasing (List.cons_ne_nil _ _),List.map_cons,blockEnd,blockEnd,
          Landmark.stretch_startOffset]

-- Two texts joined at a header keep their landmarks. Only the last block of the upper one gets
-- longer, by the line feed between them.
theorem scan_append (first : Text) {second : Text} (begins : BeginsHeader second) :
    scan (first ++ '\n' :: second) = (scan first).map (·.stretch (scan first).getLast? 1) ++
      (scan second).map (·.lower (first.count '\n' + 1) (byteLength first + 1)) := by
  have stop : 0 + byteLength (ended (split '\n' first)) = byteLength first + 1 := by
    rw [ended_split,byteLength_append,Nat.zero_add]
    rfl
  have total : byteLength (first ++ '\n' :: second) = byteLength second + (byteLength first + 1) := by
    have feed : '\n'.utf8Size = 1 := rfl
    rw [byteLength_append,byteLength,feed]
    omega
  have numbers : 1 + (split '\n' first).length = 1 + (first.count '\n' + 1) := by rw [split_length]
  have above := outline_stretch (byteLength first) 1 1 0 (split '\n' first)
  have below := outline_lower (first.count '\n' + 1) (byteLength first + 1) (byteLength second) 1 0
    (split '\n' second)
  rw [Nat.zero_add] at below
  unfold scan
  rw [split_append,outline_append (closed_split begins) (split_ne_nil _ _) stop,total,numbers,above,below]

end SpecLint
