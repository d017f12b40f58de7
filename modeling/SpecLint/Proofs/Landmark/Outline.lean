import Mathlib.Data.List.Basic
import SpecLint.Landmark.Scan
import SpecLint.Proofs.Landmark.Header

namespace SpecLint
open Text

-- Lines that hold no header, and lines that begin with one wherever there are any.
def Plain (lines : List Text) : Prop := ∀ line ∈ lines, Header.ofLine? line = none

def Closed (lines : List Text) : Prop :=
  ∀ line, lines.head? = some line → (Header.ofLine? line).isSome

theorem lines_split (lines : List Text) :
    ∃ lead below, lines = lead ++ below ∧ Plain lead ∧ Closed below := by
  refine ⟨lines.takeWhile fun line => (Header.ofLine? line).isNone,
    lines.dropWhile fun line => (Header.ofLine? line).isNone,List.takeWhile_append_dropWhile.symm,?_,?_⟩
  · intro line member
    simpa using List.mem_takeWhile_imp member
  · intro line first
    have stop := List.head?_dropWhile_not (fun line => (Header.ofLine? line).isNone) lines
    rw [first] at stop
    cases found : Header.ofLine? line with
    | none => simp [found] at stop
    | some header => rfl

theorem blockContent_lines (inline body : Text) :
    trimmedLines (blockContent inline body) = trimmedLines inline ++ trimmedLines body := by
  unfold blockContent
  split
  · rename_i empty
    rw [List.isEmpty_iff.mp empty]
    rfl
  · split
    · rename_i empty
      rw [List.isEmpty_iff.mp empty]
      exact (List.append_nil _).symm
    · exact trimmedLines_append inline body

theorem blockContent_trimmed {inline body : Text} (first : trim inline = inline)
    (last : trim body = body) : trim (blockContent inline body) = blockContent inline body := by
  unfold blockContent
  split
  · exact last
  · rename_i opened
    split
    · exact first
    · rename_i filled
      rw [List.isEmpty_iff] at opened filled
      refine trim_eq_self.mpr ⟨?_,?_⟩
      · intro c head
        obtain ⟨d,rest,rfl⟩ := List.exists_cons_of_ne_nil opened
        exact (trim_eq_self.mp first).1 c head
      · intro c ending
        apply (trim_eq_self.mp last).2 c
        rwa [List.getLast?_append_of_ne_nil _ (by simp),List.getLast?_cons_of_ne_nil filled] at ending

theorem outline_text {line : Text} (plain : Header.ofLine? line = none) (total number offset : Nat)
    (rest : List Text) : outline total number offset (line :: rest) =
      let below := outline total (number + 1) (offset + byteLength line + 1) rest
      ⟨line :: below.lead,below.landmarks⟩ := by
  simp only [outline,Header.ofLine?_dropReturn,plain]

theorem outline_header {line : Text} {header : Header} (found : Header.ofLine? line = some header)
    (total number offset : Nat) (rest : List Text) : outline total number offset (line :: rest) =
      let below := outline total (number + 1) (offset + byteLength line + 1) rest
      ⟨[],⟨header.name,blockContent header.inline (trim (join ['\n'] below.lead)),number,offset,
        blockEnd total below.landmarks⟩ :: below.landmarks⟩ := by
  simp only [outline,Header.ofLine?_dropReturn,found]

-- Every header line names a landmark, and nothing else does.
theorem outline_names (total number offset : Nat) (lines : List Text) :
    (outline total number offset lines).landmarks.map (·.name) =
      lines.filterMap fun line => (Header.ofLine? line).map (·.name) := by
  induction lines generalizing number offset with
  | nil => rfl
  | cons line rest ih =>
    cases found : Header.ofLine? line with
    | none => rw [outline_text found,List.filterMap_cons_none (by rw [found]; rfl),ih]
    | some header => rw [outline_header found,List.filterMap_cons_some (by rw [found]; rfl),List.map_cons,ih]

theorem outline_skip {lead : List Text} (plain : Plain lead) (total number offset : Nat)
    (below : List Text) : outline total number offset (lead ++ below) =
      let rest := outline total (number + lead.length) (offset + byteLength (ended lead)) below
      ⟨lead ++ rest.lead,rest.landmarks⟩ := by
  induction lead generalizing number offset with
  | nil => simp [ended,byteLength]
  | cons line lead ih =>
    rw [List.cons_append,outline_text (plain line (by simp)),
      ih (fun other member => plain other (by simp [member]))]
    have numbers : number + 1 + lead.length = number + (line :: lead).length := by
      simp only [List.length_cons]
      omega
    have offsets : offset + byteLength line + 1 + byteLength (ended lead) =
        offset + byteLength (ended (line :: lead)) := by
      rw [byteLength_ended_cons]
      omega
    rw [numbers,offsets]
    rfl

theorem outline_closed {lines : List Text} (closed : Closed lines) (total number offset : Nat) :
    (outline total number offset lines).lead = [] ∧
      blockEnd total (outline total number offset lines).landmarks =
        if lines = [] then total else offset := by
  cases lines with
  | nil => exact ⟨rfl,rfl⟩
  | cons line rest =>
    obtain ⟨header,found⟩ := Option.isSome_iff_exists.mp (closed line rfl)
    rw [outline_header found]
    exact ⟨rfl,rfl⟩

theorem closed_landmarks {lines : List Text} (closed : Closed lines) {total number offset : Nat}
    (none : (outline total number offset lines).landmarks = []) : lines = [] := by
  cases lines with
  | nil => rfl
  | cons line rest =>
    obtain ⟨header,found⟩ := Option.isSome_iff_exists.mp (closed line rfl)
    rw [outline_header found] at none
    cases none

-- A header line with its body. What follows begins with a header of its own.
theorem outline_block {line : Text} {header : Header} (found : Header.ofLine? line = some header)
    {body below : List Text} (plain : Plain body) (closed : Closed below) (total number offset : Nat) :
    outline total number offset (line :: (body ++ below)) =
      let rest := outline total (number + 1 + body.length)
        (offset + byteLength (ended (line :: body))) below
      ⟨[],⟨header.name,blockContent header.inline (trim (join ['\n'] body)),number,offset,
        blockEnd total rest.landmarks⟩ :: rest.landmarks⟩ := by
  have offsets : offset + byteLength line + 1 + byteLength (ended body) =
      offset + byteLength (ended (line :: body)) := by
    rw [byteLength_ended_cons]
    omega
  rw [outline_header found,outline_skip plain,offsets]
  simp only [(outline_closed closed total _ _).1,List.append_nil]

-- Exactly the header lines become landmarks, each at the offset of its line.
theorem outline_starts (total number offset : Nat) (lines : List Text) (place : Nat) :
    (∃ landmark ∈ (outline total number offset lines).landmarks, landmark.startOffset = place) ↔
      ∃ above line below, lines = above ++ line :: below ∧ BeginsHeader line ∧
        offset + byteLength (ended above) = place := by
  induction lines generalizing number offset with
  | nil => simp [outline]
  | cons line rest ih =>
    have tail := ih (number + 1) (offset + byteLength line + 1)
    -- A header line of the rest has this line above it too.
    have deeper : (∃ above other below, rest = above ++ other :: below ∧ BeginsHeader other ∧
        offset + byteLength line + 1 + byteLength (ended above) = place) ↔
        ∃ above other below, rest = above ++ other :: below ∧ BeginsHeader other ∧
          offset + byteLength (ended (line :: above)) = place := by
      simp only [byteLength_ended_cons,Nat.add_assoc]
    rw [deeper] at tail
    have shape : (∃ above other below, line :: rest = above ++ other :: below ∧ BeginsHeader other ∧
        offset + byteLength (ended above) = place) ↔ (BeginsHeader line ∧ offset = place) ∨
        ∃ above other below, rest = above ++ other :: below ∧ BeginsHeader other ∧
          offset + byteLength (ended (line :: above)) = place := by
      constructor
      · intro placed
        obtain ⟨above,other,below,same,header,at_⟩ := placed
        cases above with
        | nil =>
          obtain ⟨rfl,rfl⟩ := List.cons.inj same
          exact .inl ⟨header,by simpa [ended,byteLength] using at_⟩
        | cons first above =>
          obtain ⟨rfl,rfl⟩ := List.cons.inj same
          exact .inr ⟨above,other,below,rfl,header,at_⟩
      · intro placed
        rcases placed with ⟨header,rfl⟩ | ⟨above,other,below,rfl,header,at_⟩
        · exact ⟨[],line,rest,rfl,header,by simp [ended,byteLength]⟩
        · exact ⟨line :: above,other,below,rfl,header,at_⟩
    rw [shape,← tail]
    cases found : Header.ofLine? line with
    | none =>
      have plain : ¬BeginsHeader line := (Header.ofLine?_none line).mp found
      simp only [outline_text found,plain,false_and,false_or]
    | some header =>
      have begins : BeginsHeader line := by
        by_contra plain
        rw [(Header.ofLine?_none line).mpr plain] at found
        cases found
      simp only [outline_header found,begins,true_and,List.mem_cons,exists_eq_or_imp]

end SpecLint
