import SpecLint.Proofs.Landmark.Append
import SpecLint.Proofs.Spec.Grouping

namespace SpecLint
open Text

-- A change of places alone, by the same number of lines everywhere.
structure Landmark.Relocates (lines : Nat) (move : Landmark → Landmark) : Prop where
  name : ∀ landmark, (move landmark).name = landmark.name
  content : ∀ landmark, (move landmark).content = landmark.content
  lineNumber : ∀ landmark, (move landmark).lineNumber = landmark.lineNumber + lines

theorem Landmark.lower_relocates (lines bytes : Nat) : Relocates lines (·.lower lines bytes) :=
  ⟨fun _ => rfl,fun _ => rfl,fun _ => rfl⟩

theorem Landmark.stretch_relocates (last : Option Landmark) (bytes : Nat) :
    Relocates 0 (·.stretch last bytes) :=
  ⟨stretch_name last bytes,stretch_content last bytes,stretch_lineNumber last bytes⟩

def FunctionBlock.relocate (lines : Nat) (move : Landmark → Landmark) (function : FunctionBlock) : FunctionBlock :=
  { function with
    landmarks := function.landmarks.map move
    lineNumber := function.lineNumber + lines }

def Spec.relocate (lines : Nat) (move : Landmark → Landmark) (spec : Spec) : Spec :=
  { spec with
    functions := spec.functions.map (·.relocate lines move)
    dataBlocks := spec.dataBlocks.map move
    constraints := spec.constraints.map move }

section
variable {lines : Nat} {move : Landmark → Landmark} (relocates : Landmark.Relocates lines move)
include relocates

theorem attach_relocate (function : FunctionBlock) (landmark : Landmark) :
    (function.relocate lines move).attach (move landmark) = (function.attach landmark).relocate lines move := by
  simp only [FunctionBlock.attach,FunctionBlock.relocate,Dictionary.map_insert,relocates.name]

theorem attachAll_relocate (function : FunctionBlock) (landmarks : List Landmark) :
    (function.relocate lines move).attachAll (landmarks.map move) =
      (function.attachAll landmarks).relocate lines move := by
  induction landmarks generalizing function with
  | nil => rfl
  | cons landmark rest ih =>
    have next := ih (function.attach landmark)
    rw [← attach_relocate relocates] at next
    exact next

theorem ofHeader_relocate (header : Landmark) :
    FunctionBlock.ofHeader (move header) = (FunctionBlock.ofHeader header).relocate lines move := by
  simp only [FunctionBlock.ofHeader,FunctionBlock.relocate,relocates.content,relocates.lineNumber]
  rfl

theorem filter_relocate (name : Text) (landmarks : List Landmark) :
    (landmarks.map move).filter (·.name = name) = (landmarks.filter (·.name = name)).map move := by
  rw [List.filter_map]
  simp only [Function.comp_def,relocates.name]

theorem own_relocate (vocabulary : Vocabulary) (landmarks : List Landmark) :
    own vocabulary (landmarks.map move) = (own vocabulary landmarks).map move := by
  rw [own,List.takeWhile_map,List.filter_map]
  simp only [Function.comp_def,relocates.name]
  rfl

theorem functionsOf_relocate (vocabulary : Vocabulary) (landmarks : List Landmark) :
    functionsOf vocabulary (landmarks.map move) =
      (functionsOf vocabulary landmarks).map (·.relocate lines move) := by
  induction landmarks with
  | nil => rfl
  | cons landmark rest ih =>
    rw [List.map_cons,functionsOf,functionsOf,relocates.name]
    split
    · rw [own_relocate relocates,ofHeader_relocate relocates,attachAll_relocate relocates,ih,List.map_cons]
    · exact ih

end

-- A block of the document takes nothing from the landmarks below the next one.
theorem own_append {second : List Landmark}
    (opens : ∀ next, second.head? = some next → opensBlock next.name = true) (vocabulary : Vocabulary)
    (first : List Landmark) : own vocabulary (first ++ second) = own vocabulary first := by
  have nothing : second.takeWhile (!opensBlock ·.name) = [] := by
    cases second with
    | nil => rfl
    | cons next rest => exact List.takeWhile_cons_of_neg (by simp [opens next rfl])
  unfold own
  rw [List.takeWhile_append,nothing,List.append_nil]
  split
  · rename_i whole
    rw [(List.takeWhile_prefix _).eq_of_length whole]
  · rfl

theorem functionsOf_append {second : List Landmark}
    (opens : ∀ next, second.head? = some next → opensBlock next.name = true) (vocabulary : Vocabulary)
    (first : List Landmark) :
    functionsOf vocabulary (first ++ second) = functionsOf vocabulary first ++ functionsOf vocabulary second := by
  induction first with
  | nil => rfl
  | cons landmark rest ih =>
    rw [List.cons_append,functionsOf,functionsOf,own_append opens,ih]
    split <;> rfl

-- The first line of a text is the header of a block of the document itself.
def BeginsBlock (text : Text) : Prop := ∃ name tail, text = name ++ ':' :: tail ∧ opensBlock name = true

theorem opensBlock_form {name : Text} (opens : opensBlock name = true) : NameForm name := by
  obtain ⟨function,data,constraint⟩ := headerName_form
  rcases (opensBlock_exact name).mp opens with rfl | rfl | rfl
  · exact function
  · exact data
  · exact constraint

theorem BeginsBlock.header {text : Text} (begins : BeginsBlock text) : BeginsHeader text := by
  obtain ⟨name,tail,same,opens⟩ := begins
  exact ⟨name,tail,same,opensBlock_form opens⟩

theorem scan_first {text : Text} (begins : BeginsBlock text) :
    ∀ next, (scan text).head? = some next → opensBlock next.name = true := by
  obtain ⟨name,tail,rfl,opens⟩ := begins
  intro next top
  have form := opensBlock_form opens
  have named : (scan (name ++ ':' :: tail)).map (·.name) = _ := outline_names _ _ _ _
  obtain ⟨line,rest,cut⟩ := List.exists_cons_of_ne_nil (split_ne_nil '\n' tail)
  have oneLine : '\n' ∉ name ++ [':'] := by simp [nameForm_lineFeed form]
  have whole := split_before oneLine cut
  simp only [List.append_assoc,List.singleton_append] at whole
  have found := (Header.ofLine?_exact _ ⟨name,trim line⟩).mpr ⟨line,rfl,form,rfl⟩
  dsimp only at found
  rw [whole,List.filterMap_cons,found] at named
  have first := congrArg List.head? named
  rw [List.head?_map,top] at first
  have same : next.name = name := Option.some.inj first
  rw [same]
  exact opens

-- Two documents joined at a block of the document itself are read apart. What is read of the lower
-- one only moves down, and of the upper one only the last landmark ends one byte later.
theorem ofText_append (vocabulary : Vocabulary) (first : Text) {second : Text} (begins : BeginsBlock second) :
    let lines := first.count '\n' + 1
    let bytes := byteLength first + 1
    let above := (Spec.ofText vocabulary first).relocate 0 (·.stretch (scan first).getLast? 1)
    let below := (Spec.ofText vocabulary second).relocate lines (·.lower lines bytes)
    Spec.ofText vocabulary (first ++ '\n' :: second) =
      { functions := above.functions ++ below.functions
        dataBlocks := above.dataBlocks ++ below.dataBlocks
        constraints := above.constraints ++ below.constraints
        rawText := first ++ '\n' :: second } := by
  intro lines bytes above below
  have upper := Landmark.stretch_relocates (scan first).getLast? 1
  have lower := Landmark.lower_relocates lines bytes
  have start : ∀ next, ((scan second).map (·.lower lines bytes)).head? = some next →
      opensBlock next.name = true := by
    intro next top
    rw [List.head?_map] at top
    obtain ⟨landmark,found,rfl⟩ := Option.map_eq_some_iff.mp top
    exact scan_first begins landmark found
  have joined : scan (first ++ '\n' :: second) =
      (scan first).map (·.stretch (scan first).getLast? 1) ++ (scan second).map (·.lower lines bytes) :=
    scan_append first begins.header
  simp only [above,below,ofText_finished,Spec.relocate]
  rw [joined,functionsOf_append start]
  simp only [List.filter_append,filter_relocate upper,filter_relocate lower,functionsOf_relocate upper,
    functionsOf_relocate lower]

-- The upper text ends in a carriage return, and its last landmark is attached to a function. That
-- landmark is all that changes of the upper text, as the return is no longer at the end of it.
theorem ofText_append_return :
    let first := "FUNCTION: f() → int\nRULES: größe\r".toList
    let second := "DATA: Widget\nFUNCTION: g() → int".toList
    BeginsBlock second ∧
      (Spec.ofText .standard (first ++ '\n' :: second)).dataBlocks =
        [⟨HeaderName.data,"Widget".toList,3,38,51⟩] ∧
      (Spec.ofText .standard (first ++ '\n' :: second)).functions =
        (Spec.ofText .standard first).functions.map (·.relocate 0 (·.stretch (scan first).getLast? 1)) ++
          (Spec.ofText .standard second).functions.map (·.relocate 2 (·.lower 2 38)) ∧
      (Spec.ofText .standard first).functions.map (fun function =>
        (function.lineNumber,function.landmarks.get? HeaderName.rules)) =
          [(1,some ⟨HeaderName.rules,"größe".toList,2,22,37⟩)] ∧
      (Spec.ofText .standard (first ++ '\n' :: second)).functions.map (fun function =>
        (function.lineNumber,function.landmarks.get? HeaderName.rules)) =
          [(1,some ⟨HeaderName.rules,"größe".toList,2,22,38⟩), (4,none)] := by
  intro first second
  have begins : BeginsBlock second := ⟨HeaderName.data," Widget\nFUNCTION: g() → int".toList,by decide +kernel,by decide⟩
  have whole := ofText_append .standard first begins
  refine ⟨begins,?_,?_,?_,?_⟩
  · rw [whole]
    decide
  · rw [whole]
    rfl
  · decide +kernel
  · rw [whole]
    decide +kernel

end SpecLint
