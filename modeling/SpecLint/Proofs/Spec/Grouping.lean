import Mathlib.Data.List.TakeWhile
import SpecLint.Proofs.Dictionary
import SpecLint.Spec.Parse

namespace SpecLint

-- The names of the blocks of a document itself.
def opensBlock (name : Text) : Bool :=
  name == HeaderName.function || name == HeaderName.data || name == HeaderName.constraint

-- What attaches to a function whose header stands just above these landmarks.
def own (vocabulary : Vocabulary) (landmarks : List Landmark) : List Landmark :=
  (landmarks.takeWhile (!opensBlock ·.name)).filter (vocabulary.isFunctionLandmark ·.name)

def FunctionBlock.attachAll (function : FunctionBlock) (landmarks : List Landmark) : FunctionBlock :=
  landmarks.foldl .attach function

def functionsOf (vocabulary : Vocabulary) : List Landmark → List FunctionBlock
  | [] => []
  | landmark :: rest =>
    if landmark.name = HeaderName.function then
      (FunctionBlock.ofHeader landmark).attachAll (own vocabulary rest) :: functionsOf vocabulary rest
    else functionsOf vocabulary rest

namespace Draft

-- The functions that a draft has when these landmarks are read too, its current one filled up.
def filled (vocabulary : Vocabulary) (draft : Draft) (landmarks : List Landmark) : List FunctionBlock :=
  match draft.current with
  | none => draft.spec.functions
  | some place => draft.spec.functions.modify place (·.attachAll (own vocabulary landmarks))

def finished (vocabulary : Vocabulary) (draft : Draft) (landmarks : List Landmark) : Spec :=
  { functions := draft.filled vocabulary landmarks ++ functionsOf vocabulary landmarks
    dataBlocks := draft.spec.dataBlocks ++ landmarks.filter (·.name = HeaderName.data)
    constraints := draft.spec.constraints ++ landmarks.filter (·.name = HeaderName.constraint)
    rawText := draft.spec.rawText }

-- Everything that reading one landmark can do.
inductive Step (vocabulary : Vocabulary) (draft : Draft) (landmark : Landmark) : Draft → Prop where
  | function (named : landmark.name = HeaderName.function) : Step vocabulary draft landmark
      ⟨{ draft.spec with functions := draft.spec.functions ++ [.ofHeader landmark] },
        some draft.spec.functions.length⟩
  | data (named : landmark.name = HeaderName.data) : Step vocabulary draft landmark
      ⟨{ draft.spec with dataBlocks := draft.spec.dataBlocks ++ [landmark] },none⟩
  | constraint (named : landmark.name = HeaderName.constraint) : Step vocabulary draft landmark
      ⟨{ draft.spec with constraints := draft.spec.constraints ++ [landmark] },none⟩
  | attach (inner : opensBlock landmark.name = false)
      (known : vocabulary.isFunctionLandmark landmark.name = true)
      (current : draft.current = some place) : Step vocabulary draft landmark
      ⟨{ draft.spec with functions := draft.spec.functions.modify place (·.attach landmark) },some place⟩
  | orphan (inner : opensBlock landmark.name = false)
      (known : vocabulary.isFunctionLandmark landmark.name = true)
      (current : draft.current = none) : Step vocabulary draft landmark draft
  | unknown (inner : opensBlock landmark.name = false)
      (other : ¬vocabulary.isFunctionLandmark landmark.name = true) :
      Step vocabulary draft landmark draft

end Draft

theorem function_ne_data : HeaderName.function ≠ HeaderName.data := by decide

theorem function_ne_constraint : HeaderName.function ≠ HeaderName.constraint := by decide

theorem data_ne_constraint : HeaderName.data ≠ HeaderName.constraint := by decide

theorem opensBlock_exact (name : Text) : opensBlock name = true ↔
    name = HeaderName.function ∨ name = HeaderName.data ∨ name = HeaderName.constraint := by
  simp [opensBlock,or_assoc]

theorem opensBlock_false {name : Text} : opensBlock name = false ↔
    name ≠ HeaderName.function ∧ name ≠ HeaderName.data ∧ name ≠ HeaderName.constraint := by
  simp [opensBlock,and_assoc]

theorem own_opens {landmark : Landmark} (opens : opensBlock landmark.name = true)
    (vocabulary : Vocabulary) (rest : List Landmark) : own vocabulary (landmark :: rest) = [] := by
  simp [own,opens]

theorem own_known {landmark : Landmark} {vocabulary : Vocabulary}
    (inner : opensBlock landmark.name = false)
    (known : vocabulary.isFunctionLandmark landmark.name = true) (rest : List Landmark) :
    own vocabulary (landmark :: rest) = landmark :: own vocabulary rest := by
  simp [own,inner,known]

theorem own_unknown {landmark : Landmark} {vocabulary : Vocabulary}
    (inner : opensBlock landmark.name = false)
    (other : ¬vocabulary.isFunctionLandmark landmark.name = true) (rest : List Landmark) :
    own vocabulary (landmark :: rest) = own vocabulary rest := by
  simp [own,inner,other]

theorem modify_same {values : List α} {change : α → α} (same : ∀ value, change value = value)
    (place : Nat) : values.modify place change = values := by
  have identity : change = id := funext same
  rw [identity,List.modify_id]

theorem modify_last (values : List α) (value : α) (change : α → α) :
    (values ++ [value]).modify values.length change = values ++ [change value] := by
  induction values with
  | nil => rfl
  | cons first values ih => simp [ih]

namespace Draft

theorem read_step (vocabulary : Vocabulary) (draft : Draft) (landmark : Landmark) :
    Step vocabulary draft landmark (draft.read vocabulary landmark) := by
  unfold read
  dsimp only
  split
  · rename_i named
    exact .function named
  · rename_i noFunction
    split
    · rename_i named
      exact .data named
    · rename_i noData
      split
      · rename_i named
        exact .constraint named
      · rename_i noConstraint
        have inner := opensBlock_false.mpr ⟨noFunction,noData,noConstraint⟩
        split
        · rename_i known
          split
          · rename_i current
            exact .orphan inner known current
          · rename_i current
            exact .attach inner known current
        · rename_i other
          exact .unknown inner other

theorem filled_opens (vocabulary : Vocabulary) (draft : Draft) (landmark : Landmark)
    (rest : List Landmark) (opens : opensBlock landmark.name = true) :
    draft.filled vocabulary (landmark :: rest) = draft.spec.functions := by
  unfold filled
  rw [own_opens opens]
  cases draft.current with
  | none => rfl
  | some place => exact modify_same (fun _ => rfl) place

theorem filled_none {draft : Draft} (current : draft.current = none) (vocabulary : Vocabulary)
    (landmarks : List Landmark) : draft.filled vocabulary landmarks = draft.spec.functions := by
  simp only [filled,current]

theorem filled_some {draft : Draft} {place : Nat} (current : draft.current = some place)
    (vocabulary : Vocabulary) (landmarks : List Landmark) : draft.filled vocabulary landmarks =
      draft.spec.functions.modify place (·.attachAll (own vocabulary landmarks)) := by
  simp only [filled,current]

-- A landmark inside a function begins no block, so only the functions can change.
theorem finished_inner {draft next : Draft} {landmark : Landmark} {vocabulary : Vocabulary}
    {rest : List Landmark} (inner : opensBlock landmark.name = false)
    (functions : next.filled vocabulary rest = draft.filled vocabulary (landmark :: rest))
    (dataBlocks : next.spec.dataBlocks = draft.spec.dataBlocks)
    (constraints : next.spec.constraints = draft.spec.constraints)
    (rawText : next.spec.rawText = draft.spec.rawText) :
    next.finished vocabulary rest = draft.finished vocabulary (landmark :: rest) := by
  obtain ⟨noFunction,noData,noConstraint⟩ := opensBlock_false.mp inner
  simp [finished,functions,dataBlocks,constraints,rawText,functionsOf,noFunction,noData,noConstraint]

-- Reading one landmark does not change what the draft ends as.
theorem read_finished (vocabulary : Vocabulary) (draft : Draft) (landmark : Landmark)
    (rest : List Landmark) : (draft.read vocabulary landmark).finished vocabulary rest =
      draft.finished vocabulary (landmark :: rest) := by
  have step := read_step vocabulary draft landmark
  generalize draft.read vocabulary landmark = next at step
  cases step with
  | function named =>
    have opens : opensBlock landmark.name = true := (opensBlock_exact _).mpr (.inl named)
    unfold finished
    rw [filled_opens vocabulary draft landmark rest opens,filled_some rfl,modify_last]
    simp [functionsOf,named,function_ne_data,function_ne_constraint]
  | data named =>
    have opens : opensBlock landmark.name = true := (opensBlock_exact _).mpr (.inr (.inl named))
    unfold finished
    rw [filled_opens vocabulary draft landmark rest opens,filled_none rfl]
    simp [functionsOf,named,function_ne_data.symm,data_ne_constraint]
  | constraint named =>
    have opens : opensBlock landmark.name = true := (opensBlock_exact _).mpr (.inr (.inr named))
    unfold finished
    rw [filled_opens vocabulary draft landmark rest opens,filled_none rfl]
    simp [functionsOf,named,function_ne_constraint.symm,data_ne_constraint.symm]
  | @attach place inner known current =>
    refine finished_inner inner ?_ rfl rfl rfl
    rw [filled_some rfl,filled_some current,own_known inner known,List.modify_modify_eq]
    rfl
  | orphan inner known current =>
    refine finished_inner inner ?_ rfl rfl rfl
    rw [filled_none current,filled_none current]
  | unknown inner other =>
    refine finished_inner inner ?_ rfl rfl rfl
    unfold filled
    rw [own_unknown inner other]

theorem run_finished (vocabulary : Vocabulary) (draft : Draft) (landmarks : List Landmark) :
    (landmarks.foldl (read vocabulary) draft).spec = draft.finished vocabulary landmarks := by
  induction landmarks generalizing draft with
  | nil =>
    have whole : draft.filled vocabulary [] = draft.spec.functions := by
      unfold filled
      cases draft.current with
      | none => rfl
      | some place => exact modify_same (fun _ => rfl) place
    simp [finished,whole,functionsOf]
  | cons landmark rest ih =>
    rw [List.foldl_cons,ih]
    exact read_finished vocabulary draft landmark rest

end Draft

-- What the header of a function says, apart from what is attached below it.
def FunctionBlock.heading (function : FunctionBlock) : Signature × Nat :=
  (⟨function.signature,function.name,function.inputs,function.returnType⟩,function.lineNumber)

theorem heading_attachAll (function : FunctionBlock) (landmarks : List Landmark) :
    (function.attachAll landmarks).heading = function.heading := by
  induction landmarks generalizing function with
  | nil => rfl
  | cons landmark rest ih => exact ih (function.attach landmark)

theorem attachAll_get? (function : FunctionBlock) (landmarks : List Landmark) (key : Text) :
    (function.attachAll landmarks).landmarks.get? key =
      ((landmarks.filter (·.name = key)).getLast?).or (function.landmarks.get? key) := by
  induction landmarks generalizing function with
  | nil => rfl
  | cons landmark rest ih =>
    have step : (function.attach landmark).landmarks.get? key =
        if key = landmark.name then some landmark else function.landmarks.get? key :=
      Dictionary.get?_insert _ _ _ _
    refine (ih (function.attach landmark)).trans ?_
    rw [step]
    by_cases same : landmark.name = key
    · rw [List.filter_cons_of_pos (by simpa using same),if_pos same.symm,List.getLast?_cons]
      cases (rest.filter (·.name = key)).getLast? <;> rfl
    · rw [List.filter_cons_of_neg (by simpa using same),if_neg (Ne.symm same)]

theorem ofHeader_get? (header : Landmark) (landmarks : List Landmark) (key : Text) :
    ((FunctionBlock.ofHeader header).attachAll landmarks).landmarks.get? key =
      (landmarks.filter (·.name = key)).getLast? := by
  have start : (FunctionBlock.ofHeader header).landmarks.get? key = none := Dictionary.get?_empty key
  rw [attachAll_get?,start,Option.or_none]

theorem functionsOf_headings (vocabulary : Vocabulary) (landmarks : List Landmark) :
    (functionsOf vocabulary landmarks).map (·.heading) =
      (landmarks.filter (·.name = HeaderName.function)).map fun header =>
        (Signature.ofContent header.content,header.lineNumber) := by
  induction landmarks with
  | nil => rfl
  | cons landmark rest ih =>
    unfold functionsOf
    split
    · rename_i named
      rw [List.map_cons,heading_attachAll,ih,List.filter_cons_of_pos (by simpa using named)]
      rfl
    · rename_i other
      rw [ih,List.filter_cons_of_neg (by simpa using other)]

-- The landmarks under the header of a function, counted from zero: those between it and the next
-- block of the document.
def Under (landmarks : List Landmark) (index : Nat) (header : Landmark) (under : List Landmark) : Prop :=
  ∃ above below, landmarks = above ++ header :: (under ++ below) ∧
    header.name = HeaderName.function ∧
    above.countP (·.name = HeaderName.function) = index ∧
    (∀ landmark ∈ under, opensBlock landmark.name = false) ∧
    ∀ next, below.head? = some next → opensBlock next.name = true

theorem under_exact (landmarks under : List Landmark) : (∃ below, landmarks = under ++ below ∧
    (∀ landmark ∈ under, opensBlock landmark.name = false) ∧
    ∀ next, below.head? = some next → opensBlock next.name = true) ↔
    under = landmarks.takeWhile (!opensBlock ·.name) := by
  constructor
  · intro cut
    obtain ⟨below,rfl,inner,closed⟩ := cut
    rw [List.takeWhile_append_of_pos (by simpa using inner)]
    cases below with
    | nil => simp
    | cons next below => simp [closed next rfl]
  · intro same
    subst same
    refine ⟨landmarks.dropWhile (!opensBlock ·.name),List.takeWhile_append_dropWhile.symm,?_,?_⟩
    · intro landmark member
      simpa using List.mem_takeWhile_imp member
    · intro next first
      have stop := List.head?_dropWhile_not (fun landmark : Landmark => !opensBlock landmark.name) landmarks
      rw [first] at stop
      simpa using stop

theorem under_first {landmark : Landmark} (named : landmark.name = HeaderName.function)
    (rest under : List Landmark) (header : Landmark) : Under (landmark :: rest) 0 header under ↔
      header = landmark ∧ under = rest.takeWhile (!opensBlock ·.name) := by
  rw [← under_exact]
  constructor
  · intro placed
    obtain ⟨above,below,same,_,count,inner,closed⟩ := placed
    cases above with
    | nil =>
      obtain ⟨rfl,rfl⟩ := List.cons.inj same
      exact ⟨rfl,below,rfl,inner,closed⟩
    | cons first above =>
      obtain ⟨rfl,_⟩ := List.cons.inj same
      simp [named] at count
  · intro placed
    obtain ⟨rfl,below,rfl,inner,closed⟩ := placed
    exact ⟨[],below,rfl,named,rfl,inner,closed⟩

-- Above every other function there is the first landmark too.
theorem under_rest (landmark : Landmark) {rest under : List Landmark} {header : Landmark} {index : Nat}
    (placed : Under rest index header under) : Under (landmark :: rest)
      (if landmark.name = HeaderName.function then index + 1 else index) header under := by
  obtain ⟨above,below,rfl,named,rfl,inner,closed⟩ := placed
  refine ⟨landmark :: above,below,rfl,named,?_,inner,closed⟩
  rw [List.countP_cons]
  split <;> simp_all

theorem under_later {landmark : Landmark} (named : landmark.name = HeaderName.function)
    (rest under : List Landmark) (header : Landmark) (index : Nat) :
    Under (landmark :: rest) (index + 1) header under ↔ Under rest index header under := by
  constructor
  · intro placed
    obtain ⟨above,below,same,function,count,inner,closed⟩ := placed
    cases above with
    | nil => simp at count
    | cons first above =>
      obtain ⟨rfl,rfl⟩ := List.cons.inj same
      refine ⟨above,below,rfl,function,?_,inner,closed⟩
      simpa [named] using count
  · intro placed
    simpa [named] using under_rest landmark placed

theorem under_other {landmark : Landmark} (other : landmark.name ≠ HeaderName.function)
    (rest under : List Landmark) (header : Landmark) (index : Nat) :
    Under (landmark :: rest) index header under ↔ Under rest index header under := by
  constructor
  · intro placed
    obtain ⟨above,below,same,function,count,inner,closed⟩ := placed
    cases above with
    | nil =>
      obtain ⟨rfl,rfl⟩ := List.cons.inj same
      exact absurd function other
    | cons first above =>
      obtain ⟨rfl,rfl⟩ := List.cons.inj same
      refine ⟨above,below,rfl,function,?_,inner,closed⟩
      simpa [other] using count
  · intro placed
    simpa [other] using under_rest landmark placed

theorem functionsOf_under (vocabulary : Vocabulary) (landmarks : List Landmark) (index : Nat)
    (function : FunctionBlock) : (functionsOf vocabulary landmarks)[index]? = some function ↔
      ∃ header under, Under landmarks index header under ∧
        (FunctionBlock.ofHeader header).attachAll
          (under.filter (vocabulary.isFunctionLandmark ·.name)) = function := by
  induction landmarks generalizing index with
  | nil => simp [functionsOf,Under]
  | cons landmark rest ih =>
    unfold functionsOf
    split
    · rename_i named
      cases index with
      | zero =>
        simp only [under_first named,List.getElem?_cons_zero,Option.some.injEq]
        constructor
        · intro same
          exact ⟨landmark,_,⟨rfl,rfl⟩,same⟩
        · intro placed
          obtain ⟨_,_,⟨rfl,rfl⟩,same⟩ := placed
          exact same
      | succ index => simpa only [under_later named,List.getElem?_cons_succ] using ih index
    · rename_i other
      simpa only [under_other other] using ih index

-- A specification groups landmarks: what it holds, said of their names and places.
structure Grouped (vocabulary : Vocabulary) (landmarks : List Landmark) (spec : Spec) : Prop where
  headings : spec.functions.map (·.heading) =
    (landmarks.filter (·.name = HeaderName.function)).map fun header =>
      (Signature.ofContent header.content,header.lineNumber)
  attached : ∀ index function, spec.functions[index]? = some function → ∀ key value,
    function.landmarks.get? key = some value ↔
      vocabulary.isFunctionLandmark key = true ∧ opensBlock key = false ∧
      ∃ header under, Under landmarks index header under ∧
        (under.filter (·.name = key)).getLast? = some value
  dataBlocks : spec.dataBlocks = landmarks.filter (·.name = HeaderName.data)
  constraints : spec.constraints = landmarks.filter (·.name = HeaderName.constraint)

theorem ofText_finished (vocabulary : Vocabulary) (text : Text) : Spec.ofText vocabulary text =
    ⟨functionsOf vocabulary (scan text),(scan text).filter (·.name = HeaderName.data),
      (scan text).filter (·.name = HeaderName.constraint),text⟩ :=
  Draft.run_finished vocabulary (.start text) (scan text)

-- A vocabulary takes or leaves the landmarks of one name together.
theorem filter_known (vocabulary : Vocabulary) (landmarks : List Landmark) (key : Text) :
    (landmarks.filter (vocabulary.isFunctionLandmark ·.name)).filter (·.name = key) =
      if vocabulary.isFunctionLandmark key then landmarks.filter (·.name = key) else [] := by
  rw [List.filter_filter]
  split
  · rename_i known
    apply List.filter_congr
    intro landmark member
    by_cases same : landmark.name = key
    · simp [same,known]
    · simp [same]
  · rename_i unknown
    rw [List.filter_eq_nil_iff]
    intro landmark member both
    simp only [Bool.and_eq_true,decide_eq_true_eq] at both
    rw [both.1] at both
    exact unknown both.2

theorem attached_get? (vocabulary : Vocabulary) (header : Landmark) (under : List Landmark) (key : Text) :
    ((FunctionBlock.ofHeader header).attachAll
      (under.filter (vocabulary.isFunctionLandmark ·.name))).landmarks.get? key =
      if vocabulary.isFunctionLandmark key then (under.filter (·.name = key)).getLast? else none := by
  rw [ofHeader_get?,filter_known]
  split <;> rfl

theorem ofText_grouped (vocabulary : Vocabulary) (text : Text) :
    Grouped vocabulary (scan text) (Spec.ofText vocabulary text) ∧
      (Spec.ofText vocabulary text).rawText = text := by
  rw [ofText_finished]
  refine ⟨⟨functionsOf_headings _ _,?_,rfl,rfl⟩,rfl⟩
  intro index function found key value
  constructor
  · intro got
    obtain ⟨header,under,placed,same⟩ := (functionsOf_under _ _ _ _).mp found
    rw [← same,attached_get?] at got
    split at got
    · rename_i known
      have member := List.mem_of_getLast? got
      simp only [List.mem_filter,decide_eq_true_eq] at member
      obtain ⟨_,_,_,_,_,inner,_⟩ := id placed
      have noBlock := inner value member.1
      rw [member.2] at noBlock
      exact ⟨known,noBlock,header,under,placed,got⟩
    · cases got
  · intro described
    obtain ⟨known,_,header,under,placed,last⟩ := described
    have same := (functionsOf_under vocabulary _ _ _).mpr ⟨header,under,placed,rfl⟩
    rw [found] at same
    rw [Option.some.inj same,attached_get?,if_pos known]
    exact last

end SpecLint
