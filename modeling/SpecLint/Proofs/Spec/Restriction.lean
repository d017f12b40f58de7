import Mathlib.Data.List.Sort
import SpecLint.Proofs.Spec.Grouping

namespace SpecLint

theorem lookup_filter (keep : Text → Bool) (entries : List (Text × α)) (key : Text) :
    (entries.filter (keep ·.1)).lookup key = if keep key then entries.lookup key else none := by
  induction entries with
  | nil => simp
  | cons entry rest ih =>
    rw [lookup_entry]
    cases kept : keep entry.1 with
    | true =>
      rw [List.filter_cons_of_pos (by simpa using kept),lookup_entry,ih]
      by_cases same : key = entry.1
      · simp [same,kept]
      · simp [same]
    | false =>
      rw [List.filter_cons_of_neg (by simp [kept]),ih]
      by_cases same : key = entry.1
      · simp [same,kept]
      · simp [same]

namespace Dictionary

-- What is held under those words that are kept.
def restrict (keep : Text → Bool) (map : Dictionary α) : Dictionary α :=
  ⟨map.entries.filter (keep ·.1),map.sorted.filter _⟩

theorem get?_restrict (keep : Text → Bool) (map : Dictionary α) (key : Text) :
    (map.restrict keep).get? key = if keep key then map.get? key else none := lookup_filter keep map.entries key

theorem keys_distinct (map : Dictionary α) : (map.entries.map (·.1)).Nodup := by
  apply List.pairwise_map.mpr
  apply map.sorted.imp
  intro entry other below same
  rw [same] at below
  exact List.lt_irrefl _ below

-- The order leaves one way to hold the same values under the same words.
theorem ext_get? {first second : Dictionary α} (same : ∀ key, first.get? key = second.get? key) :
    first = second := by
  have ordered : Std.Antisymm fun entry other : Text × α => entry.1 < other.1 :=
    ⟨fun _ _ below above => absurd above (List.lt_asymm below)⟩
  have strict : Std.Irrefl fun entry other : Text × α => entry.1 < other.1 :=
    ⟨fun _ => List.lt_irrefl _⟩
  apply same_entries
  apply first.sorted.eq_of_mem_iff second.sorted
  intro entry
  rw [← lookup_exact first.keys_distinct,← lookup_exact second.keys_distinct]
  exact iff_of_eq (congrArg (· = some entry.2) (same entry.1))

theorem restrict_kept {keep : Text → Bool} {key : Text} (kept : keep key = true) (value : α) (map : Dictionary α) :
    (map.insert key value).restrict keep = (map.restrict keep).insert key value := by
  apply ext_get?
  intro other
  simp only [get?_restrict,get?_insert]
  by_cases same : other = key
  · simp [same,kept]
  · simp [same]

theorem restrict_left {keep : Text → Bool} {key : Text} (left : keep key = false) (value : α) (map : Dictionary α) :
    (map.insert key value).restrict keep = map.restrict keep := by
  apply ext_get?
  intro other
  simp only [get?_restrict,get?_insert]
  by_cases same : other = key
  · simp [same,left]
  · simp [same]

theorem restrict_restrict (keep also : Text → Bool) (map : Dictionary α) :
    (map.restrict keep).restrict also = map.restrict fun key => also key && keep key := by
  apply same_entries
  exact List.filter_filter

end Dictionary

theorem map_modify {read : α → β} {change : α → α} {other : β → β}
    (same : ∀ value, read (change value) = other (read value)) (values : List α) (place : Nat) :
    (values.modify place change).map read = (values.map read).modify place other := by
  apply List.ext_getElem?
  intro index
  simp only [List.getElem?_map,List.getElem?_modify]
  cases values[index]? with
  | none => rfl
  | some value =>
    by_cases here : place = index
    · simp [here,same]
    · simp [here]

-- A document from which the landmarks under its functions are taken away unless they are kept.
def FunctionBlock.restrict (keep : Text → Bool) (function : FunctionBlock) : FunctionBlock :=
  { function with landmarks := function.landmarks.restrict keep }

def Spec.restrict (keep : Text → Bool) (spec : Spec) : Spec :=
  { spec with functions := spec.functions.map (·.restrict keep) }

def Draft.restrict (keep : Text → Bool) (draft : Draft) : Draft :=
  { draft with spec := draft.spec.restrict keep }

-- Nothing stands under a header yet.
theorem ofHeader_restrict (keep : Text → Bool) (header : Landmark) :
    (FunctionBlock.ofHeader header).restrict keep = .ofHeader header := rfl

section
variable {keep : Text → Bool} {landmark : Landmark}

theorem attach_kept (kept : keep landmark.name = true) (function : FunctionBlock) :
    (function.attach landmark).restrict keep = (function.restrict keep).attach landmark := by
  unfold FunctionBlock.restrict FunctionBlock.attach
  rw [Dictionary.restrict_kept kept]

theorem attach_left (left : keep landmark.name = false) (function : FunctionBlock) :
    (function.attach landmark).restrict keep = function.restrict keep := by
  unfold FunctionBlock.restrict FunctionBlock.attach
  rw [Dictionary.restrict_left left]

theorem modify_kept (kept : keep landmark.name = true) (functions : List FunctionBlock) (place : Nat) :
    (functions.modify place (·.attach landmark)).map (·.restrict keep) =
      (functions.map (·.restrict keep)).modify place (·.attach landmark) :=
  map_modify (attach_kept kept) functions place

theorem modify_left (left : keep landmark.name = false) (functions : List FunctionBlock) (place : Nat) :
    (functions.modify place (·.attach landmark)).map (·.restrict keep) = functions.map (·.restrict keep) := by
  have same : ∀ function : FunctionBlock, (function.attach landmark).restrict keep = id (function.restrict keep) :=
    attach_left left
  exact (map_modify same functions place).trans (List.modify_id _ _)

end

theorem Spec.restrict_restrict (keep also : Text → Bool) (spec : Spec) :
    (spec.restrict keep).restrict also = spec.restrict fun key => also key && keep key := by
  simp [restrict,FunctionBlock.restrict,Dictionary.restrict_restrict]

section
variable {small large : Vocabulary} (narrower : small.functionLandmarks.words ⊆ large.functionLandmarks.words)
include narrower

theorem narrower_known {name : Text} (known : small.isFunctionLandmark name = true) :
    large.isFunctionLandmark name = true := by
  unfold Vocabulary.isFunctionLandmark WordSet.contains at known ⊢
  exact List.elem_eq_true_of_mem (narrower (List.mem_of_elem_eq_true known))

-- Reading with fewer words stays in step: a landmark that only the larger vocabulary knows is taken
-- away again, and no other landmark is read in two ways.
theorem Draft.read_restrict (draft : Draft) (landmark : Landmark) :
    (draft.restrict small.isFunctionLandmark).read small landmark =
      (draft.read large landmark).restrict small.isFunctionLandmark := by
  have step := read_step large draft landmark
  generalize draft.read large landmark = next at step
  cases step with
  | function named => simp [read,named,restrict,Spec.restrict,ofHeader_restrict]
  | data named => simp [read,named,restrict,Spec.restrict,function_ne_data.symm]
  | constraint named =>
    simp [read,named,restrict,Spec.restrict,function_ne_constraint.symm,data_ne_constraint.symm]
  | @attach place inner known current =>
    obtain ⟨noFunction,noData,noConstraint⟩ := opensBlock_false.mp inner
    cases kept : small.isFunctionLandmark landmark.name with
    | true =>
      simp [read,noFunction,noData,noConstraint,kept,restrict,Spec.restrict,current,modify_kept kept]
    | false =>
      simp [read,noFunction,noData,noConstraint,kept,restrict,Spec.restrict,current,modify_left kept]
  | orphan inner known current =>
    obtain ⟨noFunction,noData,noConstraint⟩ := opensBlock_false.mp inner
    simp [read,noFunction,noData,noConstraint,restrict,current]
  | unknown inner other =>
    obtain ⟨noFunction,noData,noConstraint⟩ := opensBlock_false.mp inner
    have smaller : small.isFunctionLandmark landmark.name = false := by
      rw [Bool.eq_false_iff]
      exact fun known => other (narrower_known narrower known)
    simp [read,noFunction,noData,noConstraint,restrict,smaller]

theorem Draft.run_restrict (draft : Draft) (landmarks : List Landmark) :
    landmarks.foldl (read small) (draft.restrict small.isFunctionLandmark) =
      (landmarks.foldl (read large) draft).restrict small.isFunctionLandmark := by
  induction landmarks generalizing draft with
  | nil => rfl
  | cons landmark rest ih =>
    rw [List.foldl_cons,List.foldl_cons,read_restrict narrower]
    exact ih (draft.read large landmark)

theorem ofText_restrict (text : Text) :
    Spec.ofText small text = (Spec.ofText large text).restrict small.isFunctionLandmark :=
  congrArg (·.spec) (Draft.run_restrict narrower (.start text) (scan text))

end
end SpecLint
