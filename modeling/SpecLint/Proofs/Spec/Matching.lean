import Mathlib.Data.List.Forall2
import SpecLint.Proofs.Spec.Grouping

namespace SpecLint

section
variable (alike : Text → Text → Prop)

-- The same block with a content like the other one, wherever the two stand in their documents.
structure Landmark.Matches (landmark other : Landmark) : Prop where
  name : landmark.name = other.name
  content : alike landmark.content other.content

structure FunctionBlock.Matches (function other : FunctionBlock) : Prop where
  signature : function.signature = other.signature
  name : function.name = other.name
  inputs : function.inputs = other.inputs
  returnType : function.returnType = other.returnType
  landmarks : ∀ key, Option.Rel (Landmark.Matches alike)
    (function.landmarks.get? key) (other.landmarks.get? key)

structure Spec.Matches (spec other : Spec) : Prop where
  functions : List.Forall₂ (FunctionBlock.Matches alike) spec.functions other.functions
  dataBlocks : List.Forall₂ (Landmark.Matches alike) spec.dataBlocks other.dataBlocks
  constraints : List.Forall₂ (Landmark.Matches alike) spec.constraints other.constraints

end

-- The landmarks that the document or one of its functions keeps.
def kept (vocabulary : Vocabulary) (landmarks : List Landmark) : List Landmark :=
  landmarks.filter fun landmark => opensBlock landmark.name || vocabulary.isFunctionLandmark landmark.name

theorem kept_unknown {vocabulary : Vocabulary} {landmark : Landmark}
    (inner : opensBlock landmark.name = false)
    (other : ¬vocabulary.isFunctionLandmark landmark.name = true) (rest : List Landmark) :
    kept vocabulary (landmark :: rest) = kept vocabulary rest :=
  List.filter_cons_of_neg (by simp [inner,other])

theorem kept_known {vocabulary : Vocabulary} {landmark : Landmark}
    (known : opensBlock landmark.name = true ∨ vocabulary.isFunctionLandmark landmark.name = true)
    (rest : List Landmark) : kept vocabulary (landmark :: rest) = landmark :: kept vocabulary rest :=
  List.filter_cons_of_pos (by simpa using known)

theorem kept_named {name : Text} (opens : opensBlock name = true) (vocabulary : Vocabulary)
    (landmarks : List Landmark) :
    (kept vocabulary landmarks).filter (·.name = name) = landmarks.filter (·.name = name) := by
  rw [kept,List.filter_filter]
  apply List.filter_congr
  intro landmark _
  by_cases same : landmark.name = name
  · simp [same,opens]
  · simp [same]

theorem own_kept (vocabulary : Vocabulary) (landmarks : List Landmark) :
    own vocabulary (kept vocabulary landmarks) = own vocabulary landmarks := by
  induction landmarks with
  | nil => rfl
  | cons landmark rest ih =>
    cases opens : opensBlock landmark.name with
    | true => rw [kept_known (.inl opens),own_opens opens,own_opens opens]
    | false =>
      by_cases known : vocabulary.isFunctionLandmark landmark.name = true
      · rw [kept_known (.inr known),own_known opens known,own_known opens known,ih]
      · rw [kept_unknown opens known,own_unknown opens known,ih]

theorem functionsOf_kept (vocabulary : Vocabulary) (landmarks : List Landmark) :
    functionsOf vocabulary (kept vocabulary landmarks) = functionsOf vocabulary landmarks := by
  induction landmarks with
  | nil => rfl
  | cons landmark rest ih =>
    by_cases known : opensBlock landmark.name = true ∨ vocabulary.isFunctionLandmark landmark.name = true
    · rw [kept_known known,functionsOf,functionsOf,ih,own_kept]
    · rw [not_or,Bool.not_eq_true] at known
      have other : landmark.name ≠ HeaderName.function := (opensBlock_false.mp known.1).1
      rw [kept_unknown known.1 known.2,functionsOf,if_neg other,ih]

section
variable {alike : Text → Text → Prop}

theorem attach_matches {function other : FunctionBlock} {landmark same : Landmark}
    (functions : function.Matches alike other) (landmarks : landmark.Matches alike same) :
    (function.attach landmark).Matches alike (other.attach same) := by
  refine ⟨functions.signature,functions.name,functions.inputs,functions.returnType,?_⟩
  intro key
  unfold FunctionBlock.attach
  rw [Dictionary.get?_insert,Dictionary.get?_insert,landmarks.name]
  split
  · exact .some landmarks
  · exact functions.landmarks key

theorem attachAll_matches {landmarks others : List Landmark}
    (each : List.Forall₂ (Landmark.Matches alike) landmarks others) {function other : FunctionBlock}
    (start : function.Matches alike other) :
    (function.attachAll landmarks).Matches alike (other.attachAll others) := by
  induction each generalizing function other with
  | nil => exact start
  | cons first _ ih => exact ih (attach_matches start first)

theorem own_matches (vocabulary : Vocabulary) {landmarks others : List Landmark}
    (each : List.Forall₂ (Landmark.Matches alike) landmarks others) :
    List.Forall₂ (Landmark.Matches alike) (own vocabulary landmarks) (own vocabulary others) := by
  induction each with
  | nil => exact .nil
  | @cons landmark other _ _ first _ ih =>
    cases opens : opensBlock landmark.name with
    | true =>
      rw [own_opens opens,own_opens (first.name ▸ opens)]
      exact .nil
    | false =>
      by_cases known : vocabulary.isFunctionLandmark landmark.name = true
      · rw [own_known opens known,own_known (first.name ▸ opens) (first.name ▸ known)]
        exact .cons first ih
      · rw [own_unknown opens known,own_unknown (first.name ▸ opens) (first.name ▸ known)]
        exact ih

variable (signature : ∀ content other, alike content other →
  Signature.ofContent content = Signature.ofContent other)
include signature

theorem ofHeader_matches {landmark other : Landmark} (same : landmark.Matches alike other) :
    (FunctionBlock.ofHeader landmark).Matches alike (FunctionBlock.ofHeader other) := by
  have read := signature _ _ same.content
  refine ⟨?_,?_,?_,?_,fun key => ?_⟩
  · exact congrArg (·.line) read
  · exact congrArg (·.name) read
  · exact congrArg (·.inputs) read
  · exact congrArg (·.returnType) read
  · exact .none

theorem functionsOf_matches (vocabulary : Vocabulary) {landmarks others : List Landmark}
    (each : List.Forall₂ (Landmark.Matches alike) landmarks others) :
    List.Forall₂ (FunctionBlock.Matches alike) (functionsOf vocabulary landmarks)
      (functionsOf vocabulary others) := by
  induction each with
  | nil => exact .nil
  | @cons landmark other _ _ first below ih =>
    rw [functionsOf,functionsOf,first.name]
    split
    · exact .cons (attachAll_matches (own_matches vocabulary below) (ofHeader_matches signature first)) ih
    · exact ih

-- What a document says depends only on its kept landmarks and what is read from them.
theorem ofText_matches (vocabulary : Vocabulary) {text other : Text}
    (each : List.Forall₂ (Landmark.Matches alike) (kept vocabulary (scan text)) (kept vocabulary (scan other))) :
    (Spec.ofText vocabulary text).Matches alike (Spec.ofText vocabulary other) := by
  have named : ∀ name, opensBlock name = true → List.Forall₂ (Landmark.Matches alike)
      ((scan text).filter (·.name = name)) ((scan other).filter (·.name = name)) := by
    intro name opens
    rw [← kept_named opens vocabulary (scan text),← kept_named opens vocabulary (scan other)]
    refine List.rel_filter ?_ each
    intro landmark same pair
    simp only [pair.name]
  rw [ofText_finished,ofText_finished]
  refine ⟨?_,named _ (by decide),named _ (by decide)⟩
  have functions := functionsOf_matches signature vocabulary each
  rwa [functionsOf_kept,functionsOf_kept] at functions

end
end SpecLint
