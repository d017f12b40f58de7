import SpecLint.Proofs.Landmark.Compose
import SpecLint.Proofs.Lint.Matching

namespace SpecLint
open Text

-- One block with a name that means nothing to the document or to its functions.
def UnknownBlock (vocabulary : Vocabulary) (part : Text) : Prop := ∃ name tail body,
  split '\n' part = (name ++ ':' :: tail) :: body ∧ NameForm name ∧ opensBlock name = false ∧
    vocabulary.isFunctionLandmark name = false ∧ ∀ line ∈ body, ¬BeginsHeader line

def knownEntries (vocabulary : Vocabulary) (entries : List (Text × Text)) : List (Text × Text) :=
  entries.filter fun entry => opensBlock entry.1 || vocabulary.isFunctionLandmark entry.1

theorem kept_entries (vocabulary : Vocabulary) (landmarks : List Landmark) :
    (kept vocabulary landmarks).map (·.entry) = knownEntries vocabulary (landmarks.map (·.entry)) := by
  rw [kept,knownEntries,List.filter_map]
  rfl

theorem matches_entries {landmarks others : List Landmark}
    (same : landmarks.map (·.entry) = others.map (·.entry)) :
    List.Forall₂ (Landmark.Matches (· = ·)) landmarks others := by
  rw [← List.forall₂_eq_eq_eq,List.forall₂_map_left_iff,List.forall₂_map_right_iff] at same
  refine same.imp fun landmark other pair => ?_
  obtain ⟨name,content⟩ := Prod.mk.inj pair
  exact ⟨name,content⟩

theorem Spec.Matches.weaken {alike other : Text → Text → Prop}
    (weaker : ∀ content same, alike content same → other content same) {spec twin : Spec}
    (matched : spec.Matches alike twin) : spec.Matches other twin := by
  have landmarks : ∀ landmark same, Landmark.Matches alike landmark same →
      Landmark.Matches other landmark same := fun _ _ pair => ⟨pair.name,weaker _ _ pair.content⟩
  refine ⟨matched.functions.imp ?_,matched.dataBlocks.imp landmarks,matched.constraints.imp landmarks⟩
  intro function same pair
  refine ⟨pair.signature,pair.name,pair.inputs,pair.returnType,?_⟩
  intro key
  have read := pair.landmarks key
  generalize function.landmarks.get? key = mine at read ⊢
  generalize same.landmarks.get? key = theirs at read ⊢
  cases read with
  | none => exact .none
  | some first => exact .some (landmarks _ _ first)

-- A block that is not known is cut out without a trace.
theorem unknown_entries {vocabulary : Vocabulary} {name tail : Text} {body below : List Text}
    (form : NameForm name) (inner : opensBlock name = false)
    (other : vocabulary.isFunctionLandmark name = false) (plain : Plain body) (above : List Text)
    (ends : Ends below) :
    knownEntries vocabulary (entriesOf (above ++ ((name ++ ':' :: tail) :: (body ++ below)))) =
      knownEntries vocabulary (entriesOf (above ++ below)) := by
  have found := (Header.ofLine?_exact _ ⟨name,trim tail⟩).mpr ⟨tail,rfl,form,rfl⟩
  have closed : Closed ((name ++ ':' :: tail) :: (body ++ below)) := by
    intro line first
    rw [← Option.some.inj first,found]
    rfl
  rw [entriesOf_append above (.inl closed),entriesOf_append above ends,entriesOf,found,
    entriesOf_plain plain]
  simp [knownEntries,inner,other]

theorem inert_entries {vocabulary : Vocabulary} {above part below : Text}
    (aboveEnds : above = [] ∨ above.getLast? = some '\n') (partEnds : part.getLast? = some '\n')
    (belowBegins : below = [] ∨ BeginsHeader below)
    (inert : UnknownBlock vocabulary part ∨ ∀ line ∈ split '\n' (above ++ part), ¬BeginsHeader line) :
    knownEntries vocabulary (entriesOf (split '\n' (above ++ part ++ below))) =
      knownEntries vocabulary (entriesOf (split '\n' (above ++ below))) := by
  obtain ⟨first,rfl,plainAbove⟩ := ended_lines aboveEnds
  obtain ⟨lines,rfl,plainPart⟩ := ended_lines (.inr partEnds)
  have ends : Ends (split '\n' below) := by
    rcases belowBegins with rfl | begins
    · exact .inr rfl
    · exact .inl (closed_split begins)
  rw [List.append_assoc,split_above plainAbove,split_above plainPart,split_above plainAbove]
  rcases inert with unknown | prose
  · obtain ⟨name,tail,body,cut,form,inner,other,plain⟩ := unknown
    rw [split_ended plainPart] at cut
    cases lines with
    | nil =>
      have empty := (List.cons.inj cut).1
      simp at empty
    | cons line rest =>
      obtain ⟨rfl,rfl⟩ := List.cons.inj cut
      have plainRest : Plain rest := (plain_exact rest).mpr fun other member => plain other (by simp [member])
      exact unknown_entries form inner other plainRest first ends
  · rw [split_above plainAbove,split_ended plainPart] at prose
    have plain : Plain (first ++ lines) := by
      refine (plain_exact _).mpr fun line member => prose line ?_
      rw [← List.append_assoc]
      exact List.mem_append_left _ member
    have plainFirst : Plain first := fun line member => plain line (List.mem_append_left _ member)
    rw [← List.append_assoc,entriesOf_plain plain,entriesOf_plain plainFirst]

-- Blocks that nobody knows, and prose above the first header, leave no trace in what is read.
theorem lintText_inert (config : Config) {above part below : Text}
    (aboveEnds : above = [] ∨ above.getLast? = some '\n') (partEnds : part.getLast? = some '\n')
    (belowBegins : below = [] ∨ BeginsHeader below)
    (inert : UnknownBlock config.vocabulary part ∨
      ∀ line ∈ split '\n' (above ++ part), ¬BeginsHeader line) :
    lintText config (above ++ part ++ below) = lintText config (above ++ below) ∧
      (Spec.ofText config.vocabulary (above ++ part ++ below)).Matches (· = ·)
        (Spec.ofText config.vocabulary (above ++ below)) := by
  have same : (Spec.ofText config.vocabulary (above ++ part ++ below)).Matches (· = ·)
      (Spec.ofText config.vocabulary (above ++ below)) := by
    refine ofText_matches (fun _ _ => congrArg _) config.vocabulary (matches_entries ?_)
    rw [kept_entries,kept_entries,scan_entriesOf,scan_entriesOf]
    exact inert_entries aboveEnds partEnds belowBegins inert
  refine ⟨lint_matches (same.weaken ?_) config,same⟩
  intro content _ equal
  rw [equal]
  exact Alike.refl _

theorem lintText_inert_notes :
    let above := "FUNCTION: f(a) → b\n".toList
    let part := "NOTES: x\nmore\n".toList
    let below := "RULES:\n- y".toList
    lintText .standard (above ++ part ++ below) = lintText .standard (above ++ below) ∧
      (Spec.ofText .standard (above ++ part ++ below)).Matches (· = ·)
        (Spec.ofText .standard (above ++ below)) := by
  have begins : BeginsHeader "RULES:\n- y".toList := ⟨"RULES".toList,"\n- y".toList,by decide,by decide⟩
  have plain : Plain ["more".toList,[]] := by decide
  exact lintText_inert .standard (.inr (by decide)) (by decide) (.inr begins)
    (.inl ⟨"NOTES".toList," x".toList,["more".toList,[]],by decide,by decide,by decide,by decide,
      (plain_exact _).mp plain⟩)

end SpecLint
