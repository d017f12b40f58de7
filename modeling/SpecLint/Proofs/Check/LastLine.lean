import Mathlib.Logic.Relation
import SpecLint.Proofs.Check.Evolution
import SpecLint.Proofs.Dictionary
import SpecLint.Proofs.Lint.Acceptance

namespace SpecLint
open Text

-- The line that decides a key: the last one which carries it.
def LastLine (key content line : Text) : Prop := ∃ above below,
  lines content = above ++ line :: below ∧ Carries key line ∧ ∀ other ∈ below, ¬Carries key other

-- Contents with one and the same line for a key, or without any.
def SameLast (key content other : Text) : Prop := ∀ line, LastLine key content line ↔ LastLine key other line

def lastCarrying? (key : Text) (texts : List Text) : Option Text :=
  (texts.filter fun line => Carries key line).getLast?

theorem lastCarrying?_exact (key : Text) (texts : List Text) (line : Text) :
    lastCarrying? key texts = some line ↔ ∃ above below, texts = above ++ line :: below ∧
      Carries key line ∧ ∀ other ∈ below, ¬Carries key other := by
  simp only [lastCarrying?,List.getLast?_eq_some_iff,List.filter_eq_append_iff]
  constructor
  · intro found
    obtain ⟨_,above,last,rfl,_,only⟩ := found
    obtain ⟨skipped,below,rfl,_,carries,others⟩ := List.filter_eq_cons_iff.mp only
    refine ⟨above ++ skipped,below,(List.append_assoc _ _ _).symm,of_decide_eq_true carries,?_⟩
    intro other member
    simpa using List.filter_eq_nil_iff.mp others other member
  · intro last
    obtain ⟨above,below,rfl,carries,others⟩ := last
    refine ⟨_,above,line :: below,rfl,rfl,?_⟩
    rw [List.filter_cons_of_pos (by simpa using carries),List.filter_eq_nil_iff.mpr]
    intro other member
    simpa using others other member

theorem lastLine_exact (key content line : Text) :
    LastLine key content line ↔ lastCarrying? key (lines content) = some line :=
  (lastCarrying?_exact _ _ _).symm

theorem sameLast_exact (key content other : Text) :
    SameLast key content other ↔ lastCarrying? key (lines content) = lastCarrying? key (lines other) := by
  simp only [SameLast,lastLine_exact]
  constructor
  · intro same
    exact Option.ext same
  · intro same line
    rw [same]

instance (key content other : Text) : Decidable (SameLast key content other) :=
  decidable_of_iff _ (sameLast_exact key content other).symm

theorem lastValue_exact (key content value : Text) :
    LastValue key content value ↔ ∃ line, LastLine key content line ∧ LineValue line value := by
  constructor
  · intro last
    obtain ⟨above,line,below,cut,carries,others,read⟩ := last
    exact ⟨line,⟨above,below,cut,carries,others⟩,read⟩
  · intro last
    obtain ⟨line,⟨above,below,cut,carries,others⟩,read⟩ := last
    exact ⟨above,line,below,cut,carries,others,read⟩

-- The value of a key is read from the line that decides it, whatever else stands in the content.
theorem lastField?_same {key content other : Text} (same : SameLast key content other) :
    lastField? key content = lastField? key other := by
  apply Option.ext
  intro value
  simp only [lastField?_exact,lastValue_exact,same _]

-- One change to the lines of a content: a line more, or two lines the other way round. What is
-- inserted or passed over decides no key, since another line below carries the key again.
inductive Edit (keys : List Text) : List Text → List Text → Prop where
  | insert (above : List Text) (line : Text) (below : List Text)
      (again : ∀ key ∈ keys, Carries key line → ∃ other ∈ below, Carries key other) :
      Edit keys (above ++ below) (above ++ line :: below)
  | swap (above : List Text) (first second : Text) (below : List Text)
      (again : ∀ key ∈ keys, Carries key first → Carries key second → ∃ other ∈ below, Carries key other) :
      Edit keys (above ++ first :: second :: below) (above ++ second :: first :: below)

theorem lastCarrying?_append (key : Text) (above below : List Text) :
    lastCarrying? key (above ++ below) = (lastCarrying? key below).or (lastCarrying? key above) := by
  rw [lastCarrying?,List.filter_append,List.getLast?_append,lastCarrying?,lastCarrying?]

theorem lastCarrying?_cons (key line : Text) (below : List Text) : lastCarrying? key (line :: below) =
    (lastCarrying? key below).or (if Carries key line then some line else none) := by
  have single : lastCarrying? key [line] = if Carries key line then some line else none := by
    unfold lastCarrying?
    by_cases carries : Carries key line <;> simp [carries]
  rw [← single]
  exact lastCarrying?_append key [line] below

theorem lastCarrying?_some {key : Text} {below : List Text} (again : ∃ other ∈ below, Carries key other) :
    ∃ last, lastCarrying? key below = some last := by
  obtain ⟨other,member,carries⟩ := again
  have kept : other ∈ below.filter fun line => Carries key line :=
    List.mem_filter.mpr ⟨member,decide_eq_true carries⟩
  exact ⟨_,List.getLast?_eq_some_getLast (List.ne_nil_of_mem kept)⟩

theorem Edit.lastCarrying? {keys texts others : List Text} (edit : Edit keys texts others) {key : Text}
    (member : key ∈ keys) : lastCarrying? key texts = SpecLint.lastCarrying? key others := by
  cases edit with
  | insert above line below again =>
    simp only [lastCarrying?_append,lastCarrying?_cons]
    by_cases carries : Carries key line
    · obtain ⟨last,found⟩ := lastCarrying?_some (again key member carries)
      simp only [found,Option.some_or]
    · simp only [if_neg carries,Option.or_none]
  | swap above first second below again =>
    simp only [lastCarrying?_append,lastCarrying?_cons]
    by_cases carries : Carries key first ∧ Carries key second
    · obtain ⟨last,found⟩ := lastCarrying?_some (again key member carries.1 carries.2)
      simp only [found,Option.some_or]
    · by_cases first : Carries key first
      · have second : ¬Carries key second := fun second => carries ⟨first,second⟩
        simp only [if_neg second,Option.or_none]
      · simp only [if_neg first,Option.or_none]

theorem edits_lastCarrying? {keys texts others : List Text}
    (edits : Relation.EqvGen (Edit keys) texts others) {key : Text} (member : key ∈ keys) :
    lastCarrying? key texts = lastCarrying? key others := by
  induction edits with
  | rel _ _ edit => exact edit.lastCarrying? member
  | refl _ => rfl
  | symm _ _ _ ih => exact ih.symm
  | trans _ _ _ _ _ first second => exact first.trans second

-- Two functions that both have a landmark of a name and differ in nothing else.
structure FunctionBlock.DiffersAt (name : Text) (function other : FunctionBlock) : Prop where
  heading : function.heading = other.heading
  attached : function.has name = true
  stays : other.has name = true
  elsewhere : ∀ key ≠ name, function.landmarks.get? key = other.landmarks.get? key

namespace FunctionBlock.DiffersAt
variable {name : Text} {function other : FunctionBlock} (differs : function.DiffersAt name other)
include differs

theorem location : function.location = other.location := by
  have named : function.name = other.name :=
    (Signature.mk.inj (congrArg Prod.fst differs.heading)).2.1
  unfold FunctionBlock.location
  rw [named]

theorem has (key : Text) : function.has key = other.has key := by
  by_cases same : key = name
  · rw [same,differs.attached,differs.stays]
  · rw [FunctionBlock.has,Dictionary.contains,differs.elsewhere key same]
    rfl

theorem contentOf {key : Text} (apart : key ≠ name) : function.contentOf key = other.contentOf key := by
  rw [FunctionBlock.contentOf,differs.elsewhere key apart]
  rfl

end FunctionBlock.DiffersAt

theorem attach_differs (function : FunctionBlock) (name content other : Text) (number first last : Nat) :
    (function.attach ⟨name,content,number,first,last⟩).DiffersAt name
      (function.attach ⟨name,other,number,first,last⟩) := by
  refine ⟨rfl,?_,?_,?_⟩
  · simp [FunctionBlock.attach,FunctionBlock.has,Dictionary.contains,Dictionary.get?_insert]
  · simp [FunctionBlock.attach,FunctionBlock.has,Dictionary.contains,Dictionary.get?_insert]
  · intro key apart
    simp only [FunctionBlock.attach,Dictionary.get?_insert,if_neg apart]

theorem evolutionFindings_same {function other : FunctionBlock}
    (differs : function.DiffersAt HeaderName.eval other)
    (same : ∀ key ∈ ["preserve".toList,"evolve".toList,"grading".toList],
      SameLast key (function.contentOf HeaderName.eval) (other.contentOf HeaderName.eval)) :
    evolutionFindings function = evolutionFindings other := by
  have fields : EvalFields.ofContent (function.contentOf HeaderName.eval) =
      EvalFields.ofContent (other.contentOf HeaderName.eval) := by
    simp only [EvalFields.ofContent_fields,lastField?_same (same "preserve".toList (by decide)),
      lastField?_same (same "evolve".toList (by decide)),lastField?_same (same "grading".toList (by decide))]
  have baseline : HeaderName.baseline ≠ HeaderName.eval := by decide
  have faults : evolutionFaults function = evolutionFaults other := by
    simp only [evolutionFaults,evalFaults,fields,differs.has,differs.contentOf baseline]
  rw [evolutionFindings,faults,differs.location,evolutionFindings]

theorem determinismFindings_same {function other : FunctionBlock}
    (differs : function.DiffersAt HeaderName.determinism other)
    (same : SameLast "level".toList (function.contentOf HeaderName.determinism)
      (other.contentOf HeaderName.determinism)) :
    determinismFindings function = determinismFindings other := by
  have faults : levelFaults (function.contentOf HeaderName.determinism) =
      levelFaults (other.contentOf HeaderName.determinism) := by
    rw [levelFaults,lastField?_same same,levelFaults]
  rw [determinismFindings,faults,differs.has,differs.location,determinismFindings]

-- The line that decides the level of a content gives one that exists.
def GivesLevel (content : Text) : Prop := ∃ line level, LastLine "level".toList content line ∧
  LineValue line level ∧ level ∈ ["strict".toList,"structural".toList,"semantic".toList]

-- The errors of the determinism check for one function: one at most, and that where its landmark
-- gives no level.
structure LevelErrors (function : FunctionBlock) (errors : List Diagnostic) : Prop where
  absent : function.has HeaderName.determinism = false → errors = []
  given : GivesLevel (function.contentOf HeaderName.determinism) → errors = []
  wanted : function.has HeaderName.determinism = true →
    ¬GivesLevel (function.contentOf HeaderName.determinism) →
    ∃ message, errors = [⟨"E070".toList,message,function.location ++ " DETERMINISM".toList⟩]

theorem levelFaults_given (content : Text) : Harmless (levelFaults content) ↔ GivesLevel content := by
  rw [levelFaults_harmless]
  simp only [lastValue_exact]
  constructor
  · intro harmless
    obtain ⟨level,known,line,last,value⟩ := harmless
    exact ⟨line,level,last,value,known⟩
  · intro given
    obtain ⟨line,level,last,value,known⟩ := given
    exact ⟨level,known,line,last,value⟩

theorem levelFaults_single (content : Text) : levelFaults content = [] ∨
    ∃ fault, levelFaults content = [fault] ∧ fault.code = "E070".toList ∧ fault.severity = .error := by
  unfold levelFaults
  dsimp only
  split
  · exact .inr ⟨.missingLevel,rfl,rfl,rfl⟩
  · split
    · exact .inl rfl
    · exact .inr ⟨.invalidLevel _,rfl,rfl,rfl⟩

theorem determinismFindings_error (function : FunctionBlock) :
    ∀ finding ∈ determinismFindings function, finding.fault.severity = .error := by
  intro finding member
  unfold determinismFindings at member
  split at member
  · obtain ⟨fault,inside,rfl⟩ := List.mem_map.mp member
    rcases levelFaults_single (function.contentOf HeaderName.determinism) with none | ⟨only,one,_,error⟩
    · rw [none] at inside
      cases inside
    · rw [one,List.mem_singleton] at inside
      exact inside ▸ error
  · cases member

theorem determinismFindings_levels (function : FunctionBlock) :
    LevelErrors function (diagnosticsOf .error (determinismFindings function)) := by
  have located : function.has HeaderName.determinism = true →
      diagnosticsOf .error (determinismFindings function) =
        (levelFaults (function.contentOf HeaderName.determinism)).map fun fault =>
          ⟨fault.code,fault.message,function.location ++ " DETERMINISM".toList⟩ := by
    intro attached
    have errors := determinismFindings_error function
    rw [determinismFindings,if_pos attached] at errors ⊢
    apply diagnosticsOf_located
    intro fault member
    exact errors _ (List.mem_map_of_mem member)
  have absent : function.has HeaderName.determinism = false →
      diagnosticsOf .error (determinismFindings function) = [] := by
    intro absent
    rw [determinismFindings,absent]
    rfl
  refine ⟨absent,?_,?_⟩
  · intro given
    cases attached : function.has HeaderName.determinism with
    | false => exact absent attached
    | true =>
      have harmless := (levelFaults_given _).mpr given
      rcases levelFaults_single (function.contentOf HeaderName.determinism) with none | ⟨fault,one,_,error⟩
      · rw [located attached,none,List.map_nil]
      · have warning := harmless fault (one ▸ List.mem_singleton_self fault)
        rw [error] at warning
        cases warning
  · intro attached wanted
    rcases levelFaults_single (function.contentOf HeaderName.determinism) with none | ⟨fault,one,code,_⟩
    · have harmless : Harmless (levelFaults (function.contentOf HeaderName.determinism)) := by
        intro fault member
        rw [none] at member
        cases member
      exact absurd ((levelFaults_given _).mp harmless) wanted
    · rw [located attached,one,← code]
      exact ⟨fault.message,rfl⟩

-- Two contents that agree on the lines which decide the keys, or of which one comes from the other
-- by edits that leave these lines alone.
def Decided (keys : List Text) (content other : Text) : Prop :=
  (∀ key ∈ keys, SameLast key content other) ∨
    Relation.EqvGen (Edit keys) (lines content) (lines other)

theorem Decided.same {keys : List Text} {content other : Text} (decided : Decided keys content other) :
    ∀ key ∈ keys, SameLast key content other := by
  rcases decided with same | edits
  · exact same
  · intro key member
    exact (sameLast_exact _ _ _).mpr (edits_lastCarrying? edits member)

-- One function of a document may get another evaluation, or another level of determinism, and the
-- checks of them notice nothing as long as the line that decides each key stays.
theorem lastLine_decides (config : Config) (spec other : Spec) (above below : List FunctionBlock)
    (function revised : FunctionBlock) (before : spec.functions = above ++ function :: below)
    (after : other.functions = above ++ revised :: below) (verdict : Verdict) :
    let errors (function : FunctionBlock) := diagnosticsOf .error (determinismFindings function)
    (function.DiffersAt HeaderName.eval revised →
      Decided ["preserve".toList,"evolve".toList,"grading".toList]
        (function.contentOf HeaderName.eval) (revised.contentOf HeaderName.eval) →
      Check.evolution.record config other verdict = Check.evolution.record config spec verdict) ∧
    (function.DiffersAt HeaderName.determinism revised →
      Decided ["level".toList]
        (function.contentOf HeaderName.determinism) (revised.contentOf HeaderName.determinism) →
      Check.determinism.record config other verdict = Check.determinism.record config spec verdict) ∧
    Check.determinism.record config spec verdict =
      { verdict with errors := verdict.errors ++ spec.functions.flatMap errors } ∧
    ∀ function ∈ spec.functions, LevelErrors function (errors function) := by
  intro errors
  refine ⟨?_,?_,?_,fun function _ => determinismFindings_levels function⟩
  · intro differs decided
    have findings := evolutionFindings_same differs decided.same
    simp only [Check.record_findings,Check.findings,before,after,List.flatMap_append,List.flatMap_cons,findings]
  · intro differs decided
    have findings := determinismFindings_same differs (decided.same _ (List.mem_singleton_self _))
    simp only [Check.record_findings,Check.findings,before,after,List.flatMap_append,List.flatMap_cons,findings]
  · have nothing : diagnosticsOf .warning (spec.functions.flatMap determinismFindings) = [] := by
      apply diagnosticsOf_other
      intro finding member
      obtain ⟨function,_,inside⟩ := List.mem_flatMap.mp member
      simp [determinismFindings_error function finding inside]
    rw [Check.record_findings,Check.findings,Verdict.record,diagnosticsOf_flatMap,nothing,List.append_nil]

-- The threshold that no longer holds is dropped, and notes and another come in.
theorem lastLine_notes :
    let function := FunctionBlock.ofHeader ⟨HeaderName.function,"f() → int".toList,1,0,0⟩
    let document (content : Text) : Spec :=
      ⟨[function.attach ⟨HeaderName.eval,content,2,0,0⟩],[],[],[]⟩
    let content := "preserve: pass^1\ngrading: code\npreserve: pass^3\nevolve: fast".toList
    let other := "evolve: pass@2\nnotes\npreserve: pass^3\nevolve: fast\ngrading: code".toList
    Decided ["preserve".toList,"evolve".toList,"grading".toList] content other ∧
      Check.evolution.record .standard (document other) .start =
        Check.evolution.record .standard (document content) .start := by
  intro function document content other
  have decided : Decided ["preserve".toList,"evolve".toList,"grading".toList] content other :=
    .inl (by decide +kernel)
  have revised := lastLine_decides .standard (document content) (document other) [] [] _ _ rfl rfl .start
  exact ⟨decided,revised.1 (attach_differs function HeaderName.eval content other 2 0 0) decided⟩

end SpecLint
