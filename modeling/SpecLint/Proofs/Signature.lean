import Mathlib.Data.List.Basic
import SpecLint.Proofs.Signature.Grammar

namespace SpecLint
open Text

namespace Signature

def write (name : Text) (inputs : List Text) (returnType : Text) : Text :=
  name ++ "(".toList ++ join ", ".toList inputs ++ ") → ".toList ++ returnType

-- What stands between two commas, or between a comma and a bracket.
@[mk_iff]
structure Input (input : Text) : Prop where
  solid : Solid input
  noComma : ',' ∉ input
  noBracket : ')' ∉ input

@[mk_iff]
structure Form (name : Text) (inputs : List Text) (returnType : Text) : Prop where
  some : name ≠ []
  nameChars : ∀ c ∈ name, isNameChar c = true
  inputs : ∀ input ∈ inputs, Input input
  result : Solid returnType

instance (input : Text) : Decidable (Input input) := decidable_of_iff _ (input_iff input).symm

-- The characters of the name are looked through, not all characters there are.
instance (name : Text) (inputs : List Text) (returnType : Text) : Decidable (Form name inputs returnType) :=
  have : Decidable (∀ c ∈ name, isNameChar c = true) := List.decidableBAll (isNameChar · = true) name
  decidable_of_iff _ (form_iff name inputs returnType).symm

theorem write_exact (name : Text) (inputs : List Text) (returnType : Text) :
    write name inputs returnType =
      name ++ '(' :: (join ", ".toList inputs ++ ')' :: ' ' :: '→' :: ' ' :: returnType) := by
  have opening : "(".toList = ['('] := rfl
  have arrow : ") → ".toList = [')',' ','→',' '] := rfl
  simp [write,opening,arrow]

-- Behind each comma there is a blank, which trimming takes away again.
theorem split_inputs {input : Text} {rest : List Text} (plain : ∀ other ∈ input :: rest, ',' ∉ other) :
    split ',' (join ", ".toList (input :: rest)) = input :: rest.map (' ' :: ·) := by
  have first : ',' ∉ input := plain input (by simp)
  induction rest generalizing input with
  | nil =>
    rw [join,List.intercalate_singleton]
    exact split_plain first
  | cons next rest ih =>
    have below : ∀ other ∈ next :: rest, ',' ∉ other := fun other member => plain other (by simp [member])
    have blank : ',' ∉ [' '] := by decide
    have cut := split_before blank (ih below (below next (by simp)))
    rw [join_cons _ _ _ (by simp),List.append_assoc]
    exact (split_line first _).trans (congrArg (input :: ·) cut)

theorem splitInputs_join {inputs : List Text} (solid : ∀ input ∈ inputs, Solid input)
    (plain : ∀ input ∈ inputs, ',' ∉ input) : splitInputs (join ", ".toList inputs) = inputs := by
  have kept : ∀ input ∈ inputs, trim input = input := fun input member => (solid input member).trimmed
  have some : ∀ input ∈ inputs, (!input.isEmpty) = true := fun input member => by
    simpa using (solid input member).some
  unfold splitInputs
  cases inputs with
  | nil => rfl
  | cons input rest =>
    have trimmed : (input :: rest.map (' ' :: ·)).map trim = input :: rest := by
      rw [List.map_cons,List.map_map,kept input (by simp)]
      congr 1
      refine (List.map_congr_left ?_).trans rest.map_id
      intro other member
      exact (trim_cons (by decide) other).trans (kept other (by simp [member]))
    rw [split_inputs plain,trimmed]
    exact List.filter_eq_self.mpr some

theorem write_cuts {name : Text} {inputs : List Text} {returnType : Text} (form : Form name inputs returnType) :
    Cuts (write name inputs returnType)
      ⟨name,[],join ", ".toList inputs,[' '],"→".toList,' ' :: returnType⟩ := by
  have arrow : "→".toList = ['→'] := rfl
  have bracket : ")".toList = [')'] := rfl
  have opening : "(".toList = ['('] := rfl
  refine ⟨by simp [write_exact,arrow,bracket,opening],form.some,?_,by simp,?_,?_,.inl rfl,?_⟩
  · intro c member
    exact (isNameChar_exact c).mp (form.nameChars c member)
  · exact join_avoids (by decide) fun input member => (form.inputs input member).noBracket
  · intro c member
    cases List.mem_singleton.mp member
    decide
  · apply trim_filled.mp
    rw [trim_cons (by decide),form.result.trimmed]
    exact form.result.some

theorem ofLine?_write {name : Text} {inputs : List Text} {returnType : Text}
    (form : Form name inputs returnType) : ofLine? (write name inputs returnType) =
      some ⟨write name inputs returnType,name,inputs,returnType⟩ := by
  have result : trim (' ' :: returnType) = returnType :=
    (trim_cons (by decide) returnType).trans form.result.trimmed
  have read := splitInputs_join (fun input member => (form.inputs input member).solid)
    fun input member => (form.inputs input member).noComma
  rw [ofLine?_cuts (write_cuts form),read,result]

theorem Form.oneLine {name : Text} {inputs : List Text} {returnType : Text}
    (form : Form name inputs returnType) : ∀ field ∈ name :: returnType :: inputs, '\n' ∉ field := by
  have blank : isBlank '\n' = true := blank_lineFeed
  intro field member
  rcases List.mem_cons.mp member with rfl | member
  · intro feed
    simpa [blank] using nameChar_visible (form.nameChars _ feed)
  · rcases List.mem_cons.mp member with rfl | input
    · exact form.result.oneLine
    · exact (form.inputs field input).solid.oneLine

theorem write_solid {name : Text} {inputs : List Text} {returnType : Text}
    (form : Form name inputs returnType) : Solid (write name inputs returnType) := by
  obtain ⟨first,others,rfl⟩ := List.exists_cons_of_ne_nil form.some
  refine ⟨by simp [write_exact],?_,?_⟩
  · have name : '\n' ∉ first :: others := form.oneLine _ (by simp)
    have inputs : '\n' ∉ join ", ".toList inputs :=
      join_avoids (by decide) fun input member => form.oneLine input (by simp [member])
    have opened := List.not_mem_append (List.not_mem_append name (by decide : '\n' ∉ "(".toList)) inputs
    have closed := List.not_mem_append opened (by decide : '\n' ∉ ") → ".toList)
    exact List.not_mem_append closed form.result.oneLine
  · obtain ⟨_,last⟩ := trim_eq_self.mp form.result.trimmed
    refine trim_eq_self.mpr ⟨?_,?_⟩
    · intro c head
      cases Option.some.inj head
      exact nameChar_visible (form.nameChars first (by simp))
    · intro c ending
      apply last c
      rwa [write,List.getLast?_append_of_ne_nil _ form.result.some] at ending

theorem splitInputs_exact (between : Text) :
    splitInputs between = ((between.splitOn ',').map trim).filter (· ≠ []) := by
  rw [splitInputs,split_eq_splitOn]
  apply List.filter_congr
  intro input _
  cases input <;> rfl

theorem splitInputs_form {between input : Text} (noBracket : ')' ∉ between) (noFeed : '\n' ∉ between)
    (member : input ∈ splitInputs between) : Input input := by
  obtain ⟨found,filled⟩ := List.mem_filter.mp member
  obtain ⟨part,inside,rfl⟩ := List.mem_map.mp found
  have kept : ∀ c ∈ trim part, c ∈ part := fun c member => (trim_sublist part).subset member
  have whole : ∀ c ∈ part, c ∈ between := by
    intro c member
    have joined := List.mem_flatten.mpr ⟨part,inside,member⟩
    rw [split_flatten] at joined
    exact (List.mem_filter.mp joined).1
  refine ⟨⟨by simpa using filled,?_,trim_trim part⟩,?_,?_⟩
  · intro feed
    exact noFeed (whole _ (kept _ feed))
  · intro comma
    exact split_parts inside (kept _ comma)
  · intro bracket
    exact noBracket (whole _ (kept _ bracket))

-- What is read from a line can be written down again.
theorem Cuts.form {line : Text} {pieces : Pieces} (cuts : Cuts line pieces) (noFeed : '\n' ∉ line) :
    Form pieces.name (splitInputs pieces.between) (trim pieces.result) := by
  have lines := cuts.joined
  have between : '\n' ∉ pieces.between := fun member => noFeed (by rw [lines]; simp [member])
  have result : '\n' ∉ pieces.result := fun member => noFeed (by rw [lines]; simp [member])
  refine ⟨cuts.named,cuts.name_all,?_,trim_filled.mpr cuts.result,?_,trim_trim pieces.result⟩
  · intro input member
    exact splitInputs_form cuts.between between member
  · intro feed
    exact result ((trim_sublist pieces.result).subset feed)

end Signature

-- A signature is read back from the line that writes it.
theorem Signature.ofContent_write {name : Text} {inputs : List Text} {returnType : Text}
    (form : Form name inputs returnType) : ofContent (write name inputs returnType) =
      ⟨write name inputs returnType,name,inputs,returnType⟩ := by
  have solid := write_solid form
  simp only [ofContent,firstLine_line solid.oneLine,solid.trimmed,ofLine?_write form,Option.getD_some]

-- The first line of a content is what stands before its first line feed, but for the blanks around it.
theorem trim_firstLine_before (content : Text) :
    trim (firstLine content) = trim (content.takeWhile (· != '\n')) := by
  induction content using lines_induction with
  | last line noFeed =>
    have whole : line.takeWhile (· != '\n') = line := by
      apply List.takeWhile_eq_self_iff.mpr
      intro c member
      simpa using ne_of_mem_of_not_mem member noFeed
    rw [firstLine_line noFeed,whole]
  | above line rest noFeed => rw [firstLine_append noFeed,trim_dropReturn,takeWhile_before noFeed]

-- A signature is read exactly from the lines of its grammar, and from these in one way. Any other
-- line is a name.
theorem Signature.ofContent_grammar (content : Text) :
    let line := trim (content.takeWhile (· != '\n'))
    let signature := ofContent content
    signature.line = line ∧
      (∀ pieces, Cuts line pieces → (∀ other, Cuts line other → other = pieces) ∧
        signature.name = pieces.name ∧
        signature.inputs = ((pieces.between.splitOn ',').map trim).filter (· ≠ []) ∧
        signature.returnType = trim pieces.result ∧ signature.returnType ≠ []) ∧
      ((∀ pieces, ¬Cuts line pieces) →
        signature.name = line ∧ signature.inputs = [] ∧ signature.returnType = []) ∧
      [] ∉ signature.inputs ∧
      (∀ field ∈ signature.line :: signature.name :: signature.returnType :: signature.inputs,
        '\n' ∉ field) ∧
      (∀ pieces, Cuts line pieces →
        let again := ofContent (write signature.name signature.inputs signature.returnType)
        again.name = signature.name ∧ again.inputs = signature.inputs ∧
          again.returnType = signature.returnType) := by
  intro line signature
  have noFeed : '\n' ∉ line := by
    intro member
    simpa using List.mem_takeWhile_imp ((trim_sublist _).subset member)
  have read : signature = (ofLine? line).getD ⟨line,line,[],[]⟩ := by
    change (ofLine? (trim (firstLine content))).getD _ = _
    rw [trim_firstLine_before]
  cases found : ofLine? line with
  | none =>
    have other : ∀ pieces, ¬Cuts line pieces := by
      intro pieces cuts
      rw [ofLine?_cuts cuts] at found
      cases found
    rw [found,Option.getD_none] at read
    rw [read]
    refine ⟨rfl,?_,fun _ => ⟨rfl,rfl,rfl⟩,by simp,?_,?_⟩
    · intro pieces cuts
      exact absurd cuts (other pieces)
    · simpa using noFeed
    · intro pieces cuts
      exact absurd cuts (other pieces)
  | some parsed =>
    obtain ⟨pieces,cuts⟩ := cuts_ofLine? found
    have form := cuts.form noFeed
    rw [ofLine?_cuts cuts,Option.getD_some] at read
    rw [read]
    refine ⟨rfl,?_,?_,?_,?_,?_⟩
    · intro others same
      cases cuts_unique same cuts
      exact ⟨fun other also => cuts_unique also cuts,rfl,splitInputs_exact _,rfl,form.result.some⟩
    · intro never
      exact absurd cuts (never pieces)
    · intro empty
      exact (form.inputs [] empty).solid.some rfl
    · intro field member
      rcases List.mem_cons.mp member with rfl | member
      · exact noFeed
      · exact form.oneLine field member
    · intro _ _
      rw [ofContent_write form]
      exact ⟨rfl,rfl,rfl⟩

-- Blanks around the parts, an input left out and a second arrow.
theorem Signature.ofContent_spaced :
    let content := " merge (left,, right ,)-> list → item \r\nwith no repeats".toList
    (ofContent content).name = "merge".toList ∧
      (ofContent content).inputs = ["left".toList,"right".toList] ∧
      (ofContent content).returnType = "list → item".toList := by
  intro content
  have cuts : Cuts (trim (content.takeWhile (· != '\n'))) ⟨"merge".toList," ".toList,"left,, right ,".toList,
      [],"->".toList," list → item".toList⟩ :=
    ⟨by decide,by decide,fun c member => (isNameChar_exact c).mp (List.all_eq_true.mp (by decide) c member),
      List.all_eq_true.mp (by decide),by decide,List.forall_mem_nil _,.inr rfl,'l',by decide,by decide⟩
  obtain ⟨_,name,inputs,returnType,_⟩ := (ofContent_grammar content).2.1 _ cuts
  exact ⟨name,inputs.trans (by decide),returnType.trans (by decide)⟩

end SpecLint
