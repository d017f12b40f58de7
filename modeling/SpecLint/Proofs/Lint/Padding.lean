import SpecLint.Proofs.Landmark.Outline
import SpecLint.Proofs.Lint.Matching

namespace SpecLint
open Text

-- The same line with blanks added at its end.
def Longer (line other : Text) : Prop := ∃ blanks, other = line ++ blanks ∧ ∀ c ∈ blanks, isBlank c = true

-- The same text with blanks added at the ends of its lines. No line feed is among them.
def Padded (text other : Text) : Prop := List.Forall₂ Longer (split '\n' text) (split '\n' other)

def withReturns (text : Text) : Text := text.flatMap fun c => if c = '\n' then ['\r','\n'] else [c]

structure FunctionBlock.SameParts (function other : FunctionBlock) : Prop where
  heading : function.heading = other.heading
  names : ∀ name, function.has name = other.has name

-- What a document gives its reader, apart from the layout of its contents.
structure SameReading (config : Config) (text other : Text) : Prop where
  verdict : lintText config text = lintText config other
  functions : List.Forall₂ FunctionBlock.SameParts (Spec.ofText config.vocabulary text).functions
    (Spec.ofText config.vocabulary other).functions

theorem longer_header {line other : Text} (longer : Longer line other) :
    Header.ofLine? other = Header.ofLine? line := by
  obtain ⟨blanks,rfl,blank⟩ := longer
  exact Header.ofLine?_after blank line

theorem longer_lines {lines others : List Text} (each : List.Forall₂ Longer lines others) :
    trimmedLines (join ['\n'] lines) = trimmedLines (join ['\n'] others) := by
  have same : ∀ line other, Longer line other → trimmedLines line = trimmedLines other := by
    intro line other longer
    obtain ⟨blanks,rfl,blank⟩ := longer
    exact (trimmedLines_after blank line).symm
  rw [trimmedLines_join,trimmedLines_join,flatMap_matches each same]

theorem blockContent_alike {inline body other : Text} (trimmed : trim inline = inline)
    (same : trimmedLines body = trimmedLines other) :
    Alike (blockContent inline (trim body)) (blockContent inline (trim other)) := by
  refine alike_trimmed (blockContent_trimmed trimmed (trim_trim body))
    (blockContent_trimmed trimmed (trim_trim other)) ?_
  rw [blockContent_lines,blockContent_lines,trimmedLines_trim,trimmedLines_trim,same]

-- Headers stay headers on the lines they stand on, and what is between them stays alike.
theorem outline_padded {lines others : List Text} (each : List.Forall₂ Longer lines others)
    (total otherTotal number offset otherOffset : Nat) :
    let first := outline total number offset lines
    let second := outline otherTotal number otherOffset others
    List.Forall₂ Longer first.lead second.lead ∧
      List.Forall₂ (fun landmark other => landmark.Matches Alike other ∧
        landmark.lineNumber = other.lineNumber) first.landmarks second.landmarks := by
  induction each generalizing number offset otherOffset with
  | nil => exact ⟨.nil,.nil⟩
  | @cons line other rest others longer _ ih =>
    obtain ⟨lead,landmarks⟩ := ih (number + 1) (offset + byteLength line + 1)
      (otherOffset + byteLength other + 1)
    have header := longer_header longer
    cases found : Header.ofLine? line with
    | none =>
      rw [outline_text found,outline_text (header.trans found)]
      exact ⟨.cons longer lead,landmarks⟩
    | some opened =>
      obtain ⟨tail,_,_,inline⟩ := (Header.ofLine?_exact _ _).mp found
      have trimmed : trim opened.inline = opened.inline := by rw [inline,trim_trim]
      rw [outline_header found,outline_header (header.trans found)]
      exact ⟨.nil,.cons ⟨⟨rfl,blockContent_alike trimmed (longer_lines lead)⟩,rfl⟩ landmarks⟩

theorem ofText_padded {text other : Text} (padded : Padded text other) (vocabulary : Vocabulary) :
    (Spec.ofText vocabulary text).Matches Alike (Spec.ofText vocabulary other) := by
  obtain ⟨_,landmarks⟩ := outline_padded padded (byteLength text) (byteLength other) 1 0 0
  refine ofText_matches (fun _ _ alike => alike.signature) vocabulary ?_
  refine List.rel_filter ?_ (landmarks.imp fun _ _ pair => pair.1)
  intro landmark twin pair
  dsimp only
  rw [pair.name]

theorem padded_headings {text other : Text} (padded : Padded text other) (vocabulary : Vocabulary) :
    (Spec.ofText vocabulary text).functions.map (·.heading) =
      (Spec.ofText vocabulary other).functions.map (·.heading) := by
  obtain ⟨_,landmarks⟩ := outline_padded padded (byteLength text) (byteLength other) 1 0 0
  rw [ofText_finished,ofText_finished,functionsOf_headings,functionsOf_headings]
  refine List.forall₂_eq_eq_eq ▸ List.rel_map ?_ (List.rel_filter ?_ landmarks)
  · intro landmark twin pair
    dsimp only
    rw [pair.1.content.signature,pair.2]
  · intro landmark twin pair
    simp only [pair.1.name]

theorem sameParts {functions others : List FunctionBlock}
    (each : List.Forall₂ (FunctionBlock.Matches Alike) functions others)
    (headings : functions.map (·.heading) = others.map (·.heading)) :
    List.Forall₂ FunctionBlock.SameParts functions others := by
  induction each with
  | nil => exact .nil
  | cons first _ ih =>
    obtain ⟨heading,below⟩ := List.cons.inj headings
    exact .cons ⟨heading,first.has⟩ (ih below)

theorem padded_reading {text other : Text} (padded : Padded text other) (config : Config) :
    SameReading config text other := by
  have same := ofText_padded padded config.vocabulary
  exact ⟨lint_matches same config,sameParts same.functions (padded_headings padded config.vocabulary)⟩

theorem withReturns_line {line : Text} (noFeed : '\n' ∉ line) : withReturns line = line := by
  have single : ∀ c ∈ line, (if c = '\n' then ['\r','\n'] else [c]) = [c] := fun c member =>
    if_neg (ne_of_mem_of_not_mem member noFeed)
  rw [withReturns,List.flatMap_congr single,List.flatMap_singleton']

theorem withReturns_padded (text : Text) : Padded text (withReturns text) := by
  induction text using lines_induction with
  | last line noFeed =>
    rw [withReturns_line noFeed,Padded,split_plain noFeed]
    exact .cons ⟨[],(List.append_nil line).symm,by simp⟩ .nil
  | above line rest noFeed ih =>
    have returned : withReturns (line ++ '\n' :: rest) = (line ++ ['\r']) ++ '\n' :: withReturns rest := by
      rw [withReturns,List.flatMap_append,List.flatMap_cons,← withReturns,← withReturns,
        withReturns_line noFeed]
      simp
    rw [returned,Padded,split_line noFeed,split_line (by simp [noFeed])]
    exact .cons ⟨['\r'],rfl,by simp [blank_return]⟩ ih

-- Blanks at the ends of lines change nothing, and neither do returns in front of the line feeds.
theorem lintText_padded (config : Config) (text : Text) :
    (∀ other, Padded text other → SameReading config text other) ∧
      SameReading config text (withReturns text) :=
  ⟨fun _ padded => padded_reading padded config,padded_reading (withReturns_padded text) config⟩

theorem lintText_padded_sample :
    let text := "FUNCTION: f(a) → b\nRULES:\n- if x".toList
    let other := "FUNCTION: f(a) → b \nRULES:\t\r\n- if x\u2003".toList
    Padded text other ∧ SameReading .standard text other := by
  intro text other
  have padded : Padded text other := .cons ⟨[' '],rfl,List.all_eq_true.mp (by decide)⟩
    (.cons ⟨['\t','\r'],rfl,List.all_eq_true.mp (by decide)⟩
      (.cons ⟨['\u2003'],rfl,List.all_eq_true.mp (by decide)⟩ .nil))
  exact ⟨padded,(lintText_padded .standard text).1 other padded⟩

end SpecLint
