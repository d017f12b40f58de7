import SpecLint.Proofs.Lint.Locality
import SpecLint.Proofs.Signature
import SpecLint.Proofs.Spec.Grouping
import SpecLint.Proofs.Text.Decimal

namespace SpecLint
open Text

-- The words that a message takes from elsewhere: from the document, or from the failure to read it.
def Fault.quoted : Fault → List Text
  | .unreadable reason => [reason]
  | .undefinedType type => [type]
  | .invalidThreshold _ value => [value]
  | .invalidGrading value => [value]
  | .invalidLevel level => [level]
  | _ => []

def Fault.OneLine (fault : Fault) : Prop := ∀ word ∈ fault.quoted, '\n' ∉ word

-- The parts of a function that its diagnostics quote.
structure FunctionBlock.OneLine (function : FunctionBlock) : Prop where
  name : '\n' ∉ function.name
  returnType : '\n' ∉ function.returnType

structure Diagnostic.OneLine (diagnostic : Diagnostic) : Prop where
  code : '\n' ∉ diagnostic.code
  message : '\n' ∉ diagnostic.message
  location : '\n' ∉ diagnostic.location

namespace Fault

theorem oneLine_nil {fault : Fault} (none : fault.quoted = []) : fault.OneLine := by
  intro word member
  rw [none] at member
  cases member

theorem oneLine_single {fault : Fault} {quote : Text} (single : fault.quoted = [quote]) (line : '\n' ∉ quote) :
    fault.OneLine := by
  intro word member
  rw [single] at member
  cases List.mem_singleton.mp member
  exact line

theorem code_oneLine (fault : Fault) : '\n' ∉ fault.code := by
  cases fault with
  | missingLandmark landmark => cases landmark <;> decide
  | missingField field => cases field <;> decide
  | missingThreshold threshold => cases threshold <;> decide
  | invalidThreshold threshold value => cases threshold <;> exact of_decide_eq_true rfl
  | _ => exact of_decide_eq_true rfl

theorem counts_oneLine {before between after : Text} (words : '\n' ∉ before ++ between ++ after) (found limit : Nat) :
    '\n' ∉ before ++ decimal found ++ between ++ decimal limit ++ after := by
  have count : ∀ n, '\n' ∉ decimal n := decimal_avoids (by decide)
  simp only [List.mem_append,not_or] at words
  obtain ⟨⟨first,middle⟩,last⟩ := words
  apply List.not_mem_append _ last
  apply List.not_mem_append _ (count limit)
  exact List.not_mem_append (List.not_mem_append first (count found)) middle

theorem quote_oneLine {before after word : Text} (words : '\n' ∉ before ++ after) (line : '\n' ∉ word) :
    '\n' ∉ before ++ word ++ after := by
  obtain ⟨first,last⟩ := not_or.mp fun member => words (List.mem_append.mpr member)
  exact List.not_mem_append (List.not_mem_append first line) last

-- A message has no line feed of its own.
theorem message_oneLine {fault : Fault} (oneLine : fault.OneLine) : '\n' ∉ fault.message := by
  cases fault with
  | unreadable reason => exact List.not_mem_append (by decide) (oneLine reason List.mem_cons_self)
  | noFunction => decide
  | missingLandmark landmark => cases landmark <;> decide
  | undefinedType type => exact quote_oneLine (by decide) (oneLine type List.mem_cons_self)
  | tooManyRules count limit => exact counts_oneLine (by decide) count limit
  | tooManyInputs count limit => exact counts_oneLine (by decide) count limit
  | tooFewExamples examples branches => exact counts_oneLine (by decide) examples branches
  | longRule position limit length =>
    have counts := counts_oneLine (show '\n' ∉ "RULES item ".toList ++ " exceeds ".toList ++
      " characters (".toList by decide) position limit
    apply List.not_mem_append _ (by decide)
    exact List.not_mem_append counts (decimal_avoids (by decide) length)
  | tooManyFunctions count limit => exact counts_oneLine (by decide) count limit
  | missingField field => cases field <;> decide
  | missingEval => decide
  | missingThreshold threshold => cases threshold <;> decide
  | invalidThreshold threshold value =>
    have line := oneLine value List.mem_cons_self
    cases threshold with
    | preserve => exact quote_oneLine (by decide) line
    | evolve => exact quote_oneLine (by decide) line
  | invalidGrading value => exact quote_oneLine (by decide) (oneLine value List.mem_cons_self)
  | missingLevel => decide
  | invalidLevel level => exact List.not_mem_append (by decide) (oneLine level List.mem_cons_self)

end Fault

-- A value stands on a line of its block, and lowering that line ends it nowhere.
theorem lastField?_oneLine {key content value : Text} (last : lastField? key content = some value) :
    '\n' ∉ value := by
  obtain ⟨above,line,below,cut,_,_,before,tail,lowered,_,rfl⟩ := (lastField?_exact _ _ _).mp last
  intro feed
  have inTail : '\n' ∈ tail := (List.takeWhile_sublist _).subset ((trim_sublist _).subset feed)
  have inLower : '\n' ∈ lowercase (trim line) := by
    rw [lowered]
    exact List.mem_append_right _ (List.mem_cons_of_mem _ inTail)
  have inLine : '\n' ∈ line := (trim_sublist line).subset (lowercase_steady (blank_steady blank_lineFeed) inLower)
  have member : line ∈ lines content := by
    rw [cut]
    exact List.mem_append_right _ List.mem_cons_self
  exact lines_oneLine member inLine

theorem signature_oneLine (content : Text) :
    '\n' ∉ (Signature.ofContent content).name ∧ '\n' ∉ (Signature.ofContent content).returnType := by
  have line : '\n' ∉ trim (firstLine content) := by
    rw [trim_firstLine_before]
    intro feed
    simpa using List.mem_takeWhile_imp ((trim_sublist _).subset feed)
  have read : Signature.ofContent content = (Signature.ofLine? (trim (firstLine content))).getD
      ⟨trim (firstLine content),trim (firstLine content),[],[]⟩ := rfl
  rw [read]
  cases found : Signature.ofLine? (trim (firstLine content)) with
  | none => exact ⟨line,List.not_mem_nil⟩
  | some parsed =>
    obtain ⟨pieces,cuts⟩ := Signature.cuts_ofLine? found
    have fields := (cuts.form line).oneLine
    rw [Signature.ofLine?_cuts cuts] at found
    cases found
    exact ⟨fields _ List.mem_cons_self,fields _ (List.mem_cons_of_mem _ List.mem_cons_self)⟩

theorem ofText_oneLine (vocabulary : Vocabulary) (text : Text) :
    ∀ function ∈ (Spec.ofText vocabulary text).functions, function.OneLine := by
  intro function member
  have heading := List.mem_map_of_mem (f := FunctionBlock.heading) member
  rw [ofText_finished,functionsOf_headings] at heading
  obtain ⟨header,_,same⟩ := List.mem_map.mp heading
  have signature := signature_oneLine header.content
  have own : Signature.ofContent header.content =
      ⟨function.signature,function.name,function.inputs,function.returnType⟩ := (Prod.mk.inj same).1
  rw [own] at signature
  exact ⟨signature.1,signature.2⟩

theorem FunctionBlock.OneLine.location {function : FunctionBlock} (oneLine : function.OneLine) :
    '\n' ∉ function.location := by
  apply List.not_mem_append (by decide)
  split
  · decide
  · exact oneLine.name

theorem thresholdInvalid_oneLine (content : Text) (threshold : Threshold) :
    ∀ fault ∈ thresholdInvalid (.ofContent content) threshold, fault.OneLine := by
  intro fault member
  unfold thresholdInvalid at member
  rw [EvalFields.ofContent_threshold] at member
  split at member
  · cases member
  · rename_i value last
    rw [List.mem_ite_nil_left,List.mem_singleton] at member
    obtain ⟨_,rfl⟩ := member
    exact Fault.oneLine_single rfl (lastField?_oneLine last)

theorem gradingFaults_oneLine (content : Text) : ∀ fault ∈ gradingFaults (.ofContent content), fault.OneLine := by
  intro fault member
  unfold gradingFaults at member
  rw [EvalFields.ofContent_grading] at member
  split at member
  · cases member
  · rename_i value last
    rw [List.mem_ite_nil_left,List.mem_singleton] at member
    obtain ⟨_,rfl⟩ := member
    exact Fault.oneLine_single rfl (lastField?_oneLine last)

theorem evolutionFaults_oneLine (function : FunctionBlock) :
    ∀ fault ∈ evolutionFaults function, fault.OneLine := by
  intro fault member
  simp only [evolutionFaults,baselineFaults,evalFaults,thresholdMissing,List.mem_append,
    List.mem_ite_nil_right,List.mem_singleton,List.mem_map,List.mem_flatMap] at member
  rcases member with (⟨_,rfl⟩ | ⟨_,field,_,rfl⟩) | ⟨_,(⟨threshold,_,_,rfl⟩ | ⟨threshold,_,invalid⟩) | grading⟩
  · exact Fault.oneLine_nil rfl
  · exact Fault.oneLine_nil rfl
  · exact Fault.oneLine_nil rfl
  · exact thresholdInvalid_oneLine _ threshold fault invalid
  · exact gradingFaults_oneLine _ fault grading

theorem levelFaults_oneLine (content : Text) : ∀ fault ∈ levelFaults content, fault.OneLine := by
  intro fault member
  unfold levelFaults at member
  dsimp only at member
  split at member
  · cases List.mem_singleton.mp member
    exact Fault.oneLine_nil rfl
  · rw [List.mem_ite_nil_left,List.mem_singleton] at member
    obtain ⟨_,rfl⟩ := member
    apply Fault.oneLine_single rfl
    cases last : lastField? "level".toList content with
    | none => exact List.not_mem_nil
    | some level => exact lastField?_oneLine last

theorem complexityFaults_oneLine (config : Config) (inputs : List Text) (rules examples : Text) :
    ∀ fault ∈ inputFaults config inputs ++ ruleFaults config rules ++ coverageFaults rules examples,
      fault.OneLine := by
  intro fault member
  rcases List.mem_append.mp member with sizes | coverage
  · rcases List.mem_append.mp sizes with many | long
    · obtain ⟨_,_,rfl⟩ := inputFaults_kind _ _ fault many
      exact Fault.oneLine_nil rfl
    · rw [ruleFaults_parts,List.mem_append,List.mem_ite_nil_right,List.mem_singleton] at long
      rcases long with ⟨_,rfl⟩ | long
      · exact Fault.oneLine_nil rfl
      · obtain ⟨_,_,rfl⟩ := longRuleFaults_kind config _ _ fault long
        exact Fault.oneLine_nil rfl
  · obtain ⟨_,_,rfl⟩ := coverageFaults_kind _ _ fault coverage
    exact Fault.oneLine_nil rfl

-- What a check says about a function quotes its return type or the values of its fields.
theorem Check.ofFunction_oneLine (check : Check) (config : Config) (spec : Spec) {function : FunctionBlock}
    (oneLine : function.OneLine) :
    ∀ finding ∈ check.ofFunction config spec function, finding.fault.OneLine := by
  intro finding member
  cases check with
  | functionExists => cases member
  | requiredLandmarks =>
    obtain ⟨landmark,_,rfl⟩ := List.mem_map.mp member
    exact Fault.oneLine_nil rfl
  | dataReferences =>
    rw [ofFunction,List.mem_ite_nil_left,undefinedReferences,List.mem_ite_nil_left,
      List.mem_singleton] at member
    obtain ⟨_,_,rfl⟩ := member
    exact Fault.oneLine_single rfl oneLine.returnType
  | complexity =>
    obtain ⟨fault,inside,rfl⟩ := List.mem_map.mp member
    exact complexityFaults_oneLine config _ _ _ fault inside
  | evolution =>
    obtain ⟨fault,inside,rfl⟩ := List.mem_map.mp member
    exact evolutionFaults_oneLine function fault inside
  | determinism =>
    unfold ofFunction determinismFindings at member
    rw [List.mem_ite_nil_right] at member
    obtain ⟨fault,inside,rfl⟩ := List.mem_map.mp member.2
    exact levelFaults_oneLine _ fault inside

theorem Check.ofDocument_oneLine (check : Check) (config : Config) (spec : Spec) :
    ∀ finding ∈ check.ofDocument config spec, finding.fault.OneLine ∧ finding.location = "spec".toList := by
  intro finding member
  cases check with
  | functionExists =>
    rw [ofDocument,functionExistsFindings,List.mem_ite_nil_right,List.mem_singleton] at member
    obtain ⟨_,rfl⟩ := member
    exact ⟨Fault.oneLine_nil rfl,rfl⟩
  | complexity =>
    rw [ofDocument,functionCountFindings,List.mem_ite_nil_right,List.mem_singleton] at member
    obtain ⟨_,rfl⟩ := member
    exact ⟨Fault.oneLine_nil rfl,rfl⟩
  | _ => cases member

theorem Finding.diagnostic_oneLine {finding : Finding} (quoted : finding.fault.OneLine)
    (location : '\n' ∉ finding.location) : finding.diagnostic.OneLine :=
  ⟨finding.fault.code_oneLine,Fault.message_oneLine quoted,location⟩

namespace Spec
variable {spec : Spec}

theorem findings_oneLine (config : Config) (oneLine : ∀ function ∈ spec.functions, function.OneLine) :
    ∀ finding ∈ spec.findings config, finding.diagnostic.OneLine := by
  intro finding member
  rw [findings_all] at member
  obtain ⟨check,_,found⟩ := List.mem_flatMap.mp member
  rw [check.findings_parts] at found
  rcases List.mem_append.mp found with document | inside
  · obtain ⟨quoted,location⟩ := check.ofDocument_oneLine config spec finding document
    exact Finding.diagnostic_oneLine quoted (by rw [location]; decide)
  · obtain ⟨function,inSpec,found⟩ := List.mem_flatMap.mp inside
    have line := oneLine function inSpec
    have place := (check.ofFunction_located config spec function finding found).2
    apply Finding.diagnostic_oneLine (check.ofFunction_oneLine config spec line finding found)
    rw [place]
    apply List.not_mem_append line.location
    split <;> decide

theorem lint_oneLine (config : Config) (oneLine : ∀ function ∈ spec.functions, function.OneLine) :
    ∀ diagnostic ∈ (spec.lint config).errors ++ (spec.lint config).warnings, diagnostic.OneLine := by
  have each : ∀ severity, ∀ diagnostic ∈ diagnosticsOf severity (spec.findings config), diagnostic.OneLine := by
    intro severity diagnostic member
    obtain ⟨finding,kept,rfl⟩ := List.mem_map.mp member
    exact findings_oneLine config oneLine finding (List.mem_filter.mp kept).1
  intro diagnostic member
  obtain ⟨errors,warnings⟩ := spec.lint_diagnostics config
  rw [errors,warnings] at member
  rcases List.mem_append.mp member with error | warning
  · exact each .error diagnostic error
  · exact each .warning diagnostic warning

end Spec
end SpecLint
