import SpecLint.Proofs.Lint.Acceptance
import SpecLint.Proofs.Lint.Locality
import SpecLint.Proofs.Rules.Lines
import SpecLint.Proofs.Spec.Blocks

namespace SpecLint
open Text

-- The codes of what is said about the size of the rules.
def ruleCodes : List Text := ["E010".toList,"W010".toList]

theorem Fault.OfEvolution.apart {fault : Fault} (kind : fault.OfEvolution) : fault.code ∉ ruleCodes := by
  cases fault with
  | missingEval => decide
  | missingField field => cases field <;> decide
  | missingThreshold threshold => cases threshold <;> decide
  | invalidThreshold threshold value => cases threshold <;> exact of_decide_eq_true rfl
  | invalidGrading value => exact of_decide_eq_true rfl
  | _ => cases kind

-- Only the check of complexity looks at the size of the rules.
theorem Check.ofFunction_apart {check : Check} (other : check ≠ .complexity) (config : Config) (spec : Spec)
    (function : FunctionBlock) :
    ∀ finding ∈ check.ofFunction config spec function, finding.fault.code ∉ ruleCodes := by
  intro finding member
  cases check with
  | functionExists => cases member
  | requiredLandmarks =>
    obtain ⟨landmark,_,rfl⟩ := List.mem_map.mp member
    have apart : landmark.code ∉ ruleCodes := by cases landmark <;> decide
    exact apart
  | dataReferences =>
    rw [ofFunction,List.mem_ite_nil_left,undefinedReferences,List.mem_ite_nil_left,
      List.mem_singleton] at member
    obtain ⟨_,_,rfl⟩ := member
    exact of_decide_eq_true rfl
  | complexity => exact absurd rfl other
  | evolution =>
    obtain ⟨fault,inside,rfl⟩ := List.mem_map.mp member
    exact (evolutionFaults_kind function fault inside).apart
  | determinism =>
    rw [ofFunction,determinismFindings,List.mem_ite_nil_right] at member
    obtain ⟨fault,inside,rfl⟩ := List.mem_map.mp member.2
    have level : fault.code = "E070".toList := levelFaults_code _ fault inside
    change fault.code ∉ ruleCodes
    rw [level]
    decide

theorem Check.ofDocument_apart (check : Check) (config : Config) (spec : Spec) :
    ∀ finding ∈ check.ofDocument config spec, finding.fault.code ∉ ruleCodes := by
  intro finding member
  cases check with
  | functionExists =>
    rw [ofDocument,functionExistsFindings,List.mem_ite_nil_right,List.mem_singleton] at member
    obtain ⟨_,rfl⟩ := member
    decide
  | complexity =>
    unfold ofDocument functionCountFindings at member
    rw [List.mem_ite_nil_right,List.mem_singleton] at member
    obtain ⟨_,rfl⟩ := member
    exact of_decide_eq_true rfl
  | _ => cases member

theorem filter_located (code : Text) (faults : List Fault) (location : Text) :
    (faults.map (Finding.mk · location)).filter (·.fault.code = code) =
      (faults.filter (·.code = code)).map (Finding.mk · location) := by
  rw [List.filter_map]
  rfl

section Coded
variable {code : Text} (coded : code ∈ ruleCodes)
include coded

theorem filter_apart {codeOf : α → Text} {values : List α} (apart : ∀ value ∈ values, codeOf value ∉ ruleCodes) :
    values.filter (fun value => codeOf value = code) = [] := by
  rw [List.filter_eq_nil_iff]
  intro value member same
  exact apart value member (of_decide_eq_true same ▸ coded)

theorem complexityFindings_coded (config : Config) (function : FunctionBlock) :
    (complexityFindings config function).filter (·.fault.code = code) =
      ((ruleFaults config (function.contentOf HeaderName.rules)).filter (·.code = code)).map
        (Finding.mk · function.location) := by
  have inputs : ∀ fault ∈ inputFaults config function.inputs, fault.code ∉ ruleCodes := by
    intro fault member
    obtain ⟨_,_,rfl⟩ := inputFaults_kind config _ fault member
    exact of_decide_eq_true rfl
  have coverage : ∀ fault ∈ coverageFaults (function.contentOf HeaderName.rules)
      (function.contentOf HeaderName.examples), fault.code ∉ ruleCodes := by
    intro fault member
    obtain ⟨_,_,rfl⟩ := coverageFaults_kind _ _ fault member
    exact of_decide_eq_true rfl
  rw [complexityFindings,filter_located,List.filter_append,List.filter_append,filter_apart coded inputs,
    filter_apart coded coverage,List.append_nil,List.nil_append]

-- What is said with one of the codes comes from the rules of each function.
theorem Spec.findings_coded (config : Config) (spec : Spec) :
    (spec.findings config).filter (·.fault.code = code) = spec.functions.flatMap fun function =>
      ((ruleFaults config (function.contentOf HeaderName.rules)).filter (·.code = code)).map
        (Finding.mk · function.location) := by
  have silent : ∀ check : Check, check ≠ .complexity →
      (check.findings config spec).filter (·.fault.code = code) = [] := by
    intro check other
    rw [check.findings_parts,List.filter_append,filter_apart coded (check.ofDocument_apart config spec),
      filter_apart coded,List.append_nil]
    intro finding member
    obtain ⟨function,_,inside⟩ := List.mem_flatMap.mp member
    exact Check.ofFunction_apart other config spec function finding inside
  have complexity : (Check.complexity.findings config spec).filter (·.fault.code = code) =
      spec.functions.flatMap fun function => (complexityFindings config function).filter (·.fault.code = code) := by
    rw [Check.findings_parts,List.filter_append,filter_apart coded (Check.ofDocument_apart .complexity config spec),
      List.nil_append,List.filter_flatMap]
    rfl
  simp only [complexityFindings_coded coded] at complexity
  rw [findings_all,List.filter_flatMap]
  simp [Check.all,Check.ofFunctions,silent,complexity]

end Coded

theorem longRuleFaults_code (config : Config) (position : Nat) (items : List Text) :
    ∀ fault ∈ longRuleFaults config position items, fault.code = "W010".toList := by
  intro fault member
  obtain ⟨_,_,rfl⟩ := longRuleFaults_kind config position items fault member
  rfl

theorem ruleFaults_counted (config : Config) (rules : Text) :
    (ruleFaults config rules).filter (·.code = "E010".toList) =
      if config.maxRules < (ruleItems rules).length then
        [.tooManyRules (ruleItems rules).length config.maxRules] else [] := by
  have long : (longRuleFaults config 1 (ruleItems rules)).filter (·.code = "E010".toList) = [] := by
    rw [List.filter_eq_nil_iff]
    intro fault member
    rw [longRuleFaults_code config 1 _ fault member]
    decide
  rw [ruleFaults_parts,List.filter_append,long,List.append_nil]
  split
  · rfl
  · rfl

theorem ruleFaults_long (config : Config) (rules : Text) :
    (ruleFaults config rules).filter (·.code = "W010".toList) = longRuleFaults config 1 (ruleItems rules) := by
  have long : (longRuleFaults config 1 (ruleItems rules)).filter (·.code = "W010".toList) =
      longRuleFaults config 1 (ruleItems rules) := by
    rw [List.filter_eq_self]
    intro fault member
    exact decide_eq_true (longRuleFaults_code config 1 _ fault member)
  rw [ruleFaults_parts,List.filter_append,long]
  split
  · rfl
  · rfl

theorem diagnosticsOf_coded (severity : Severity) (code : Text) (findings : List Finding) :
    (diagnosticsOf severity findings).filter (·.code = code) =
      diagnosticsOf severity (findings.filter (·.fault.code = code)) := by
  rw [diagnosticsOf,List.filter_map,List.filter_filter,diagnosticsOf,List.filter_filter]
  refine congrArg _ (List.filter_congr ?_)
  intro finding _
  exact Bool.and_comm _ _

-- What the limits say of one list of items, in the words of the messages.
def countDiagnostic (config : Config) (items : List Text) (location : Text) : List Diagnostic :=
  if config.maxRules < items.length then
    [⟨"E010".toList,"RULES block has ".toList ++ decimal items.length ++ " items (max ".toList ++
      decimal config.maxRules ++ ")".toList,location⟩]
  else []

def lengthDiagnostics (config : Config) (items : List Text) (location : Text) : List Diagnostic :=
  ((items.zipIdx 1).filter fun item => config.maxRuleLength < item.1.length).map fun item =>
    ⟨"W010".toList,"RULES item ".toList ++ decimal item.2 ++ " exceeds ".toList ++
      decimal config.maxRuleLength ++ " characters (".toList ++ decimal item.1.length ++
      " chars)".toList,location⟩

theorem counted_diagnostics (config : Config) (rules location : Text) :
    let findings := ((ruleFaults config rules).filter (·.code = "E010".toList)).map (Finding.mk · location)
    diagnosticsOf .error findings = countDiagnostic config (ruleItems rules) location ∧
      diagnosticsOf .warning findings = [] := by
  dsimp only
  rw [ruleFaults_counted,countDiagnostic]
  split
  · exact ⟨rfl,rfl⟩
  · exact ⟨rfl,rfl⟩

theorem long_diagnostics (config : Config) (rules location : Text) :
    let findings := ((ruleFaults config rules).filter (·.code = "W010".toList)).map (Finding.mk · location)
    diagnosticsOf .warning findings = lengthDiagnostics config (ruleItems rules) location ∧
      diagnosticsOf .error findings = [] := by
  have warning : ∀ fault ∈ longRuleFaults config 1 (ruleItems rules), fault.severity = .warning :=
    longRuleFaults_harmless config 1 _
  dsimp only
  rw [ruleFaults_long]
  refine ⟨?_,?_⟩
  · rw [diagnosticsOf_located warning,longRuleFaults_exact,List.map_map]
    rfl
  · apply diagnosticsOf_other
    intro finding member
    obtain ⟨fault,inside,rfl⟩ := List.mem_map.mp member
    simp [warning fault inside]

-- The diagnostics about the limits, function by function and item by item. Nothing else has their codes.
theorem Spec.lint_limits (config : Config) (spec : Spec) :
    let items (function : FunctionBlock) := ruleItems (function.contentOf HeaderName.rules)
    let verdict := spec.lint config
    verdict.errors.filter (·.code = "E010".toList) =
        spec.functions.flatMap (fun function => countDiagnostic config (items function) function.location) ∧
      verdict.warnings.filter (·.code = "W010".toList) =
        spec.functions.flatMap (fun function => lengthDiagnostics config (items function) function.location) ∧
      verdict.warnings.filter (·.code = "E010".toList) = [] ∧
      verdict.errors.filter (·.code = "W010".toList) = [] := by
  intro items verdict
  obtain ⟨errors,warnings⟩ := spec.lint_diagnostics config
  have counted : "E010".toList ∈ ruleCodes := by decide
  have long : "W010".toList ∈ ruleCodes := by decide
  simp only [verdict,errors,warnings,diagnosticsOf_coded,findings_coded counted,findings_coded long,
    diagnosticsOf_flatMap,counted_diagnostics,long_diagnostics]
  simp [items]

-- Items typed below their header, each with a bullet on a line of its own.
def typedItems (items : List Text) : Text := items.flatMap fun item => '\n' :: bulleted item

def rulesDocument (signature : Text) (items : List Text) (doneWhen examples errors : Text) : Text :=
  join ['\n'] ([("FUNCTION".toList,signature),("RULES".toList,typedItems items),
    ("DONE_WHEN".toList,doneWhen),("EXAMPLES".toList,examples),("ERRORS".toList,errors)].map writeBlock)

section Items
variable {items : List Text} (solid : ∀ item ∈ items, Solid item)
include solid

theorem typedItems_lines : split '\n' (typedItems items) = [] :: items.map bulleted := by
  induction items with
  | nil => rfl
  | cons item rest ih =>
    have below := ih fun other member => solid other (List.mem_cons_of_mem _ member)
    have plain : '\n' ∉ bulleted item := (bulleted_solid (solid item List.mem_cons_self)).oneLine
    have first := split_before plain below
    rw [List.append_nil] at first
    rw [typedItems,List.flatMap_cons,List.cons_append,← typedItems,split,if_pos rfl,first]
    rfl

theorem typedItems_bodied : Bodied (typedItems items) := by
  unfold Bodied
  rw [typedItems_lines solid]
  intro line member begins
  obtain ⟨item,_,rfl⟩ := List.mem_map.mp member
  obtain ⟨name,tail,same,first,rest,rfl,capital,_⟩ := begins
  have dash : '-' = first := (List.cons.inj same).1
  rw [← dash] at capital
  cases capital

theorem typedItems_read : ruleItems (typedContent (typedItems items)) = items := by
  apply ruleItems_bulleted solid
  have lines : ∀ line ∈ items.map bulleted, Solid line :=
    List.forall_mem_map.mpr fun item member => bulleted_solid (solid item member)
  rw [typedContent,typedItems_lines solid,blockContent_lines,List.headD_cons,List.tail_cons,
    trimmedLines_trim,trimmedLines_trim,trimmedLines_solid lines]
  rfl

end Items

-- The limits hold from the text to the message: too many items are one error, and each long item
-- is one warning at its place in the list.
theorem lintText_ruleLimits (config : Config)
    (known : config.vocabulary.isFunctionLandmark HeaderName.rules = true)
    {items : List Text} (solid : ∀ item ∈ items, Solid item) {signature doneWhen examples errors : Text}
    (heading : '\n' ∉ signature) (bodied : ∀ text ∈ [doneWhen,examples,errors], Bodied text) :
    let text := rulesDocument signature items doneWhen examples errors
    let verdict := lintText config text
    ∃ function, (Spec.ofText config.vocabulary text).functions = [function] ∧
      verdict.errors.filter (·.code = "E010".toList) = countDiagnostic config items function.location ∧
      verdict.warnings.filter (·.code = "W010".toList) =
        lengthDiagnostics config items function.location ∧
      verdict.warnings.filter (·.code = "E010".toList) = [] ∧
      verdict.errors.filter (·.code = "W010".toList) = [] := by
  intro text verdict
  have oneLine : Bodied signature := by
    unfold Bodied
    rw [split_plain heading]
    exact List.forall_mem_nil _
  let blocks : List (Text × Text) := [("RULES".toList,typedItems items),
    ("DONE_WHEN".toList,doneWhen),("EXAMPLES".toList,examples),("ERRORS".toList,errors)]
  have names : blocks.map (·.1) = ["RULES".toList,"DONE_WHEN".toList,"EXAMPLES".toList,"ERRORS".toList] := rfl
  have forms : ∀ name ∈ blocks.map (·.1), NameForm name := by rw [names]; decide
  have inner : ∀ name ∈ blocks.map (·.1), opensBlock name = false := by rw [names]; decide
  have below : ∀ block ∈ blocks, Bodied block.2 := by
    have texts : ∀ text ∈ blocks.map (·.2), Bodied text :=
      List.forall_mem_cons.mpr ⟨typedItems_bodied solid,bodied⟩
    exact List.forall_mem_map.mp texts
  obtain ⟨function,single,contents⟩ := ofText_blocks config.vocabulary oneLine
    (List.forall_mem_map.mp forms) below (List.forall_mem_map.mp inner) (by rw [names]; decide)
  have rules : function.contentOf HeaderName.rules = typedContent (typedItems items) := by
    have read := contents HeaderName.rules known
    rw [FunctionBlock.contentOf,read]
    rfl
  have limits := Spec.lint_limits config (Spec.ofText config.vocabulary text)
  have one : (Spec.ofText config.vocabulary text).functions = [function] := single
  simp only [one,List.flatMap_singleton,rules,typedItems_read solid] at limits
  exact ⟨function,one,limits⟩

-- The second of three items is too long, and three are too many.
theorem lintText_ruleLimits_small :
    let config := { Config.standard with maxRules := 2, maxRuleLength := 4 }
    let items := ["a: b".toList,"naïve".toList,"IF:".toList]
    let verdict := lintText config
      (rulesDocument " f() → int".toList items "\n- done".toList " (1) → 1".toList [])
    ∃ location, verdict.errors.filter (·.code = "E010".toList) =
        [⟨"E010".toList,"RULES block has 3 items (max 2)".toList,location⟩] ∧
      verdict.warnings.filter (·.code = "W010".toList) =
        [⟨"W010".toList,"RULES item 2 exceeds 4 characters (5 chars)".toList,location⟩] := by
  intro config items verdict
  have solid : ∀ item ∈ items, Solid item := by decide
  have bodied : ∀ text ∈ ["\n- done".toList," (1) → 1".toList,[]], Bodied text := by
    have plain : ∀ text ∈ ["\n- done".toList," (1) → 1".toList,[]], Plain (split '\n' text).tail := by decide
    exact fun text member => (plain_exact _).mp (plain text member)
  obtain ⟨function,_,counted,long,_⟩ := lintText_ruleLimits config (by decide) solid
    (show '\n' ∉ " f() → int".toList by decide) bodied
  have count : "RULES block has ".toList ++ decimal 3 ++ " items (max ".toList ++ decimal 2 ++ ")".toList =
      "RULES block has 3 items (max 2)".toList := by decide +kernel
  have length : "RULES item ".toList ++ decimal 2 ++ " exceeds ".toList ++ decimal 4 ++
      " characters (".toList ++ decimal 5 ++ " chars)".toList =
      "RULES item 2 exceeds 4 characters (5 chars)".toList := by decide +kernel
  rw [← count,← length]
  exact ⟨function.location,counted,long⟩

end SpecLint
