import SpecLint.Proofs.CommandLine.Arguments
import SpecLint.Proofs.CommandLine.ExitCode
import SpecLint.Proofs.Config.Settings

namespace SpecLint
open Text Toml

-- Where a run finds its settings: nowhere, or in a file.
inductive Settings.FoundIn (tree : FileTree) : Option Text → Settings → Prop where
  | nowhere : FoundIn tree none .unset
  | file {path text : Text} {entries : Entries} {settings : Settings} (read : tree.read path = .ok text)
      (parsed : parse? text = some entries) (assigned : settings.AssignedIn entries) :
      FoundIn tree (some path) settings

-- A file that is plainly written is always read, whatever else it says.
theorem Settings.FoundIn.written {tree : FileTree} {path : Text} {document : Document} {settings : Settings}
    (read : tree.read path = .ok document.text) (fits : document.Fits)
    (assigned : settings.AssignedIn document.entries) : settings.FoundIn tree (some path) :=
  .file read (parse?_document fits) assigned

theorem Settings.FoundIn.configFor {tree : FileTree} {file : Option Text} {settings : Settings}
    (found : settings.FoundIn tree file) : SpecLint.configFor tree file = .ok (settings.under .unset) := by
  cases found with
  | nowhere => rfl
  | file read parsed assigned =>
    refine Config.load_text read ?_
    rw [Config.ofToml?,parsed]
    exact ofEntries?_assigned assigned

-- The number that a flag among the arguments gives, when it is among them.
def Overrides.Given (arguments : List Text) (flag : String) (limit : Option Nat) : Prop :=
  ∀ n, limit = some n ↔ ∃ option value, .option option value ∈ readItems Request.lintForm.options arguments ∧
    option.long = flag.toList ∧ limitOf? value = some n

-- Each limit of a run is given by its own flag.
structure Overrides.GivenBy (limits : Overrides) (arguments : List Text) : Prop where
  maxFunctions : Given arguments "max-functions" limits.maxFunctions
  maxInputs : Given arguments "max-inputs" limits.maxInputs
  maxRuleLength : Given arguments "max-rule-length" limits.maxRuleLength
  maxRules : Given arguments "max-rules" limits.maxRules

theorem limitIn_given {arguments : List Text} {found : Arguments}
    (read : Arguments.read Request.lintForm arguments = .ok found) (flag : String) :
    Overrides.Given arguments flag (Request.limitIn found flag) := by
  intro n
  rw [Request.limitIn,Option.bind_eq_some_iff]
  constructor
  · rintro ⟨value,given,number⟩
    obtain ⟨option,member,named⟩ := (Arguments.value?_read read _ _).mp given
    exact ⟨option,value,member,named,number⟩
  · rintro ⟨option,value,member,named,number⟩
    exact ⟨value,(Arguments.value?_read read _ _).mpr ⟨option,member,named⟩,number⟩

theorem ofArguments_given {arguments : List Text} {path : Text} {file : Option Text} {limits : Overrides}
    {format : Format} (accepted : Request.ofArguments ("lint".toList :: arguments) =
      some (.lint path file limits format)) : limits.GivenBy arguments := by
  change Request.orHelp .lint _ (Arguments.read Request.lintForm arguments) = _ at accepted
  cases read : Arguments.read Request.lintForm arguments with
  | error refusal => cases refusal <;> simp [read,Request.orHelp] at accepted
  | ok found =>
    rw [read] at accepted
    cases accepted
    exact ⟨limitIn_given read _,limitIn_given read _,limitIn_given read _,limitIn_given read _⟩

-- What a run says when it has a report, or none.
def Outcome.ofReport (tree : FileTree) (format : Format) : Except Failure Report → Outcome
  | .ok report => .printed tree (if report.passed then 0 else 1) (report.render format false)
  | .error failure => .failed tree failure

theorem run_settings {tree : FileTree} {file : Option Text} {settings : Settings}
    (found : settings.FoundIn tree file) (limits : Overrides) (input : ByteArray) (path : Text) (format : Format) :
    (Request.lint path file limits format).run tree input =
      .ofReport tree format (reportOf (settings.under limits) tree input path) := by
  have effective : runLint tree input path file limits = reportOf (settings.under limits) tree input path := by
    rw [runLint,found.configFor,← Settings.apply_under settings limits]
    rfl
  rw [Request.run,effective]
  rfl

-- A run is one with the settings that have, key by key, what its flag gives, or else what the file
-- assigns, or else the default.
theorem runCommand_settings {arguments : List Text} {tree : FileTree} {path : Text} {file : Option Text}
    {limits : Overrides} {format : Format} {settings : Settings}
    (accepted : Request.ofArguments ("lint".toList :: arguments) = some (.lint path file limits format))
    (found : settings.FoundIn tree file) (input : ByteArray) : limits.GivenBy arguments ∧
      runCommand ("lint".toList :: arguments) tree input =
        .ofReport tree format (reportOf (settings.under limits) tree input path) := by
  refine ⟨ofArguments_given accepted,?_⟩
  rw [runCommand,accepted]
  exact run_settings found limits input path format

-- The report shows each key at work: no inputs and two rules by the flags, one function and one
-- builtin type by the file, and the landmarks and the length of a rule by default.
theorem runCommand_settings_partial :
    let document : Document :=
      ⟨[⟨"colour",.words []⟩, ⟨"max_rules",.count 1⟩, ⟨"max_functions",.count 1⟩],
        [⟨"vocabulary",[⟨"builtin_types",.words ["größe".toList]⟩]⟩, ⟨"theme",[]⟩]⟩
    let lines := ["DATA: Thing", "FUNCTION: f(a) → int", "RULES: - a", "- b", "DONE_WHEN: c", "EXAMPLES: a → b",
      "ERRORS: none", "FUNCTION: g() → Größe", "RULES: - a", "- b", "- c", "DONE_WHEN: d", "EXAMPLES: a → b",
      "ERRORS: none"]
    let text := join ['\n'] (lines.map (·.toList))
    let tree := FileTree.ofEntries [("lint.toml".toList,.file (FileTree.encode document.text)),
      ("specs".toList,.file (FileTree.encode text))]
    let arguments := ["--max-rules=+02".toList, "specs".toList, "-clint.toml".toList, "--max-inputs".toList, "0".toList]
    let limits : Overrides := ⟨none,some 0,none,some 2⟩
    let config := { Config.standard with
      maxFunctions := 1
      maxInputs := 0
      maxRules := 2
      vocabulary := ⟨Vocabulary.defaultFunctionLandmarks,.ofList ["größe".toList]⟩ }
    let messages := fun diagnostics : List Diagnostic => diagnostics.map (String.ofList ·.message)
    (limits.GivenBy arguments ∧ runCommand ("lint".toList :: arguments) tree .empty =
      .ofReport tree .text (reportOf config tree .empty "specs".toList)) ∧
    reportOf config tree .empty "specs".toList = .ok (.ofFiles [.ofText config "specs".toList text]) ∧
    (messages (lintText config text).errors,messages (lintText config text).warnings) =
      (["FUNCTION has 1 inputs (max 0)", "RULES block has 3 items (max 2)"],
        ["Return type 'int' may reference undefined DATA type",
          "Spec has 2 FUNCTION blocks (max recommended: 1)"]) := by
  intro document lines text tree arguments limits config messages
  let settings := { Settings.unset with
    maxFunctions := some 1
    maxRules := some 1
    builtinTypes := some ["größe".toList] }
  have accepted : Request.ofArguments ("lint".toList :: arguments) =
      some (.lint "specs".toList (some "lint.toml".toList) limits .text) := by
    decide +kernel
  have read : tree.read "lint.toml".toList = .ok document.text := FileTree.read_exact.mpr ⟨_,rfl,rfl⟩
  have fits : document.Fits := by
    decide +kernel
  have found : settings.FoundIn tree (some "lint.toml".toList) :=
    .written read fits ⟨rfl,rfl,rfl,rfl,rfl,.table rfl rfl⟩
  have report : reportOf config tree .empty "specs".toList = .ok (.ofFiles [.ofText config "specs".toList text]) :=
    reportOf_exact.mpr (.document rfl (.file rfl ⟨_,rfl,rfl⟩))
  exact ⟨runCommand_settings accepted found .empty,report,by decide +kernel⟩

end SpecLint
