import SpecLint.CommandLine.Run
import SpecLint.Proofs.Files.Directory

namespace SpecLint

-- Naming the file in an error changes no reading that succeeds.
theorem mapError_ok {read : Except ε α} {value : α} (name : ε → φ) :
    read.mapError name = .ok value ↔ read = .ok value := by
  cases read <;> simp [Except.mapError]

namespace FileTree
variable {tree : FileTree} {input : ByteArray} {path text : Text}

theorem read_exact : tree.read path = .ok text ↔ tree.Holds path [] (encode text) := by
  unfold read Holds
  cases tree.place path with
  | error => simp [bind,Except.bind]
  | ok place =>
    obtain ⟨entry,above⟩ := place
    cases entry with
    | file content => simp [bind,Except.bind,Entry.find?,Content.read_exact]
    | directory entries => simp [bind,Except.bind,Entry.find?]

theorem readNamed_exact : tree.readNamed path = .ok text ↔ tree.Holds path [] (encode text) :=
  (mapError_ok _).trans read_exact

-- The text that a document path stands for: all of standard input, or the file that it leads to.
inductive Reads (tree : FileTree) (input : ByteArray) (path : Text) : Text → Prop where
  | input {text : Text} (standard : Path.isStandardInput path = true) (given : input = encode text) :
      Reads tree input path text
  | file {text : Text} (named : Path.isStandardInput path = false) (holds : tree.Holds path [] (encode text)) :
      Reads tree input path text

theorem readSource_exact : readSource tree input path = .ok text ↔ tree.Reads input path text := by
  cases standard : Path.isStandardInput path with
  | true =>
    have whole : readSource tree input path = .ok text ↔ input = encode text := by
      rw [readSource,if_pos standard,mapError_ok,Content.decode_exact]
    refine whole.trans ⟨.input standard,?_⟩
    rintro (⟨_,given⟩ | ⟨named,_⟩)
    · exact given
    · cases standard.symm.trans named
  | false =>
    have alone : readSource tree input path = tree.readNamed path := if_neg (by simp [standard])
    rw [alone,readNamed_exact]
    refine ⟨.file standard,?_⟩
    rintro (⟨dash,_⟩ | ⟨_,holds⟩)
    · cases standard.symm.trans dash
    · exact holds

end FileTree

-- The settings of a run: the standard ones, or those of a file whose text fits.
inductive Config.Chosen (tree : FileTree) : Option Text → Config → Prop where
  | standard : Chosen tree none .standard
  | file {path text : Text} {config : Config} (holds : tree.Holds path [] (FileTree.encode text))
      (fits : Config.ofToml? text = some config) : Chosen tree (some path) config

theorem configFor_exact {tree : FileTree} {configPath : Option Text} {config : Config} :
    configFor tree configPath = .ok config ↔ Config.Chosen tree configPath config := by
  constructor
  · intro chosen
    cases configPath with
    | none =>
      cases chosen
      exact .standard
    | some path =>
      change Config.load tree path = .ok config at chosen
      cases read : tree.readNamed path with
      | error => simp [Config.load,read,bind,Except.bind] at chosen
      | ok text =>
        simp only [Config.load,read,bind,Except.bind] at chosen
        split at chosen
        · rename_i found fits
          cases chosen
          exact .file (FileTree.readNamed_exact.mp read) fits
        · cases chosen
  · rintro (_ | ⟨holds,fits⟩)
    · rfl
    · exact Config.load_text (FileTree.read_exact.mpr holds) fits

-- What a run reports on: a directory as a whole, or else the text of one document.
inductive Report.Made (config : Config) (tree : FileTree) (input : ByteArray) (path : Text) : Report → Prop where
  | directory (leads : tree.isDirectory path = true) : Made config tree input path (lintDirectory config tree path)
  | document {text : Text} (alone : tree.isDirectory path = false) (reads : tree.Reads input path text) :
      Made config tree input path (.ofFiles [.ofText config path text])

theorem reportOf_exact {config : Config} {tree : FileTree} {input : ByteArray} {path : Text} {report : Report} :
    reportOf config tree input path = .ok report ↔ report.Made config tree input path := by
  constructor
  · intro made
    unfold reportOf at made
    split at made
    · rename_i leads
      cases made
      exact .directory leads
    · rename_i other
      cases read : readSource tree input path with
      | error => simp [lintFile,read,Except.map] at made
      | ok text =>
        simp only [lintFile,read,Except.map] at made
        cases made
        exact .document (by simpa using other) (FileTree.readSource_exact.mp read)
  · rintro (leads | ⟨alone,reads⟩)
    · exact if_pos leads
    · have read := FileTree.readSource_exact.mpr reads
      simp [reportOf,alone,lintFile,read,Except.map]

theorem runLint_exact {tree : FileTree} {input : ByteArray} {path : Text} {configPath : Option Text}
    {overrides : Overrides} {report : Report} : runLint tree input path configPath overrides = .ok report ↔
      ∃ config, Config.Chosen tree configPath config ∧ report.Made (overrides.apply config) tree input path := by
  simp only [← configFor_exact,← reportOf_exact]
  cases chosen : configFor tree configPath with
  | error => simp [runLint,chosen,bind,Except.bind]
  | ok config => simp [runLint,chosen,bind,Except.bind]

theorem Report.Made.totalled {config : Config} {tree : FileTree} {input : ByteArray} {path : Text} {report : Report}
    (made : report.Made config tree input path) : report.Totalled := by
  cases made with
  | directory => exact lintDirectory_totalled config tree path
  | document => exact ofFiles_totalled _

-- A file that cannot be opened, or is no text, has an entry with an error.
theorem ofContent_unreadable {config : Config} {path : Text} {content : Content}
    (broken : ∀ text, content ≠ .bytes (FileTree.encode text)) :
    (FileReport.ofContent config path content).verdict.errors ≠ [] := by
  cases read : content.read with
  | ok text => exact absurd (Content.read_exact.mp read) (broken text)
  | error error =>
    rw [FileReport.ofContent,read]
    exact List.cons_ne_nil _ _

namespace Outcome

def Fails (outcome : Outcome) : Prop := outcome.exitCode = 2 ∧ outcome.output = []

-- A report is printed, and the code says whether an entry of it has an error.
def Answers (report : Report) (format : Format) (outcome : Outcome) : Prop :=
  outcome.output = report.render format false ++ ['\n'] ∧
    (outcome.exitCode = 0 ∧ (∀ entry ∈ report.files, entry.verdict.errors = []) ∨
      outcome.exitCode = 1 ∧ ∃ entry ∈ report.files, entry.verdict.errors ≠ [])

theorem failed_fails (tree : FileTree) (failure : Failure) : (failed tree failure).Fails := ⟨rfl,rfl⟩

theorem printed_answers (tree : FileTree) {report : Report} (format : Format) (totalled : report.Totalled) :
    (printed tree (if report.passed then 0 else 1) (report.render format false)).Answers report format := by
  refine ⟨rfl,?_⟩
  have exact := report.passed_exact totalled
  cases passed : report.passed with
  | true => exact .inl ⟨rfl,exact.mp passed⟩
  | false =>
    have some : ¬∀ entry ∈ report.files, entry.verdict.errors = [] := fun none => by
      cases passed.symm.trans (exact.mpr none)
    exact .inr ⟨rfl,by simpa using some⟩

theorem Answers.answered {outcome : Outcome} {report : Report} {format : Format}
    (answers : outcome.Answers report format) : ¬outcome.Fails := by
  rintro ⟨code,_⟩
  rcases answers.2 with ⟨passed,_⟩ | ⟨broken,_⟩
  · cases code.symm.trans passed
  · cases code.symm.trans broken

theorem Answers.document {outcome : Outcome} {config : Config} {path text : Text} {format : Format}
    (answers : outcome.Answers (.ofFiles [.ofText config path text]) format) :
    outcome.exitCode = if (lintText config text).errors = [] then 0 else 1 := by
  have entry : FileReport.ofText config path text ∈ (Report.ofFiles [.ofText config path text]).files :=
    List.mem_singleton_self _
  rcases answers.2 with ⟨passed,none⟩ | ⟨broken,found,member,some⟩
  · exact passed.trans (if_pos (none _ entry)).symm
  · rw [List.mem_singleton.mp member] at some
    exact broken.trans (if_neg some).symm

end Outcome

section
variable {tree : FileTree} {input : ByteArray} {path : Text} {configPath : Option Text} {overrides : Overrides}
  {format : Format}

-- There is nothing to report on: the settings come first, and then a document is the only thing that
-- cannot be read, as a directory always has a report.
def Unanswerable (tree : FileTree) (input : ByteArray) (path : Text) (configPath : Option Text) : Prop :=
  (∀ config, ¬Config.Chosen tree configPath config) ∨
    (∃ config, Config.Chosen tree configPath config) ∧ tree.isDirectory path = false ∧
      ∀ text, ¬tree.Reads input path text

theorem unanswerable_exact (overrides : Overrides) :
    Unanswerable tree input path configPath ↔
      ∀ report, runLint tree input path configPath overrides ≠ .ok report := by
  simp only [ne_eq,runLint_exact,not_exists,not_and]
  constructor
  · rintro (unset | ⟨_,alone,unread⟩) report config chosen made
    · exact unset config chosen
    · cases made with
      | directory leads => cases alone.symm.trans leads
      | document _ reads => exact unread _ reads
  · intro unmade
    by_cases chosen : ∃ config, Config.Chosen tree configPath config
    · obtain ⟨config,chosen⟩ := chosen
      have alone : tree.isDirectory path = false := by
        by_contra leads
        exact unmade _ config chosen (.directory (by simpa using leads))
      exact .inr ⟨⟨config,chosen⟩,alone,fun text reads => unmade _ config chosen (.document alone reads)⟩
    · exact .inl (not_exists.mp chosen)

theorem run_answers {report : Report} (made : runLint tree input path configPath overrides = .ok report) :
    ((Request.lint path configPath overrides format).run tree input).Answers report format := by
  obtain ⟨config,_,parts⟩ := runLint_exact.mp made
  simp only [Request.run,made]
  exact Outcome.printed_answers tree format parts.totalled

theorem run_fails : ((Request.lint path configPath overrides format).run tree input).Fails ↔
    Unanswerable tree input path configPath := by
  rw [unanswerable_exact overrides]
  constructor
  · exact fun fails report made => (run_answers made).answered fails
  · intro unmade
    cases made : runLint tree input path configPath overrides with
    | error failure =>
      simp only [Request.run,made]
      exact Outcome.failed_fails tree failure
    | ok report => exact absurd made (unmade report)

end

-- What the exit code of a run of `lint` says.
structure Outcome.OfLint (tree : FileTree) (input : ByteArray) (path : Text) (configPath : Option Text)
    (overrides : Overrides) (format : Format) (run : Outcome) : Prop where
  fails : run.Fails ↔ Unanswerable tree input path configPath
  settled : Unanswerable tree input path configPath ∨ ∃ config report, Config.Chosen tree configPath config ∧
    Report.Made (overrides.apply config) tree input path report
  answers : ∀ config report, Config.Chosen tree configPath config →
    Report.Made (overrides.apply config) tree input path report → run.Answers report format
  unreadable : ∀ config names content, Config.Chosen tree configPath config → tree.isDirectory path = true →
    tree.Holds path names content → config.isSpecFile (Path.joined path names) = true →
      (∀ text, content ≠ .bytes (FileTree.encode text)) → run.exitCode = 1

-- Accepted arguments of `lint` fail with 2 and print nothing exactly when there is nothing to report
-- on. Otherwise the report is printed, and only errors of its entries decide between 0 and 1. A file
-- of a directory that cannot be opened or is no text is one of them.
theorem runCommand_lint (arguments : List Text) (tree : FileTree) (input : ByteArray) {path : Text}
    {configPath : Option Text} {overrides : Overrides} {format : Format}
    (accepted : Request.ofArguments arguments = some (.lint path configPath overrides format)) :
    (runCommand arguments tree input).OfLint tree input path configPath overrides format := by
  have ran : runCommand arguments tree input = (Request.lint path configPath overrides format).run tree input := by
    rw [runCommand,accepted]
  have answers : ∀ config report, Config.Chosen tree configPath config →
      Report.Made (overrides.apply config) tree input path report →
        (runCommand arguments tree input).Answers report format := by
    intro config report chosen made
    rw [ran]
    exact run_answers (runLint_exact.mpr ⟨config,chosen,made⟩)
  refine ⟨ran ▸ run_fails,?_,answers,?_⟩
  · cases made : runLint tree input path configPath overrides with
    | error failure => exact .inl ((unanswerable_exact overrides).mpr (by simp [made]))
    | ok report =>
      obtain ⟨config,chosen,parts⟩ := runLint_exact.mp made
      exact .inr ⟨config,report,chosen,parts⟩
  · intro config names content chosen leads holds spec broken
    have entry : FileReport.ofContent (overrides.apply config) (Path.joined path names) content ∈
        (lintDirectory (overrides.apply config) tree path).files := lintDirectory_found holds spec
    obtain ⟨_,⟨_,passed⟩ | ⟨code,_⟩⟩ := answers config _ chosen (.directory leads)
    · exact absurd (passed _ entry) (ofContent_unreadable broken)
    · exact code

-- A file that is no text or cannot be opened, a document with an error, one with a warning alone, and
-- no settings where they were said to be.
theorem runCommand_lint_unreadable :
    let settings := "max_rules = 3".toList
    let wrong := "RULES: none".toList
    let warned := "DATA: Thing\nFUNCTION: f() → Widget\nRULES: a\nDONE_WHEN: b\nEXAMPLES: c → d\nERRORS: d".toList
    let tree := FileTree.ofEntries [("lint.toml".toList,.file (FileTree.encode settings)),
      ("specs".toList,.directory [("a.simplex".toList,.file (.bytes ⟨#[0xff]⟩))]),
      ("closed".toList,.directory [("a.simplex".toList,.file .locked)]),
      ("wrong.md".toList,.file (FileTree.encode wrong)), ("warned.md".toList,.file (FileTree.encode warned))]
    let arguments := ["lint".toList, "specs/".toList, "--config=lint.toml".toList, "--max-rules".toList, "+1".toList]
    let overrides : Overrides := ⟨none,none,none,some 1⟩
    let lint := fun path : String => runCommand ["lint".toList, path.toList] tree .empty
    Request.ofArguments arguments = some (.lint "specs/".toList (some "lint.toml".toList) overrides .text) ∧
      (runCommand arguments tree .empty).exitCode = 1 ∧ (runCommand arguments .empty .empty).Fails ∧
      (lint "closed").exitCode = 1 ∧
      ((lintText .standard wrong).errors.map (·.code) = ["E001".toList] ∧ (lint "wrong.md").exitCode = 1) ∧
      (lintText .standard warned).errors = [] ∧ (lintText .standard warned).warnings.map (·.code) = ["E006".toList] ∧
      (lint "warned.md").exitCode = 0 := by
  intro settings wrong warned tree arguments overrides lint
  have accepted : Request.ofArguments arguments =
      some (.lint "specs/".toList (some "lint.toml".toList) overrides .text) := by decide +kernel
  have fits : Config.ofToml? settings = some { Config.standard with maxRules := 3 } := by decide +kernel
  have broken : ∀ text, Content.bytes ⟨#[0xff]⟩ ≠ .bytes (FileTree.encode text) := by
    intro text same
    cases Content.read_exact.mpr same
  have spec : Config.standard.isSpecFile (Path.joined "specs/".toList ["a.simplex".toList]) = true := by decide
  have unset : ∀ config, ¬Config.Chosen .empty (some "lint.toml".toList) config := by
    rintro config (_ | ⟨⟨place,found,_⟩,_⟩)
    cases found
  have chosen : Config.Chosen tree (some "lint.toml".toList) _ := .file ⟨_,rfl,rfl⟩ fits
  have run := runCommand_lint arguments tree .empty accepted
  have fails := (runCommand_lint arguments .empty .empty accepted).fails.mpr (.inl unset)
  have plain : ∀ path ∈ ["closed".toList, "wrong.md".toList, "warned.md".toList],
      Request.ofArguments ["lint".toList,path] = some (.lint path none ⟨none,none,none,none⟩ .text) := by
    decide +kernel
  have closed : (lint "closed").exitCode = 1 :=
    (runCommand_lint _ tree .empty (plain _ (by simp))).unreadable _ ["a.simplex".toList] .locked .standard rfl
      ⟨_,rfl,rfl⟩ (by decide) (fun _ => nofun)
  have error : (lintText .standard wrong).errors.map (·.code) = ["E001".toList] := by decide +kernel
  have clean : (lintText .standard warned).errors = [] := by decide +kernel
  have wrongRun := (runCommand_lint _ tree .empty (plain "wrong.md".toList (by simp))).answers _ _ .standard
    (.document rfl (.file rfl ⟨_,rfl,rfl⟩))
  have warnedRun := (runCommand_lint _ tree .empty (plain "warned.md".toList (by simp))).answers _ _ .standard
    (.document rfl (.file rfl ⟨_,rfl,rfl⟩))
  refine ⟨accepted,run.unreadable _ _ _ chosen rfl ⟨_,rfl,rfl⟩ spec broken,fails,closed,⟨error,?_⟩,clean,?_,?_⟩
  · exact wrongRun.document.trans (if_neg fun none => by cases (congrArg _ none).symm.trans error)
  · decide +kernel
  · exact warnedRun.document.trans (if_pos clean)

end SpecLint
