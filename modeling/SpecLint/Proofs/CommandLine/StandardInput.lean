import SpecLint.Proofs.CommandLine.ExitCode

namespace SpecLint
open Text

-- The entry that stands for a document which was read, or could not be read.
def FileReport.ofReading (path : Text) : Except Failure FileReport → FileReport
  | .ok file => file
  | .error failure => .unreadable path failure.message

section
variable {config : Config} {tree : FileTree} {path : Text}

theorem readSource_named (accepted : config.isSpecFile path = true) (input : ByteArray) :
    readSource tree input path = tree.readNamed path := by
  have file : ¬Path.isStandardInput path = true := by
    rw [Config.isSpecFile_named accepted]
    decide
  exact if_neg file

-- A file of a directory has the entry that it has when it is linted alone.
theorem ofContent_reading {names : List Text} {content : Content} (holds : tree.Holds path names content)
    (accepted : config.isSpecFile (Path.joined path names) = true)
    (input : ByteArray) : FileReport.ofContent config (Path.joined path names) content =
      .ofReading (Path.joined path names) (lintFile config tree input (Path.joined path names)) := by
  rw [lintFile_found holds accepted,FileReport.ofContent]
  cases content.read <;> rfl

theorem lintDirectory_read (config : Config) (tree : FileTree) (input : ByteArray) (path : Text) :
    (lintDirectory config tree path).files = (specsBelow config path (tree.walk path)).map fun file =>
      .ofReading (Path.joined path file.1) (lintFile config tree input (Path.joined path file.1)) := by
  rw [lintDirectory_files]
  refine List.map_congr_left ?_
  rintro ⟨names,content⟩ member
  obtain ⟨holds,accepted⟩ := mem_specsBelow.mp member
  exact ofContent_reading holds accepted input

theorem lintDirectory_accepted {entry : FileReport} (member : entry ∈ (lintDirectory config tree path).files) :
    config.isSpecFile entry.path = true := by
  rw [lintDirectory_files] at member
  obtain ⟨file,found,rfl⟩ := List.mem_map.mp member
  rw [specsBelow,List.mem_mergeSort,List.mem_filter] at found
  rw [ofContent_path]
  exact found.2

end

namespace Path

-- The path that stands for standard input.
def dash : Text := ['-']

theorem dash_standard : isStandardInput dash = true := rfl

end Path

section
variable {config : Config} {tree : FileTree} {text : Text}

def Report.ofDash (config : Config) (text : Text) : Report :=
  .ofFiles [⟨Path.dash,(Spec.ofText config.vocabulary text).functions.length,lintText config text⟩]

theorem readSource_dash (tree : FileTree) (text : Text) :
    readSource tree (FileTree.encode text) Path.dash = .ok text :=
  FileTree.readSource_exact.mpr (.input Path.dash_standard rfl)

-- No entry of a directory has the path of standard input.
theorem reportOf_dash : reportOf config tree (FileTree.encode text) Path.dash = .ok (.ofDash config text) ↔
    tree.isDirectory Path.dash = false := by
  constructor
  · intro made
    by_contra leads
    have report : reportOf config tree (FileTree.encode text) Path.dash =
        .ok (lintDirectory config tree Path.dash) := if_pos (by simpa using leads)
    have same : lintDirectory config tree Path.dash = .ofDash config text :=
      Except.ok.inj (report.symm.trans made)
    have member : ⟨Path.dash,(Spec.ofText config.vocabulary text).functions.length,lintText config text⟩ ∈
        (lintDirectory config tree Path.dash).files := by
      rw [same,Report.ofDash,Report.ofFiles_files]
      exact List.mem_singleton.mpr rfl
    cases Path.dash_standard.symm.trans (Config.isSpecFile_named (lintDirectory_accepted member))
  · intro alone
    exact reportOf_exact.mpr (.document alone (FileTree.readSource_exact.mp (readSource_dash tree text)))

end

-- What the dash means, to the command that lints and to the one that parses, and what files mean.
structure Path.DashIsInput (config : Config) (tree : FileTree) (text : Text) : Prop where
  report : reportOf config tree (FileTree.encode text) dash = .ok (.ofDash config text) ↔
    tree.isDirectory dash = false
  entries : (Report.ofDash config text).files =
    [⟨dash,(Spec.ofText config.vocabulary text).functions.length,lintText config text⟩]
  lint : tree.isDirectory dash = false → ∀ arguments configPath overrides format base,
    Request.ofArguments arguments = some (.lint dash configPath overrides format) →
      Config.Chosen tree configPath base → overrides.apply base = config →
        (runCommand arguments tree (FileTree.encode text)).Answers (.ofDash config text) format
  source : readSource tree (FileTree.encode text) dash = .ok text
  parse : ∀ arguments format, Request.ofArguments arguments = some (.parse dash format) →
    runCommand arguments tree (FileTree.encode text) =
      .printed tree 0 ((Spec.ofText .standard text).render format false)
  named : ∀ path, config.isSpecFile path = true → ∀ input, readSource tree input path = tree.readNamed path
  walk : ∀ path input, (lintDirectory config tree path).files =
    (specsBelow config path (tree.walk path)).map fun file =>
      .ofReading (joined path file.1) (lintFile config tree input (joined path file.1))

-- Unless a directory is called so, the dash is standard input for every command that reads a
-- document, and nothing but the dash is: the files of a directory are read as they are.
theorem dash_input (config : Config) (tree : FileTree) (text : Text) :
    Path.DashIsInput config tree text where
  report := reportOf_dash
  entries := Report.ofFiles_files _
  lint alone arguments configPath overrides format base accepted chosen limits := by
    have made : Report.Made config tree (FileTree.encode text) Path.dash (.ofDash config text) :=
      reportOf_exact.mp (reportOf_dash.mpr alone)
    rw [runCommand,accepted]
    exact run_answers (runLint_exact.mpr ⟨base,chosen,limits ▸ made⟩)
  source := readSource_dash tree text
  parse arguments format accepted := by
    simp only [runCommand,accepted,Request.run,readSource_dash]
  named _ accepted input := readSource_named accepted input
  walk path input := lintDirectory_read config tree input path

theorem dash_input_beside :
    let tree := FileTree.ofEntries [("-".toList,.file (FileTree.encode "FUNCTION: g()".toList)),
      ("specs".toList,.directory [("-".toList,.directory []), ("-.simplex".toList,.file .locked)])]
    let text := "FUNCTION: f(a) → int\nRULES: none".toList
    let arguments := ["lint".toList, "--max-inputs=0".toList, "-".toList]
    let config := { Config.standard with maxInputs := 0 }
    (runCommand arguments tree (FileTree.encode text)).Answers (.ofDash config text) .text ∧
      runCommand ["parse".toList, "-".toList] tree (FileTree.encode text) =
        .printed tree 0 ((Spec.ofText .standard text).render .text false) := by
  intro tree text arguments config
  have linted : Request.ofArguments arguments = some (.lint Path.dash none ⟨none,some 0,none,none⟩ .text) := by
    decide +kernel
  have parsed : Request.ofArguments ["parse".toList, "-".toList] = some (.parse Path.dash .text) := by
    decide +kernel
  have input := dash_input config tree text
  exact ⟨input.lint rfl _ _ _ _ _ linted .standard rfl,input.parse _ _ parsed⟩

-- A directory of that name is linted in place of standard input, here without any file.
theorem dash_directory :
    let tree := FileTree.ofEntries [("-".toList,.directory [])]
    let text := "prose only".toList
    let run := runCommand ["lint".toList, "-".toList] tree (FileTree.encode text)
    readSource tree (FileTree.encode text) Path.dash = .ok text ∧
      reportOf .standard tree (FileTree.encode text) Path.dash ≠ .ok (.ofDash .standard text) ∧
        run.output = (Report.ofFiles []).render .text false ++ ['\n'] ∧ run.exitCode = 0 ∧
          (lintText .standard text).valid = false := by
  intro tree text run
  have leads : tree.isDirectory Path.dash = true := rfl
  have other : reportOf .standard tree (FileTree.encode text) Path.dash ≠ .ok (.ofDash .standard text) := by
    rw [ne_eq,reportOf_dash,leads]
    decide
  have parsed : Request.ofArguments ["lint".toList, "-".toList] =
      some (.lint Path.dash none ⟨none,none,none,none⟩ .text) := by
    decide +kernel
  have report : runLint tree (FileTree.encode text) Path.dash none ⟨none,none,none,none⟩ = .ok (.ofFiles []) := by
    have walk : specsBelow .standard Path.dash (tree.walk Path.dash) = [] := List.mergeSort_nil
    have nothing : lintDirectory .standard tree Path.dash = .ofFiles [] := by
      rw [lintDirectory,lintWalk_specs,walk,List.map_nil]
    exact runLint_exact.mpr ⟨.standard,.standard,nothing ▸ .directory leads⟩
  have made : run = .printed tree 0 ((Report.ofFiles []).render .text false) := by
    simp only [run,runCommand,parsed,Request.run,report]
    rfl
  exact ⟨readSource_dash tree text,other,congrArg Outcome.output made,congrArg Outcome.exitCode made,
    by decide +kernel⟩

end SpecLint
