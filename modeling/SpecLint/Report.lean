import SpecLint.Lint
import SpecLint.WordSize

namespace SpecLint

structure FileReport where
  path : Text
  functions : Nat
  verdict : Verdict
deriving DecidableEq

structure Report where
  files : List FileReport
  filesChecked : Nat
  functionsChecked : Nat
  errors : Nat
  warnings : Nat
deriving DecidableEq

def FileReport.ofText (config : Config) (path text : Text) : FileReport :=
  let spec := Spec.ofText config.vocabulary text
  ⟨path,spec.functions.length,spec.lint config⟩

-- A document that could not be read is in error and has no functions.
def FileReport.unreadable (path reason : Text) : FileReport :=
  ⟨path,0,(Verdict.start.error (.unreadable reason) specLocation).judge⟩

namespace Report

def empty : Report := ⟨[],0,0,0,0⟩

-- The number of functions of a document may be any word, so their total is added as a word. The
-- other totals count what the report itself holds.
def push (report : Report) (file : FileReport) : Report :=
  { files := report.files ++ [file]
    filesChecked := report.filesChecked + 1
    functionsChecked := addWord report.functionsChecked file.functions
    errors := report.errors + file.verdict.errors.length
    warnings := report.warnings + file.verdict.warnings.length }

def ofFiles (files : List FileReport) : Report := files.foldl push empty

-- Warnings do not keep a run from passing.
def passed (report : Report) : Bool := report.errors = 0

end Report
end SpecLint
