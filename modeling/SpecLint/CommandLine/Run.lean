import SpecLint.CommandLine.Help
import SpecLint.Files.Lint
import SpecLint.Files.Settings

namespace SpecLint
open Text

-- What a run leaves behind: its exit code, what it printed, why it failed, and the files.
structure Outcome where
  exitCode : Nat
  output : Text
  failure : Option Failure
  tree : FileTree

namespace Outcome

-- What is printed ends its line.
def printed (tree : FileTree) (exitCode : Nat) (text : Text) : Outcome :=
  ⟨exitCode,text ++ ['\n'],none,tree⟩

def failed (tree : FileTree) (failure : Failure) : Outcome := ⟨2,[],some failure,tree⟩

-- Arguments that make no request print nothing here.
def refused (tree : FileTree) : Outcome := ⟨2,[],none,tree⟩

end Outcome

def configFor (tree : FileTree) (configPath : Option Text) : Except Failure Config :=
  match configPath with
  | none => .ok .standard
  | some path => Config.load tree path

-- A directory is linted whole, whatever it is called; anything else is one document.
def reportOf (config : Config) (tree : FileTree) (input : ByteArray) (path : Text) :
    Except Failure Report :=
  if tree.isDirectory path then .ok (lintDirectory config tree path)
  else (lintFile config tree input path).map fun file => .ofFiles [file]

def runLint (tree : FileTree) (input : ByteArray) (path : Text) (configPath : Option Text)
    (overrides : Overrides) : Except Failure Report := do
  let config ← configFor tree configPath
  reportOf (overrides.apply config) tree input path

-- Output goes to no terminal and has no colour.
def Request.run (request : Request) (tree : FileTree) (input : ByteArray) : Outcome :=
  match request with
  | lint path configPath overrides format =>
    match runLint tree input path configPath overrides with
    | .ok report => .printed tree (if report.passed then 0 else 1) (report.render format false)
    | .error failure => .failed tree failure
  | parse path format =>
    match readSource tree input path with
    | .ok text => .printed tree 0 ((Spec.ofText .standard text).render format false)
    | .error failure => .failed tree failure
  | init output =>
    match Config.standard.save tree output with
    | (tree,.ok ()) => .printed tree 0 ("Wrote default configuration to ".toList ++ output)
    | (tree,.error failure) => .failed tree failure
  | help topic => .printed tree 0 topic.page.render
  | version => .printed tree 0 "simplex-lint 0.1.0".toList

def runCommand (arguments : List Text) (tree : FileTree) (input : ByteArray) : Outcome :=
  match Request.ofArguments arguments with
  | some request => request.run tree input
  | none => .refused tree

end SpecLint
