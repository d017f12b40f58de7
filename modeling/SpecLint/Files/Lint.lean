import SpecLint.Files.Failure
import SpecLint.Report

namespace SpecLint
open Text

def readSource (tree : FileTree) (input : ByteArray) (path : Text) : Except Failure Text :=
  if Path.isStandardInput path then (Content.decode input).mapError .io
  else tree.readNamed path

def lintFile (config : Config) (tree : FileTree) (input : ByteArray) (path : Text) :
    Except Failure FileReport :=
  (readSource tree input path).map (FileReport.ofText config path)

-- A file found in a directory. One that cannot be read is reported and does not stop the run.
def FileReport.ofContent (config : Config) (path : Text) (content : Content) : FileReport :=
  match content.read with
  | .ok text => .ofText config path text
  | .error error => .unreadable path (Failure.unreadable path error).message

-- What a walk meets: the names that lead to a file, and its content.
abbrev Found := List Text × Content

-- A path that names no directory has nothing below it, unless it names a file: then that one.
def FileTree.walk (tree : FileTree) (path : Text) : List Found :=
  match tree.place path with
  | .error _ => []
  | .ok place => place.entry.files

-- Files are compared name by name.
def Found.notAfter (first second : Found) : Bool := !decide (second.1 < first.1)

-- Every file is linted by itself, and the order of the walk does not matter.
def lintWalk (config : Config) (path : Text) (walk : List Found) : Report :=
  let specs := walk.filter fun file => config.isSpecFile (Path.joined path file.1)
  .ofFiles ((specs.mergeSort Found.notAfter).map fun file =>
    .ofContent config (Path.joined path file.1) file.2)

def lintDirectory (config : Config) (tree : FileTree) (path : Text) : Report :=
  lintWalk config path (tree.walk path)

end SpecLint
