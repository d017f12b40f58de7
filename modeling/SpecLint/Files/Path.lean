import SpecLint.Config

namespace SpecLint
open Text

namespace Path

-- A path is written with slashes between its parts. Empty parts and single dots lead nowhere.
def parts (path : Text) : List Text := split '/' path

def isIdle (part : Text) : Bool := part.isEmpty || part == ['.']

def isParent (part : Text) : Bool := part == ['.', '.']

-- Idle parts and double dots are never looked up.
def IsName (part : Text) : Prop := isIdle part = false ∧ isParent part = false

instance (part : Text) : Decidable (IsName part) := inferInstanceAs (Decidable (_ ∧ _))

-- A name of a file or a directory: not empty, without slashes, and neither a dot nor two.
def Named (name : Text) : Prop := IsName name ∧ '/' ∉ name

instance (name : Text) : Decidable (Named name) := inferInstanceAs (Decidable (_ ∧ _))

-- A path from the root, wherever relative paths begin.
def isAbsolute (path : Text) : Bool := path.head? == some '/'

-- A name found in a directory, under the path that the directory was named by.
def child (directory name : Text) : Text :=
  if directory.getLast? = some '/' then directory ++ name else directory ++ '/' :: name

def joined (path : Text) (names : List Text) : Text := names.foldl child path

-- What a path names, when its last part that leads somewhere is a name.
def fileName? (path : Text) : Option Text :=
  ((parts path).filter (!isIdle ·)).getLast?.filter (!isParent ·)

-- What follows the last dot of a name. A name that only begins with a dot has no extension.
def extensionOf? (name : Text) : Option Text :=
  let reversed := name.reverse
  match reversed.dropWhile (· != '.') with
  | [] => none
  | _ :: stem => if stem.isEmpty then none else some (reversed.takeWhile (· != '.')).reverse

def extension? (path : Text) : Option Text := (fileName? path).bind extensionOf?

-- The single dash stands for standard input, also with idle parts behind it.
def isStandardInput (path : Text) : Bool :=
  match parts path with
  | [] => false
  | first :: rest => first == ['-'] && rest.all isIdle

end Path

def Config.isSpecFile (config : Config) (path : Text) : Bool :=
  (Path.extension? path).any config.extensions.contains

end SpecLint
