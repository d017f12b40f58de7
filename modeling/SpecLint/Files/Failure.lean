import SpecLint.Files.Tree

namespace SpecLint

inductive Failure where
  | io (error : FileError)
  | unreadable (path : Text) (error : FileError)
  | invalidConfig (path : Text)
  | unwritableConfig
deriving DecidableEq

def Failure.message : Failure → Text
  | io error => "IO error: ".toList ++ error.reason
  | unreadable path error => "Failed to read file ".toList ++ path ++ ": ".toList ++ error.reason
  | invalidConfig path => "Invalid config ".toList ++ path
  | unwritableConfig => "Failed to serialize config".toList

def FileTree.readNamed (tree : FileTree) (path : Text) : Except Failure Text :=
  (tree.read path).mapError (.unreadable path)

end SpecLint
