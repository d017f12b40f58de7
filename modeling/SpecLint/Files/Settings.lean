import SpecLint.Config.Toml
import SpecLint.Files.Failure

namespace SpecLint

def Config.load (tree : FileTree) (path : Text) : Except Failure Config := do
  match Config.ofToml? (← tree.readNamed path) with
  | some config => .ok config
  | none => .error (.invalidConfig path)

-- The files afterwards, and why there is a failure if there is one. The text is made before a file
-- is touched, so nothing is written when a limit is too large for the format.
def Config.save (config : Config) (tree : FileTree) (path : Text) : FileTree × Except Failure Unit :=
  if config.isWritable then
    match tree.write path config.toml with
    | .ok written => (written,.ok ())
    | .error error => (tree,.error (.io error))
  else (tree,.error .unwritableConfig)

end SpecLint
