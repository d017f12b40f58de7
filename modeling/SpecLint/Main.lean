import SpecLint.CommandLine.Run

namespace SpecLint
open Text

-- Paths are shorter than this on every system, so no directory lies deeper.
def levelLimit : Nat := 4096

-- A path that leads nowhere, or that may not be opened, is no error here: the run reports it.
def loadAt (tree : FileTree) (path : Text) (load : IO FileTree) : IO FileTree :=
  try load
  catch error =>
    match error with
    | .noFileOrDirectory .. | .inappropriateType .. => return tree
    | .permissionDenied .. => return tree.add path (.file .locked)
    | _ => throw error

-- What is only linked into a directory is left out of it.
def isOwn (child : IO.FS.DirEntry) : IO Bool := do
  match (← child.path.symlinkMetadata).type with
  | .dir | .file => return true
  | .symlink | .other => return false

-- A directory that may not be listed is like an empty one.
def namesIn (directory : String) : IO (List Text) :=
  try
    let place ← IO.FS.realPath directory
    let own ← (← place.readDir).toList.filterM isOwn
    return own.map (·.fileName.toList)
  catch error =>
    match error with
    | .permissionDenied .. => return []
    | _ => throw error

-- Reads a file, or a directory with all it holds.
def loadEntry : (levels : Nat) → FileTree → (path : Text) → IO FileTree
  | 0, tree, _ => return tree
  | levels + 1, tree, path => loadAt tree path do
    let place ← IO.FS.realPath (String.ofList path)
    if ← place.isDir then
      let mut loaded := tree.add path (.directory [])
      for name in ← namesIn (String.ofList path) do
        loaded ← loadEntry levels loaded (Path.child path name)
      return loaded
    else return tree.add path (.file (.bytes (← IO.FS.readBinFile place)))

-- Only the kind of what stands at a path, which is all that following or writing it needs. What has
-- been read already stays as it is.
def loadKind (tree : FileTree) (path : Text) : IO FileTree :=
  match tree.place path with
  | .ok _ => return tree
  | .error _ => loadAt tree path do
    let place ← IO.FS.realPath (String.ofList path)
    if ← place.isDir then return tree.add path (.directory [])
    else
      discard (IO.FS.Handle.mk place .readWrite)
      return tree.add path (.file (.bytes .empty))

-- The paths of the directories that a path passes through, from the first one on.
def leadingPaths (path : Text) : List Text :=
  let parts := Path.parts path
  let leading := (List.range (parts.length - 1)).map fun n => join ['/'] (parts.take (n + 1))
  leading.filter (!·.isEmpty)

def loadAlong (load : FileTree → Text → IO FileTree) (tree : FileTree) (path : Text) : IO FileTree := do
  load (← (leadingPaths path).foldlM loadKind tree) path

-- At first a tree holds only the directory that relative paths begin in.
def loadStart : IO FileTree := do
  let parts := Path.parts (← IO.currentDir).toString.toList
  let tree := { FileTree.empty with start := parts.filter (!Path.isIdle ·) }
  return tree.add ['.'] (.directory [])

def loadTree (request : Request) : IO FileTree := do
  let tree ← loadStart
  match request with
  | .lint path configPath .. =>
    let configured ← match configPath with
      | some configPath => loadAlong (loadEntry levelLimit) tree configPath
      | none => pure tree
    loadAlong (loadEntry levelLimit) configured path
  | .parse path _ => loadAlong (loadEntry levelLimit) tree path
  | .init output => loadAlong loadKind tree output
  | .help _ | .version => return tree

def loadInput (tree : FileTree) : Request → IO ByteArray
  | .lint path .. => if tree.isDirectory path then return ByteArray.empty else readInput path
  | .parse path _ => readInput path
  | _ => return ByteArray.empty
where
  readInput (path : Text) : IO ByteArray :=
    if Path.isStandardInput path then IO.FS.readBinFile "/dev/stdin" else return ByteArray.empty

def saveOutput (tree : FileTree) : Request → IO Unit
  | .init output =>
    match tree.read output with
    | .ok text => IO.FS.writeFile (String.ofList output) (String.ofList text)
    | .error _ => return
  | _ => return

def perform (request : Request) : IO UInt32 := do
  let tree ← loadTree request
  let outcome := request.run tree (← loadInput tree request)
  if let some failure := outcome.failure then
    IO.eprintln ("Error: " ++ String.ofList failure.message)
  if outcome.exitCode = 0 then saveOutput outcome.tree request
  IO.print (String.ofList outcome.output)
  return outcome.exitCode.toUInt32

end SpecLint

open SpecLint in
def main (arguments : List String) : IO UInt32 := do
  match Request.ofArguments (arguments.map String.toList) with
  | some request => perform request
  | none =>
    IO.eprintln (String.ofList Topic.program.page.render)
    return 2
