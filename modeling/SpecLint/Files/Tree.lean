import SpecLint.Files.Entry

namespace SpecLint
open Text

-- A place in a tree: an entry and the directories above it, nearest first, each with the name
-- that was taken from it.
structure Place where
  entry : Entry
  above : List (Text × Entry)

def Place.names (place : Place) : List Text := (place.above.map (·.1)).reverse

-- Follows the parts of a path. Even an idle part has to be followed from a directory, and above
-- the root there is only the root.
def Place.follow : (parts : List Text) → Place → Except FileError Place
  | [], place => .ok place
  | part :: parts, ⟨entry,above⟩ =>
    match entry with
    | .file _ => .error .notDirectory
    | .directory entries =>
      if Path.isIdle part then Place.follow parts ⟨entry,above⟩
      else if Path.isParent part then
        match above with
        | [] => Place.follow parts ⟨entry,[]⟩
        | (_,parent) :: above => Place.follow parts ⟨parent,above⟩
      else match entries.lookup part with
        | none => .error .missing
        | some child => Place.follow parts ⟨child,(part,entry) :: above⟩

-- Files and directories from the root on, and the names of the directory that relative paths begin
-- in.
structure FileTree where
  entries : List (Text × Entry)
  start : List Text
  proper : Entry.Proper (.directory entries)

namespace FileTree

def empty : FileTree := ⟨[],[],.nothing⟩

-- A tree written out in full, in which relative paths begin at the root.
def ofEntries (entries : List (Text × Entry)) (proper : (Entry.directory entries).isProper = true := by rfl) :
    FileTree := ⟨entries,[],Entry.proper_of_is _ proper⟩

def root (tree : FileTree) : Place := ⟨.directory tree.entries,[]⟩

-- The parts that lead from the root to where a path leads.
def route (tree : FileTree) (path : Text) : List Text :=
  if Path.isAbsolute path then Path.parts path else tree.start ++ Path.parts path

def place (tree : FileTree) (path : Text) : Except FileError Place :=
  if path.isEmpty then .error .missing else tree.root.follow (tree.route path)

def isDirectory (tree : FileTree) (path : Text) : Bool :=
  match tree.place path with
  | .ok place => place.entry.isDirectory
  | .error _ => false

def encode (text : Text) : ByteArray := (String.ofList text).toUTF8

def read (tree : FileTree) (path : Text) : Except FileError Text := do
  match (← tree.place path).entry with
  | .file content => content.read
  | .directory _ => .error .isDirectory

-- Puts an entry where some names lead to. What is no name leads nowhere.
def putNames (tree : FileTree) (names : List Text) (leaf : Entry) (proper : leaf.Proper) : FileTree :=
  match names with
  | [] => tree
  | name :: rest =>
    if named : ∀ part ∈ name :: rest, Path.Named part then
      let below := (tree.entries.lookup name).getD (.directory [])
      { tree with
        entries := Entry.putChild name (Entry.put leaf rest below) tree.entries
        proper := Entry.put_proper proper named tree.proper }
    else tree

-- Why no file can be written at a path, when something stands there.
def obstacle? (tree : FileTree) (path : Text) : Option FileError :=
  match tree.place path with
  | .ok place => place.entry.obstacle?
  | .error _ => none

-- The directory that a file to be written lies in, and the name it gets there. A path that ends
-- in a slash, or in a part that is no name, can only mean a directory.
def target (tree : FileTree) (path : Text) : Except FileError (List Text × Text) := do
  if path.isEmpty then .error .missing
  else
    let route := tree.route path
    let named := (route.reverse.dropWhile (·.isEmpty)).reverse
    let place ← tree.root.follow named.dropLast
    if !place.entry.isDirectory then .error .notDirectory
    else match named.getLast? with
      | none => .error .isDirectory
      | some name =>
        if named != route || Path.isIdle name || Path.isParent name then .error .isDirectory
        else .ok (place.names,name)

def write (tree : FileTree) (path content : Text) : Except FileError FileTree := do
  let (names,name) ← tree.target path
  match tree.obstacle? path with
  | some error => .error error
  | none => .ok (tree.putNames (names ++ [name]) (.file (encode content)) (.file _))

def withDirectory (tree : FileTree) (names : List Text) : FileTree :=
  match tree.root.follow names with
  | .ok _ => tree
  | .error _ => tree.putNames names (.directory []) .nothing

-- Puts an entry where a path leads, with every directory that the path passes through. The names
-- walked so far are held nearest first.
def addAlong (leaf : Entry) (proper : leaf.Proper) : (names parts : List Text) → FileTree → FileTree
  | names, [], tree =>
    match leaf, proper with
    | .directory [], _ => tree.withDirectory names.reverse
    | leaf, proper => tree.putNames names.reverse leaf proper
  | names, part :: parts, tree =>
    if Path.isIdle part then addAlong leaf proper names parts tree
    else if Path.isParent part then
      addAlong leaf proper (names.drop 1) parts (tree.withDirectory names.reverse)
    else addAlong leaf proper (part :: names) parts tree

def add (tree : FileTree) (path : Text) (leaf : Entry)
    (proper : leaf.Proper := by first | exact .file _ | exact .nothing) : FileTree :=
  addAlong leaf proper [] (tree.route path) tree

end FileTree
end SpecLint
