import SpecLint.Files.Path

namespace SpecLint
open Text

inductive FileError where
  | missing
  | denied
  | isDirectory
  | notDirectory
  | notText
deriving DecidableEq

def FileError.reason : FileError → Text
  | missing => "No such file or directory (os error 2)".toList
  | denied => "Permission denied (os error 13)".toList
  | isDirectory => "Is a directory (os error 21)".toList
  | notDirectory => "Not a directory (os error 20)".toList
  | notText => "stream did not contain valid UTF-8".toList

-- What a file holds. One that is locked is there and cannot be opened.
inductive Content where
  | bytes (bytes : ByteArray)
  | locked

namespace Content

instance : Coe ByteArray Content := ⟨bytes⟩

def decode (content : ByteArray) : Except FileError Text :=
  match String.fromUTF8? content with
  | some text => .ok text.toList
  | none => .error .notText

def read : Content → Except FileError Text
  | bytes content => decode content
  | locked => .error .denied

def size : Content → Nat
  | bytes content => content.size
  | locked => 0

end Content

inductive Entry where
  | file (content : Content)
  | directory (entries : List (Text × Entry))

namespace Entry

def putChild (name : Text) (child : Entry) : List (Text × Entry) → List (Text × Entry)
  | [] => [(name,child)]
  | head :: rest =>
    if head.1 = name then (name,child) :: rest else head :: putChild name child rest

def put (leaf : Entry) : (names : List Text) → Entry → Entry
  | [], _ => leaf
  | name :: names, directory entries =>
    let below := (entries.lookup name).getD (.directory [])
    .directory (putChild name (put leaf names below) entries)
  | name :: names, file _ => .directory [(name,put leaf names (.directory []))]

def isDirectory : Entry → Bool
  | file _ => false
  | directory _ => true

-- Why no file can be written where this stands.
def obstacle? : Entry → Option FileError
  | file (.bytes _) => none
  | file .locked => some .denied
  | directory _ => some .isDirectory

mutual

def files : Entry → List (List Text × Content)
  | file content => [([],content)]
  | directory entries => filesOfAll entries
termination_by structural entry => entry

def filesOfAll : List (Text × Entry) → List (List Text × Content)
  | [] => []
  | head :: rest => filesUnder head ++ filesOfAll rest
termination_by structural entries => entries

def filesUnder : Text × Entry → List (List Text × Content)
  | (name,entry) => (files entry).map fun found => (name :: found.1,found.2)
termination_by structural entry => entry

end

-- In one directory every entry has a name, and none is given twice.
inductive Proper : Entry → Prop where
  | file (content : Content) : Proper (.file content)
  | directory {entries : List (Text × Entry)} (distinct : (entries.map (·.1)).Nodup)
      (named : ∀ child ∈ entries, Path.Named child.1) (proper : ∀ child ∈ entries, Proper child.2) :
      Proper (.directory entries)

mutual

def isProper : Entry → Bool
  | file _ => true
  | directory entries => decide (entries.map (·.1)).Nodup && areProper entries
termination_by structural entry => entry

def areProper : List (Text × Entry) → Bool
  | [] => true
  | head :: rest => isProperChild head && areProper rest
termination_by structural entries => entries

def isProperChild : Text × Entry → Bool
  | (name,entry) => decide (Path.Named name) && isProper entry
termination_by structural child => child

end

mutual

theorem proper_of_is : (entry : Entry) → entry.isProper = true → entry.Proper
  | file content, _ => .file content
  | directory entries, all =>
    have both := Bool.and_eq_true_iff.mp all
    have each := proper_of_are entries both.2
    .directory (of_decide_eq_true both.1) (fun child member => (each child member).1)
      fun child member => (each child member).2
termination_by structural entry => entry

theorem proper_of_are : (entries : List (Text × Entry)) → areProper entries = true →
    ∀ child ∈ entries, Path.Named child.1 ∧ child.2.Proper
  | [], _ => fun _ member => absurd member List.not_mem_nil
  | head :: rest, all =>
    have both := Bool.and_eq_true_iff.mp all
    List.forall_mem_cons.mpr ⟨proper_of_child head both.1,proper_of_are rest both.2⟩
termination_by structural entries => entries

theorem proper_of_child : (child : Text × Entry) → isProperChild child = true →
    Path.Named child.1 ∧ child.2.Proper
  | (_,entry), all =>
    have both := Bool.and_eq_true_iff.mp all
    ⟨of_decide_eq_true both.1,proper_of_is entry both.2⟩
termination_by structural child => child

end

theorem Proper.nothing : Proper (.directory []) := .directory .nil (by simp) (by simp)

theorem lookup_member {entries : List (Text × Entry)} {name : Text} {child : Entry}
    (found : entries.lookup name = some child) : (name,child) ∈ entries := by
  obtain ⟨before,after,rfl,_⟩ := List.lookup_eq_some_iff.mp found
  exact List.mem_append_right _ List.mem_cons_self

theorem mem_putChild {name : Text} {entry : Entry} {entries : List (Text × Entry)} {child : Text × Entry}
    (member : child ∈ putChild name entry entries) : child = (name,entry) ∨ child ∈ entries := by
  induction entries with
  | nil => exact .inl (List.mem_singleton.mp member)
  | cons head rest ih =>
    rw [putChild] at member
    split at member
    · rcases List.mem_cons.mp member with rfl | below
      · exact .inl rfl
      · exact .inr (List.mem_cons_of_mem _ below)
    · rcases List.mem_cons.mp member with rfl | below
      · exact .inr List.mem_cons_self
      · exact (ih below).imp_right (List.mem_cons_of_mem _)

theorem putChild_distinct {name : Text} {entry : Entry} {entries : List (Text × Entry)}
    (distinct : (entries.map (·.1)).Nodup) : ((putChild name entry entries).map (·.1)).Nodup := by
  induction entries with
  | nil => exact List.nodup_cons.mpr ⟨List.not_mem_nil,.nil⟩
  | cons head rest ih =>
    obtain ⟨fresh,tail⟩ := List.nodup_cons.mp distinct
    rw [putChild]
    split
    · rename_i same
      rw [List.map_cons,← same]
      exact distinct
    · rename_i different
      refine List.nodup_cons.mpr ⟨?_,ih tail⟩
      intro again
      obtain ⟨child,member,same⟩ := List.mem_map.mp again
      rcases mem_putChild member with rfl | below
      · exact different same.symm
      · exact fresh (List.mem_map.mpr ⟨child,below,same⟩)

theorem putChild_proper {name : Text} {entry : Entry} {entries : List (Text × Entry)}
    (proper : Proper (.directory entries)) (named : Path.Named name) (child : entry.Proper) :
    Proper (.directory (putChild name entry entries)) := by
  cases proper with
  | directory distinct allNamed allProper =>
    refine .directory (putChild_distinct distinct) ?_ ?_
    · intro other member
      rcases mem_putChild member with rfl | below
      · exact named
      · exact allNamed other below
    · intro other member
      rcases mem_putChild member with rfl | below
      · exact child
      · exact allProper other below

theorem put_proper {leaf : Entry} (leafProper : leaf.Proper) {names : List Text}
    (named : ∀ name ∈ names, Path.Named name) {root : Entry} (proper : root.Proper) :
    (put leaf names root).Proper := by
  induction names generalizing root with
  | nil => exact leafProper
  | cons name names ih =>
    obtain ⟨first,rest⟩ := List.forall_mem_cons.mp named
    cases proper with
    | file content => exact putChild_proper .nothing first (ih rest .nothing)
    | @directory entries distinct allNamed allProper =>
      refine putChild_proper (.directory distinct allNamed allProper) first (ih rest ?_)
      cases found : entries.lookup name with
      | none => exact .nothing
      | some child => exact allProper _ (lookup_member found)

end Entry
end SpecLint
