import SpecLint.Proofs.Files.Joined
import SpecLint.Proofs.Report

namespace SpecLint
open Text

theorem sorted_names {walk : List Found} (distinct : (walk.map (·.1)).Nodup) :
    (walk.mergeSort Found.notAfter).Pairwise (·.1 < ·.1) := by
  have ordered : (walk.mergeSort Found.notAfter).Pairwise (Found.notAfter · ·) := by
    refine List.pairwise_mergeSort ?_ ?_ walk
    · intro first second third one two
      simp only [Found.notAfter,Bool.not_eq_true',decide_eq_false_iff_not,List.not_lt] at one two ⊢
      exact List.le_trans one two
    · intro first second
      simp only [Found.notAfter,Bool.or_eq_true,Bool.not_eq_true',decide_eq_false_iff_not,List.not_lt]
      exact List.le_total _ _
  have apart : ((walk.mergeSort Found.notAfter).map (·.1)).Nodup :=
    ((List.mergeSort_perm walk Found.notAfter).map _).nodup_iff.mpr distinct
  refine (ordered.and (List.pairwise_map.mp apart)).imp ?_
  intro first second both
  rcases Std.lt_trichotomy first.1 second.1 with before | same | after
  · exact before
  · exact absurd same both.2
  · simp [Found.notAfter,after] at both

-- Only the names that a walk meets decide where a file stands in the report.
theorem sorted_perm {walk other : List Found} (distinct : (walk.map (·.1)).Nodup) (perm : other.Perm walk) :
    other.mergeSort Found.notAfter = walk.mergeSort Found.notAfter := by
  have otherDistinct : (other.map (·.1)).Nodup := (perm.map _).nodup_iff.mpr distinct
  refine List.Perm.eq_of_pairwise ?_ (sorted_names otherDistinct) (sorted_names distinct) ?_
  · intro first second _ _ before after
    exact absurd after (List.lt_asymm before)
  · exact (List.mergeSort_perm _ _).trans (perm.trans (List.mergeSort_perm _ _).symm)

def specsBelow (config : Config) (path : Text) (walk : List Found) : List Found :=
  (walk.filter fun file => config.isSpecFile (Path.joined path file.1)).mergeSort Found.notAfter

theorem lintWalk_specs (config : Config) (path : Text) (walk : List Found) :
    lintWalk config path walk = .ofFiles ((specsBelow config path walk).map fun file =>
      .ofContent config (Path.joined path file.1) file.2) :=
  rfl

theorem specs_distinct {config : Config} {path : Text} {walk : List Found} (distinct : (walk.map (·.1)).Nodup) :
    ((walk.filter fun file => config.isSpecFile (Path.joined path file.1)).map (·.1)).Nodup :=
  distinct.sublist (List.filter_sublist.map _)

theorem specsBelow_perm {config : Config} {path : Text} {walk other : List Found}
    (distinct : (walk.map (·.1)).Nodup) (perm : other.Perm walk) :
    specsBelow config path other = specsBelow config path walk :=
  sorted_perm (specs_distinct distinct) (perm.filter _)

namespace FileTree
variable {tree : FileTree} {path : Text} {names : List Text} {content : Content}

theorem place_proper {place : Place} (found : tree.place path = .ok place) :
    place.entry.Proper := by
  rw [place_followed (place_written found)] at found
  have within : Place.Within tree.root.entry place := Place.follow_within found .root
  exact (Entry.find?_proper tree.proper within.find?).1

theorem walk_distinct (tree : FileTree) (path : Text) : ((tree.walk path).map (·.1)).Nodup := by
  unfold walk
  split
  · exact .nil
  · rename_i place found
    exact Entry.files_distinct (place_proper found)

theorem mem_walk : (names,content) ∈ tree.walk path ↔ tree.Holds path names content := by
  unfold walk
  split
  · rename_i missing
    simp [Holds,missing]
  · rename_i place found
    rw [Entry.files_exact (place_proper found)]
    simp [Holds,found]

theorem Holds.walk (holds : tree.Holds path names content) : (names,content) ∈ tree.walk path := by
  obtain ⟨place,found,below⟩ := holds
  rw [FileTree.walk,found]
  exact Entry.files_found below

theorem Holds.named (holds : tree.Holds path names content) :
    ∀ name ∈ names, Path.Named name := by
  obtain ⟨place,found,below⟩ := holds
  exact (Entry.find?_proper (place_proper found) below).2

theorem Holds.read (holds : tree.Holds path names content) :
    tree.read (Path.joined path names) = content.read := by
  have named := holds.named
  obtain ⟨place,found,below⟩ := holds
  obtain ⟨last,reached,entry⟩ := place_joined named found below
  simp only [FileTree.read,reached,bind,Except.bind,entry]

theorem Holds.unique {other : Content} (holds : tree.Holds path names content)
    (again : tree.Holds path names other) : content = other := by
  obtain ⟨place,found,below⟩ := holds
  obtain ⟨second,foundAgain,belowAgain⟩ := again
  cases found.symm.trans foundAgain
  cases below.symm.trans belowAgain
  rfl

end FileTree

theorem Path.joined_names {path : Text} {first second : List Text} (named : ∀ name ∈ first, Named name)
    (others : ∀ name ∈ second, Named name) (same : joined path first = joined path second) : first = second := by
  have parts := congrArg components same
  rw [components_joined path named,components_joined path others] at parts
  exact List.append_cancel_left parts

-- No accepted path is standard input, so a file of a directory is always read from the directory.
theorem lintFile_found {config : Config} {tree : FileTree} {path : Text} {names : List Text} {content : Content}
    (holds : tree.Holds path names content)
    (accepted : config.isSpecFile (Path.joined path names) = true) (input : ByteArray) :
    lintFile config tree input (Path.joined path names) =
      (content.read.mapError (.unreadable (Path.joined path names))).map
        (FileReport.ofText config (Path.joined path names)) := by
  have file : ¬Path.isStandardInput (Path.joined path names) = true := by
    rw [Config.isSpecFile_named accepted]
    decide
  rw [lintFile,readSource,if_neg file,FileTree.readNamed,holds.read]

theorem ofContent_functions (config : Config) (path : Text) (content : Content) :
    (FileReport.ofContent config path content).functions ≤ content.size := by
  unfold FileReport.ofContent
  split
  · rename_i text read
    exact Nat.le_trans (functions_length _ text) (Content.read_length read)
  · exact Nat.zero_le _

theorem ofContent_path (config : Config) (path : Text) (content : Content) :
    (FileReport.ofContent config path content).path = path := by
  unfold FileReport.ofContent
  split <;> rfl

-- A report of the files below a path, each of them given by the names that lead to it and by its
-- content: one entry for each file that is accepted, which is the one of the file alone.
structure Report.Covers (config : Config) (tree : FileTree) (input : ByteArray) (path : Text)
    (specs : List Found) (report : Report) : Prop where
  complete : ∀ names content, (names,content) ∈ specs ↔
    tree.Holds path names content ∧ config.isSpecFile (Path.joined path names) = true
  files : report.files = specs.map fun file => .ofContent config (Path.joined path file.1) file.2
  sorted : report.files.Pairwise fun first second =>
    Path.components first.path < Path.components second.path
  readable : ∀ names content text, (names,content) ∈ specs → content.read = .ok text →
    lintFile config tree input (Path.joined path names) =
      .ok (.ofContent config (Path.joined path names) content)
  unreadable : ∀ names content error, (names,content) ∈ specs → content.read = .error error →
    FileReport.ofContent config (Path.joined path names) content =
      ⟨Path.joined path names,0,⟨false,[⟨"E000".toList,"Failed to read file: ".toList ++
        (Failure.unreadable (Path.joined path names) error).message,"spec".toList⟩],[]⟩⟩
  totalled : report.Totalled
  functions : (specs.map (·.2.size)).sum < wordLimit →
    report.functionsChecked = (report.files.map (·.functions)).sum

theorem lintDirectory_files (config : Config) (tree : FileTree) (path : Text) :
    (lintDirectory config tree path).files = (specsBelow config path (tree.walk path)).map fun file =>
      .ofContent config (Path.joined path file.1) file.2 := by
  rw [lintDirectory,lintWalk_specs,Report.ofFiles_files]

theorem lintDirectory_totalled (config : Config) (tree : FileTree) (path : Text) :
    (lintDirectory config tree path).Totalled :=
  Report.ofFiles_totalled _

theorem mem_specsBelow {config : Config} {tree : FileTree} {path : Text}
    {names : List Text} {content : Content} : (names,content) ∈ specsBelow config path (tree.walk path) ↔
      tree.Holds path names content ∧ config.isSpecFile (Path.joined path names) = true := by
  rw [specsBelow,List.mem_mergeSort,List.mem_filter,FileTree.mem_walk]

-- An accepted file below the path has its entry in the report, whatever else the tree holds.
theorem lintDirectory_found {config : Config} {tree : FileTree} {path : Text} {names : List Text}
    {content : Content} (holds : tree.Holds path names content)
    (accepted : config.isSpecFile (Path.joined path names) = true) :
    .ofContent config (Path.joined path names) content ∈ (lintDirectory config tree path).files := by
  have member : (names,content) ∈ specsBelow config path (tree.walk path) := by
    rw [specsBelow,List.mem_mergeSort,List.mem_filter]
    exact ⟨holds.walk,accepted⟩
  rw [lintDirectory_files]
  exact List.mem_map_of_mem member

theorem mem_lintDirectory {config : Config} {tree : FileTree} {path : Text}
    {entry : FileReport} : entry ∈ (lintDirectory config tree path).files ↔ ∃ names content,
      tree.Holds path names content ∧ config.isSpecFile (Path.joined path names) = true ∧
        entry = .ofContent config (Path.joined path names) content := by
  constructor
  · intro member
    rw [lintDirectory_files] at member
    obtain ⟨⟨names,content⟩,found,rfl⟩ := List.mem_map.mp member
    obtain ⟨holds,accepted⟩ := mem_specsBelow.mp found
    exact ⟨names,content,holds,accepted,rfl⟩
  · rintro ⟨names,content,holds,accepted,rfl⟩
    exact lintDirectory_found holds accepted

-- An entry says nothing of any other file.
theorem entry_isolated {config : Config} {tree other : FileTree} {path : Text} {names : List Text} {content : Content}
    (holds : tree.Holds path names content) (again : other.Holds path names content) {entry : FileReport}
    (same : entry.path = Path.joined path names) (member : entry ∈ (lintDirectory config tree path).files) :
    entry ∈ (lintDirectory config other path).files := by
  obtain ⟨others,found,below,accepted,rfl⟩ := mem_lintDirectory.mp member
  rw [ofContent_path] at same
  cases Path.joined_names below.named holds.named same
  cases below.unique holds
  exact mem_lintDirectory.mpr ⟨names,content,again,accepted,rfl⟩

theorem lintDirectory_sorted (config : Config) (tree : FileTree) (path : Text) :
    (lintDirectory config tree path).files.Pairwise fun first second =>
      Path.components first.path < Path.components second.path := by
  rw [lintDirectory_files,List.pairwise_map]
  refine (sorted_names (specs_distinct (tree.walk_distinct path))).imp_of_mem ?_
  intro first second here there before
  have firstNamed := (mem_specsBelow.mp here).1.named
  have secondNamed := (mem_specsBelow.mp there).1.named
  rw [ofContent_path,ofContent_path,Path.components_joined path firstNamed,
    Path.components_joined path secondNamed]
  exact List.append_left_lt before

theorem lintDirectory_functions {config : Config} {tree : FileTree} {path : Text}
    (room : ((specsBelow config path (tree.walk path)).map (·.2.size)).sum < wordLimit) :
    (lintDirectory config tree path).functionsChecked =
      ((lintDirectory config tree path).files.map (·.functions)).sum := by
  rw [(lintDirectory_totalled config tree path).functions]
  refine Nat.mod_eq_of_lt (Nat.lt_of_le_of_lt ?_ room)
  rw [lintDirectory_files,List.map_map]
  exact List.sum_le_sum fun file _ => ofContent_functions config _ _

theorem lintWalk_perm {config : Config} {path : Text} {walk other : List Found}
    (distinct : (walk.map (·.1)).Nodup) (perm : other.Perm walk) :
    lintWalk config path other = lintWalk config path walk := by
  rw [lintWalk_specs,lintWalk_specs,specsBelow_perm distinct perm]

theorem lintDirectory_walk {config : Config} {tree : FileTree} {path : Text}
    {walk : List Found} (once : walk.Nodup)
    (yields : ∀ names content, (names,content) ∈ walk ↔ tree.Holds path names content) :
    lintWalk config path walk = lintDirectory config tree path := by
  have distinct := tree.walk_distinct path
  have same : walk.Perm (tree.walk path) := by
    refine (List.perm_ext_iff_of_nodup once (List.Nodup.of_map _ distinct)).mpr ?_
    rintro ⟨names,content⟩
    rw [yields,FileTree.mem_walk]
  exact lintWalk_perm distinct same

theorem lintDirectory_covers (config : Config) (tree : FileTree) (input : ByteArray) (path : Text) :
    Report.Covers config tree input path (specsBelow config path (tree.walk path))
      (lintDirectory config tree path) where
  complete _ _ := mem_specsBelow
  files := lintDirectory_files config tree path
  sorted := lintDirectory_sorted config tree path
  readable names content text member read := by
    obtain ⟨holds,accepted⟩ := mem_specsBelow.mp member
    rw [lintFile_found holds accepted,FileReport.ofContent,read]
    rfl
  unreadable names content error _ failed := by
    rw [FileReport.ofContent,failed]
    rfl
  totalled := lintDirectory_totalled config tree path
  functions := lintDirectory_functions

-- The report of a directory covers the files below it, it is the same whatever order the walk has,
-- and an entry depends on its own file alone.
theorem lintDirectory_complete (config : Config) (tree : FileTree) (input : ByteArray) (path : Text) :
    (∃ specs, Report.Covers config tree input path specs (lintDirectory config tree path)) ∧
    (∀ walk : List Found, walk.Nodup →
      (∀ names content, (names,content) ∈ walk ↔ tree.Holds path names content) →
      lintWalk config path walk = lintDirectory config tree path) ∧
    ∀ (other : FileTree) (names : List Text) (content : Content), tree.Holds path names content →
      other.Holds path names content → ∀ entry : FileReport, entry.path = Path.joined path names →
        (entry ∈ (lintDirectory config tree path).files ↔ entry ∈ (lintDirectory config other path).files) := by
  refine ⟨⟨_,lintDirectory_covers config tree input path⟩,fun _ => lintDirectory_walk,?_⟩
  intro other names content holds again entry same
  exact ⟨entry_isolated holds again same,entry_isolated again holds same⟩

theorem lintDirectory_unreadable :
    let tree := FileTree.ofEntries
      [("notes.md".toList,.file (FileTree.encode "prose".toList)),
        ("b-x".toList,.directory [("a.simplex".toList,.file (FileTree.encode "FUNCTION: f()".toList))]),
        ("b".toList,.directory [("a.simplex".toList,.file (.bytes ⟨#[0xff]⟩)), ("b.simplex".toList,.file .locked)])]
    let report := lintDirectory .standard tree ".".toList
    tree.Holds ".".toList ["b".toList, "a.simplex".toList] (.bytes ⟨#[0xff]⟩) ∧
      tree.Holds ".".toList ["b".toList, "b.simplex".toList] .locked ∧
      ∃ specs, Report.Covers .standard tree .empty ".".toList specs report := by
  intro tree report
  exact ⟨⟨_,rfl,rfl⟩,⟨_,rfl,rfl⟩,(lintDirectory_complete .standard tree .empty ".".toList).1⟩

end SpecLint
