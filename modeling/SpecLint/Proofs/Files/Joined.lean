import SpecLint.Proofs.Files.Walk
import SpecLint.Proofs.Text.Split

namespace SpecLint
open Text

namespace Path

-- The parts of a path that lead somewhere.
def components (path : Text) : List Text := (parts path).filter (!isIdle ·)

-- A name goes behind the parts of its directory; an empty part at the end of them goes away.
theorem parts_child (path : Text) {name : Text} (named : Named name) :
    ∃ front, parts (child path name) = front ++ [name] ∧ (parts path = front ∨ parts path = front ++ [[]]) := by
  unfold child
  split
  · rename_i slash
    obtain ⟨before,rfl⟩ := List.getLast?_eq_some_iff.mp slash
    refine ⟨parts before,?_,.inr (split_append '/' before [])⟩
    rw [parts,List.append_assoc,List.singleton_append,split_append,split_plain named.2]
    rfl
  · refine ⟨parts path,?_,.inl rfl⟩
    rw [parts,split_append,split_plain named.2]
    rfl

theorem components_child (path : Text) {name : Text} (named : Named name) :
    components (child path name) = components path ++ [name] := by
  have busy : isIdle name = false := named.1.1
  have empty : isIdle [] = true := rfl
  obtain ⟨front,cut,same | same⟩ := parts_child path named
  · simp [components,cut,same,busy]
  · simp [components,cut,same,busy,empty]

theorem components_joined (path : Text) {names : List Text} (named : ∀ name ∈ names, Named name) :
    components (joined path names) = components path ++ names := by
  induction names generalizing path with
  | nil => exact (List.append_nil _).symm
  | cons name names ih =>
    obtain ⟨first,rest⟩ := List.forall_mem_cons.mp named
    change components (joined (child path name) names) = _
    rw [ih _ rest,components_child path first,List.append_assoc,List.singleton_append]

theorem components_standard {path : Text} (standard : isStandardInput path = true) : components path = [['-']] := by
  unfold isStandardInput at standard
  split at standard
  · cases standard
  · rename_i first rest cut
    obtain ⟨dash,idle⟩ := Bool.and_eq_true_iff.mp standard
    have nothing : rest.filter (!isIdle ·) = [] := by simpa using idle
    rw [components,cut,eq_of_beq dash,List.filter_cons_of_pos (by decide),nothing]

end Path

-- The single dash has no extension.
theorem Config.isSpecFile_named {config : Config} {path : Text} (accepted : config.isSpecFile path = true) :
    Path.isStandardInput path = false := by
  by_contra standard
  have alone := Path.components_standard (Bool.not_eq_false _ ▸ standard)
  have none : Path.extension? path = none := by
    change (((Path.components path).getLast?.filter (!Path.isParent ·)).bind Path.extensionOf?) = none
    rw [alone]
    rfl
  rw [isSpecFile,none] at accepted
  cases accepted

namespace FileTree

-- A file below a path: the names lead to it from where the path leads.
def Holds (tree : FileTree) (path : Text) (names : List Text) (content : Content) : Prop :=
  ∃ place, tree.place path = .ok place ∧ place.entry.find? names = some (.file content)

theorem place_written {tree : FileTree} {path : Text} {place : Place} (found : tree.place path = .ok place) :
    path ≠ [] := by
  rintro rfl
  cases found

theorem child_written {path : Text} (written : path ≠ []) (name : Text) :
    Path.child path name ≠ [] ∧ Path.isAbsolute (Path.child path name) = Path.isAbsolute path := by
  obtain ⟨c,rest,rfl⟩ := List.exists_cons_of_ne_nil written
  unfold Path.child Path.isAbsolute
  split <;> simp

theorem route_child (tree : FileTree) {path name : Text} (written : path ≠ []) (named : Path.Named name) :
    ∃ front, tree.route (Path.child path name) = front ++ [name] ∧
      (tree.route path = front ∨ tree.route path = front ++ [[]]) := by
  obtain ⟨front,cut,before⟩ := Path.parts_child path named
  unfold route
  rw [(child_written written name).2,cut]
  split
  · exact ⟨front,rfl,before⟩
  · refine ⟨tree.start ++ front,(List.append_assoc _ _ _).symm,?_⟩
    rw [List.append_assoc,List.append_right_inj,List.append_right_inj]
    exact before

theorem place_child {tree : FileTree} {path name : Text} {place next : Place} (named : Path.Named name)
    (found : tree.place path = .ok place) (step : Place.Step name place next) :
    tree.place (Path.child path name) = .ok next := by
  have written := place_written found
  rw [place_followed written] at found
  rw [place_followed (child_written written name).1]
  obtain ⟨front,cut,same | same⟩ := tree.route_child written named
  · rw [same] at found
    rw [cut,Place.follow_append,found]
    exact Place.step_exact.mpr step
  · rw [same,Place.follow_append] at found
    cases reached : tree.root.follow front with
    | error => simp [reached,Except.bind] at found
    | ok last =>
      rw [reached] at found
      have same : place = last := (Place.step_exact.mp found).stays rfl
      rw [cut,Place.follow_append,reached,← same]
      exact Place.step_exact.mpr step

theorem place_joined {tree : FileTree} {path : Text} {place : Place} {names : List Text} {entry : Entry}
    (named : ∀ name ∈ names, Path.Named name) (found : tree.place path = .ok place)
    (below : place.entry.find? names = some entry) :
    ∃ last, tree.place (Path.joined path names) = .ok last ∧ last.entry = entry := by
  induction names generalizing path place with
  | nil =>
    cases below
    exact ⟨place,found,rfl⟩
  | cons name names ih =>
    obtain ⟨first,rest⟩ := List.forall_mem_cons.mp named
    obtain ⟨inner,upper⟩ := place
    cases inner with
    | file => cases below
    | directory entries =>
      obtain ⟨child,inside,deeper⟩ := Option.bind_eq_some_iff.mp below
      exact ih rest (place_child first found (.child first.1 inside)) deeper

end FileTree
end SpecLint
