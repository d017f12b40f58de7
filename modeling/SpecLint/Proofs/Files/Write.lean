import SpecLint.Proofs.Files.Walk
import SpecLint.Proofs.Text.Split

namespace SpecLint

namespace Entry

-- Where one root has an entry the other has one too, and no directory becomes a file.
def Keeps (before after : Entry) : Prop :=
  ∀ names entry, before.find? names = some entry →
    ∃ kept, after.find? names = some kept ∧ (entry.isDirectory = true → kept.isDirectory = true)

theorem lookup_putChild (name other : Text) (child : Entry) (entries : List (Text × Entry)) :
    (putChild name child entries).lookup other = if other = name then some child else entries.lookup other := by
  induction entries with
  | nil => simp only [putChild,lookup_entry,List.lookup_nil]
  | cons head rest ih =>
    rw [putChild]
    split
    · rename_i same
      by_cases here : other = name
      · simp [here]
      · simp [lookup_entry,here,same]
    · rename_i different
      rw [lookup_entry,lookup_entry,ih]
      by_cases first : other = head.1
      · simp [first,different]
      · simp [first]

theorem find?_put (leaf : Entry) (names : List Text) (root : Entry) :
    (put leaf names root).find? names = some leaf := by
  induction names generalizing root with
  | nil => rfl
  | cons name names ih =>
    cases root with
    | file => simp [put,find?,ih]
    | directory entries => simp [put,find?,lookup_putChild,ih]

-- A leaf may stand in the place of a file, but not of a directory.
theorem put_keeps (leaf : Entry) {names : List Text} {root : Entry}
    (room : ∀ entry, root.find? names = some entry → entry.isDirectory = false) : root.Keeps (put leaf names root) := by
  induction names generalizing root with
  | nil =>
    intro others entry found
    cases root with
    | directory entries => cases room _ rfl
    | file content =>
      cases others with
      | nil =>
        cases found
        exact ⟨leaf,rfl,by simp [isDirectory]⟩
      | cons other others => cases found
  | cons name names ih =>
    intro others entry found
    cases others with
    | nil =>
      cases found
      cases root <;> exact ⟨_,rfl,fun _ => rfl⟩
    | cons other others =>
      cases root with
      | file content => cases found
      | directory entries =>
        obtain ⟨child,inside,deeper⟩ := Option.bind_eq_some_iff.mp found
        by_cases same : other = name
        · subst same
          have below : child.Keeps (put leaf names child) := by
            refine ih fun entry there => room entry ?_
            simp [find?,inside,there]
          obtain ⟨kept,there,both⟩ := below others entry deeper
          exact ⟨kept,by simp [put,find?,lookup_putChild,inside,there],both⟩
        · exact ⟨entry,by simp [put,find?,lookup_putChild,same,inside,deeper],id⟩

end Entry

namespace Place
variable {before after : Entry} {place moved : Place}

-- Two places with the same names, each below its own root.
structure Beside (before after : Entry) (place moved : Place) : Prop where
  within : Within before place
  other : Within after moved
  same : moved.names = place.names

theorem Step.beside {part : Text} {next : Place} (keeps : before.Keeps after)
    (beside : Beside before after place moved) (step : Step part place next) :
    ∃ last, Step part moved last ∧ Beside before after next last := by
  obtain ⟨within,other,same⟩ := beside
  obtain ⟨entries,inside⟩ : ∃ entries, moved.entry = .directory entries := by
    obtain ⟨kept,there,both⟩ := keeps _ _ within.find?
    rw [← same,other.find?] at there
    cases there
    exact Entry.isDirectory_iff.mp (both step.directory)
  cases step with
  | idle idle =>
    obtain ⟨entry,upper⟩ := moved
    cases inside
    exact ⟨_,.idle idle,within,other,same⟩
  | parent busy double =>
    obtain ⟨entry,upper⟩ := moved
    cases inside
    refine ⟨_,.parent busy double,within.parent,other.parent,?_⟩
    rw [names_parent,names_parent,same]
  | child isName found =>
    obtain ⟨kept,there,_⟩ := keeps _ _ (Within.child within isName found).find?
    rw [names_child,← same] at there
    have further := other.step_child isName there
    refine ⟨_,further,.child within isName found,further.within other,?_⟩
    rw [names_child,names_child,← same]

-- What is kept can still be reached the same way.
theorem follow_beside {parts : List Text} {last : Place} (keeps : before.Keeps after)
    (beside : Beside before after place moved) (followed : follow parts place = .ok last) :
    ∃ next, follow parts moved = .ok next ∧ Beside before after last next := by
  induction parts generalizing place moved with
  | nil =>
    cases followed
    exact ⟨moved,rfl,beside⟩
  | cons part parts ih =>
    obtain ⟨first,step,later⟩ := follow_cons_ok.mp followed
    obtain ⟨second,otherStep,both⟩ := step.beside keeps beside
    obtain ⟨next,rest,result⟩ := ih both later
    exact ⟨next,follow_cons_ok.mpr ⟨second,otherStep,rest⟩,result⟩

end Place

namespace FileTree

theorem putNames_root (tree : FileTree) {names : List Text} (some : names ≠ [])
    (named : ∀ name ∈ names, Path.Named name) {leaf : Entry} (proper : leaf.Proper) :
    (tree.putNames names leaf proper).root.entry = Entry.put leaf names tree.root.entry := by
  cases names with
  | nil => contradiction
  | cons name names =>
    rw [putNames,dif_pos named]
    rfl

theorem putNames_route (tree : FileTree) (names : List Text) {leaf : Entry} (proper : leaf.Proper) :
    (tree.putNames names leaf proper).route = tree.route := by
  unfold putNames
  split
  · rfl
  · split <;> rfl

theorem route_last {tree : FileTree} {path name : Text} {front : List Text}
    (route : tree.route path = front ++ [name]) : name ∈ Path.parts path := by
  have last : (tree.route path).getLast? = some name := route ▸ List.getLast?_concat
  have written : Path.parts path ≠ [] := Text.split_ne_nil '/' path
  unfold FileTree.route at last
  split at last
  · exact List.mem_of_getLast? last
  · rw [List.getLast?_append,List.getLast?_eq_some_getLast written,Option.some_or] at last
    rw [← List.getLast?_eq_some_getLast written] at last
    exact List.mem_of_getLast? last

theorem named_path {tree : FileTree} {path name : Text} {front : List Text}
    (route : tree.route path = front ++ [name]) (isName : Path.IsName name) : path ≠ [] := by
  rintro rfl
  cases List.mem_singleton.mp (route_last route)
  cases isName.1

-- Where a file is put: the names lead to its directory.
structure Target (tree : FileTree) (path : Text) (place : Place) (name : Text) : Prop where
  isName : Path.IsName name
  directory : place.entry.isDirectory = true
  reached : ∃ front, tree.route path = front ++ [name] ∧ tree.root.follow front = .ok place

theorem target_exact {tree : FileTree} {path name : Text} {names : List Text} :
    tree.target path = .ok (names,name) ↔ ∃ place, Target tree path place name ∧ names = place.names := by
  constructor
  · intro found
    unfold target at found
    split at found
    · cases found
    · dsimp only at found
      generalize cut : ((tree.route path).reverse.dropWhile (·.isEmpty)).reverse = named at found
      cases reached : tree.root.follow named.dropLast with
      | error => simp [reached,bind,Except.bind] at found
      | ok place =>
        simp only [reached,bind,Except.bind] at found
        split at found
        · cases found
        · rename_i directory
          split at found
          · cases found
          · rename_i last ends
            split at found
            · cases found
            · rename_i plain
              cases found
              obtain ⟨⟨whole,busy⟩,single⟩ : (named = tree.route path ∧ Path.isIdle name = false) ∧
                  Path.isParent name = false := by simpa using plain
              obtain ⟨front,route⟩ := List.getLast?_eq_some_iff.mp ends
              rw [route,List.dropLast_concat] at reached
              exact ⟨place,⟨⟨busy,single⟩,by simpa using directory,front,whole ▸ route,reached⟩,rfl⟩
  · rintro ⟨place,⟨isName,directory,front,route,reached⟩,rfl⟩
    have some : name.isEmpty = false := (Bool.or_eq_false_iff.mp isName.1).1
    simp [target,named_path route isName,route,some,reached,directory,isName.1,isName.2,bind,Except.bind]

-- A path can be written when its directory exists and nothing stands in the way where it leads.
def Writable (tree : FileTree) (path : Text) : Prop :=
  (∃ place name, Target tree path place name) ∧ tree.obstacle? path = none

namespace Target
variable {tree : FileTree} {path name : Text} {place : Place}

theorem within (target : Target tree path place name) : Place.Within tree.root.entry place := by
  obtain ⟨front,_,reached⟩ := target.reached
  exact Place.follow_within reached .root

theorem place_eq (target : Target tree path place name) :
    tree.place path = tree.root.follow (place.names ++ [name]) := by
  obtain ⟨front,route,reached⟩ := target.reached
  have back : Place.follow place.names tree.root = .ok place := target.within.follow_names
  rw [place_followed (named_path route target.isName),route,Place.follow_append,Place.follow_append,reached,back]

-- All names on the way to the file are names, as the tree has no others.
theorem named (target : Target tree path place name) : ∀ part ∈ place.names ++ [name], Path.Named part := by
  obtain ⟨front,route,_⟩ := target.reached
  intro part member
  rcases List.mem_append.mp member with above | last
  · exact (Entry.find?_proper tree.proper target.within.find?).2 part above
  · cases List.mem_singleton.mp last
    exact ⟨target.isName,Text.split_parts (route_last route)⟩

-- Where nothing stands in the way there is nothing at all, or a file.
theorem room (target : Target tree path place name) (free : tree.obstacle? path = none) (entry : Entry)
    (found : tree.root.entry.find? (place.names ++ [name]) = some entry) : entry.isDirectory = false := by
  have back : Place.follow place.names tree.root = .ok place := target.within.follow_names
  have further := Place.step_exact.mpr (target.within.step_child target.isName found)
  rw [obstacle?,target.place_eq,Place.follow_append,back] at free
  simp only [Except.bind,further] at free
  cases entry with
  | file => rfl
  | directory => cases free

end Target

theorem write_exact {tree written : FileTree} {path content : Text} :
    tree.write path content = .ok written ↔ tree.obstacle? path = none ∧ ∃ place name,
      Target tree path place name ∧
        written = tree.putNames (place.names ++ [name]) (.file (encode content)) (.file _) := by
  constructor
  · intro found
    cases cut : tree.target path with
    | error => simp [write,cut,bind,Except.bind] at found
    | ok pair =>
      obtain ⟨names,name⟩ := pair
      obtain ⟨place,target,rfl⟩ := target_exact.mp cut
      simp only [write,cut,bind,Except.bind] at found
      split at found
      · cases found
      · rename_i free
        cases found
        exact ⟨free,place,name,target,rfl⟩
  · rintro ⟨free,place,name,target,rfl⟩
    simp only [write,target_exact.mpr ⟨place,target,rfl⟩,free,bind,Except.bind]

theorem writable_exact {tree : FileTree} {path : Text} (content : Text) :
    tree.Writable path ↔ ∃ written, tree.write path content = .ok written := by
  constructor
  · rintro ⟨⟨place,name,target⟩,free⟩
    exact ⟨_,write_exact.mpr ⟨free,place,name,target,rfl⟩⟩
  · rintro ⟨written,write⟩
    obtain ⟨free,place,name,target,_⟩ := write_exact.mp write
    exact ⟨⟨place,name,target⟩,free⟩

-- What was written is read again under the same path, whatever other names the path goes through.
theorem write_read {tree written : FileTree} {path content : Text} (write : tree.write path content = .ok written) :
    written.read path = .ok content := by
  obtain ⟨free,place,name,target,made⟩ := write_exact.mp write
  obtain ⟨front,route,reached⟩ := target.reached
  have some : place.names ++ [name] ≠ [] := by simp
  have root : written.root.entry = Entry.put (.file (encode content)) (place.names ++ [name]) tree.root.entry :=
    made ▸ putNames_root tree some target.named (.file _)
  have keeps : tree.root.entry.Keeps written.root.entry := root ▸ Entry.put_keeps _ (target.room free)
  obtain ⟨next,again,_,within,same⟩ := Place.follow_beside keeps ⟨.root,.root,rfl⟩ reached
  have leaf : written.root.entry.find? (next.names ++ [name]) = .some (.file (encode content)) := by
    rw [root,same,Entry.find?_put]
  have further := Place.step_exact.mpr (within.step_child target.isName leaf)
  have whole : written.place path = .ok ⟨.file (encode content),(name,next.entry) :: next.above⟩ := by
    have onward : Place.follow front written.root = .ok next := again
    have sameRoute : written.route path = front ++ [name] := by
      rw [made,putNames_route,route]
    rw [place_followed (named_path route target.isName),sameRoute,Place.follow_append,onward]
    exact further
  simp only [read,whole]
  exact Content.decode_encode content

end FileTree
end SpecLint
