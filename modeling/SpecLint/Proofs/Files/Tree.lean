import SpecLint.Files.Settings

namespace SpecLint

-- What stands at the end of some names.
def Entry.find? : List Text → Entry → Option Entry
  | [], entry => some entry
  | name :: names, directory entries => (entries.lookup name).bind (find? names)
  | _ :: _, file _ => none

theorem Entry.find?_append (names more : List Text) (entry : Entry) :
    entry.find? (names ++ more) = (entry.find? names).bind (find? more) := by
  induction names generalizing entry with
  | nil => rfl
  | cons name names ih =>
    cases entry with
    | file => rfl
    | directory entries =>
      rw [List.cons_append,find?,find?]
      cases entries.lookup name with
      | none => rfl
      | some child => exact ih child

theorem Entry.isDirectory_iff {entry : Entry} : entry.isDirectory = true ↔ ∃ entries, entry = .directory entries := by
  cases entry <;> simp [isDirectory]

namespace Place

def parent : Place → Place
  | ⟨entry,[]⟩ => ⟨entry,[]⟩
  | ⟨_,(_,entry) :: above⟩ => ⟨entry,above⟩

-- The places below a root, with the directories on the way to them.
inductive Within (root : Entry) : Place → Prop where
  | root : Within root ⟨root,[]⟩
  | child {entries upper : List (Text × Entry)} {name : Text} {child : Entry}
      (within : Within root ⟨.directory entries,upper⟩) (isName : Path.IsName name)
      (found : entries.lookup name = some child) : Within root ⟨child,(name,.directory entries) :: upper⟩

-- All that one part of a path may do.
inductive Step (part : Text) : Place → Place → Prop where
  | idle {entries upper : List (Text × Entry)} (idle : Path.isIdle part = true) :
      Step part ⟨.directory entries,upper⟩ ⟨.directory entries,upper⟩
  | parent {entries upper : List (Text × Entry)} (busy : Path.isIdle part = false)
      (double : Path.isParent part = true) :
      Step part ⟨.directory entries,upper⟩ (parent ⟨.directory entries,upper⟩)
  | child {entries upper : List (Text × Entry)} {child : Entry} (isName : Path.IsName part)
      (found : entries.lookup part = some child) :
      Step part ⟨.directory entries,upper⟩ ⟨child,(part,.directory entries) :: upper⟩

theorem names_child (child entry : Entry) (name : Text) (upper : List (Text × Entry)) :
    names ⟨child,(name,entry) :: upper⟩ = names ⟨entry,upper⟩ ++ [name] := by
  simp [names]

theorem names_parent (place : Place) : place.parent.names = place.names.dropLast := by
  obtain ⟨entry,upper⟩ := place
  cases upper with
  | nil => rfl
  | cons head upper =>
    obtain ⟨name,entry⟩ := head
    rw [names_child,List.dropLast_concat]
    rfl

theorem Within.parent {root : Entry} {place : Place} (within : Within root place) :
    Within root place.parent := by
  cases within with
  | root => exact .root
  | child upper => exact upper

theorem Within.find? {root : Entry} {place : Place} (within : Within root place) :
    root.find? place.names = some place.entry := by
  induction within with
  | root => rfl
  | child upper name found ih =>
    rw [names_child,Entry.find?_append,ih]
    simp [Entry.find?,found]

theorem step_exact {part : Text} {place next : Place} : follow [part] place = .ok next ↔ Step part place next := by
  constructor
  · intro followed
    obtain ⟨entry,upper⟩ := place
    cases entry with
    | file => cases followed
    | directory entries =>
      rw [follow.eq_def] at followed
      dsimp only at followed
      split at followed
      · rename_i idle
        cases followed
        exact .idle idle
      · rename_i busy
        split at followed
        · rename_i double
          have same : next = Place.parent ⟨.directory entries,upper⟩ := by
            cases upper <;> cases followed <;> rfl
          rw [same]
          exact .parent (by simpa using busy) double
        · rename_i single
          split at followed
          · cases followed
          · rename_i child found
            cases followed
            exact .child ⟨by simpa using busy,by simpa using single⟩ found
  · intro step
    cases step with
    | idle idle => simp [follow,idle]
    | parent busy double =>
      rename_i entries upper
      cases upper <;> simp [follow,busy,double,parent]
    | child name found => simp [follow,name.1,name.2,found]

-- The parts of a path are followed one after the other.
theorem follow_cons (part : Text) (parts : List Text) (place : Place) :
    follow (part :: parts) place = (follow [part] place).bind (follow parts) := by
  obtain ⟨entry,upper⟩ := place
  cases entry with
  | file => rfl
  | directory entries =>
    rw [follow.eq_def,follow.eq_def]
    dsimp only
    split
    · rfl
    · split
      · cases upper <;> rfl
      · cases entries.lookup part <;> rfl

theorem follow_append (first rest : List Text) (place : Place) :
    follow (first ++ rest) place = (follow first place).bind (follow rest) := by
  induction first generalizing place with
  | nil => rfl
  | cons part first ih =>
    rw [List.cons_append,follow_cons,follow_cons part first]
    cases follow [part] place with
    | error => rfl
    | ok next => exact ih next

theorem follow_cons_ok {part : Text} {parts : List Text} {place last : Place} :
    follow (part :: parts) place = .ok last ↔ ∃ next, Step part place next ∧ follow parts next = .ok last := by
  rw [follow_cons]
  constructor
  · intro followed
    cases step : follow [part] place with
    | error => simp [step,Except.bind] at followed
    | ok next =>
      rw [step] at followed
      exact ⟨next,step_exact.mp step,followed⟩
  · rintro ⟨next,step,followed⟩
    rw [step_exact.mpr step]
    exact followed

theorem Step.directory {part : Text} {place next : Place} (step : Step part place next) :
    place.entry.isDirectory = true := by
  cases step <;> rfl

theorem Step.stays {part : Text} {place next : Place} (step : Step part place next)
    (idle : Path.isIdle part = true) : next = place := by
  cases step with
  | idle => rfl
  | parent busy => simp [idle] at busy
  | child isName => simp [Path.IsName,idle] at isName

theorem Step.within {root : Entry} {part : Text} {place next : Place} (step : Step part place next)
    (within : Within root place) : Within root next := by
  cases step with
  | idle => exact within
  | parent => exact within.parent
  | child name found => exact .child within name found

theorem follow_within {root : Entry} {parts : List Text} {place last : Place}
    (followed : follow parts place = .ok last) (within : Within root place) : Within root last := by
  induction parts generalizing place with
  | nil =>
    cases followed
    exact within
  | cons part parts ih =>
    obtain ⟨next,step,later⟩ := follow_cons_ok.mp followed
    exact ih later (step.within within)

-- What is found one name further on is reached in one step.
theorem Within.step_child {root child : Entry} {place : Place} {name : Text} (within : Within root place)
    (isName : Path.IsName name) (found : root.find? (place.names ++ [name]) = some child) :
    Step name place ⟨child,(name,place.entry) :: place.above⟩ := by
  rw [Entry.find?_append,within.find?] at found
  obtain ⟨entry,upper⟩ := place
  cases entry with
  | file => cases found
  | directory entries =>
    have inner : entries.lookup name = some child := by simpa [Entry.find?] using found
    exact .child isName inner

-- The names of a place lead back to it.
theorem Within.follow_names {root : Entry} {place : Place} (within : Within root place) :
    follow place.names ⟨root,[]⟩ = .ok place := by
  induction within with
  | root => rfl
  | child upper name found ih =>
    rw [names_child,follow_append,ih]
    exact step_exact.mpr (.child name found)

end Place

theorem FileTree.place_followed {tree : FileTree} {path : Text} (written : path ≠ []) :
    tree.place path = tree.root.follow (tree.route path) := by
  cases path with
  | nil => contradiction
  | cons => rfl

theorem Content.decode_encode (text : Text) : decode (FileTree.encode text) = .ok text := by
  have valid : (String.ofList text).toUTF8.IsValidUTF8 := (String.ofList text).isValidUTF8
  have read : String.fromUTF8? (FileTree.encode text) = some (String.ofList text) := dif_pos valid
  rw [decode,read]
  exact congrArg Except.ok String.toList_ofList

theorem encode_length (text : Text) : text.length ≤ text.utf8Encode.size := by
  induction text with
  | nil => exact Nat.zero_le _
  | cons c text ih =>
    have first : [c].utf8Encode.size = c.utf8Size := by simp [List.utf8Encode]
    have some := c.utf8Size_pos
    rw [List.utf8Encode_cons,ByteArray.size_append,first,List.length_cons]
    omega

-- Content reads as a text exactly when it is that text written out.
theorem Content.decode_exact {content : ByteArray} {text : Text} :
    decode content = .ok text ↔ content = FileTree.encode text := by
  constructor
  · intro read
    unfold decode at read
    split at read
    · rename_i written valid
      cases read
      have bytes : written.toByteArray = content := by
        unfold String.fromUTF8? at valid
        split at valid
        · cases valid
          rfl
        · cases valid
      rw [FileTree.encode,String.ofList_toList]
      exact bytes.symm
    · cases read
  · rintro rfl
    exact decode_encode text

theorem Content.read_exact {content : Content} {text : Text} :
    content.read = .ok text ↔ content = .bytes (FileTree.encode text) := by
  cases content with
  | bytes content =>
    rw [bytes.injEq]
    exact decode_exact
  | locked =>
    constructor
    · intro read
      cases read
    · intro same
      cases same

-- No text has more characters than its file has bytes.
theorem Content.read_length {content : Content} {text : Text} (read : content.read = .ok text) :
    text.length ≤ content.size := by
  rw [read_exact.mp read]
  change text.length ≤ (String.ofList text).toByteArray.size
  rw [← String.utf8Encode_toList,String.toList_ofList]
  exact encode_length text

theorem Config.load_text {tree : FileTree} {path text : Text} {config : Config}
    (read : tree.read path = .ok text) (fits : Config.ofToml? text = some config) :
    Config.load tree path = .ok config := by
  have named : tree.readNamed path = .ok text := by
    rw [FileTree.readNamed,read]
    rfl
  simp only [Config.load,named,bind,Except.bind,fits]

end SpecLint
