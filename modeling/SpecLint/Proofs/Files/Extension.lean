import SpecLint.Proofs.Files.Joined

namespace SpecLint
open Text

-- A part of a joined text has whole parts on both of its sides.
theorem Text.join_around (separator : Char) (above : List Text) (part : Text) (below : List Text) :
    join [separator] (above ++ part :: below) =
      above.flatMap (· ++ [separator]) ++ part ++ below.flatMap (separator :: ·) := by
  induction above generalizing part with
  | nil =>
    induction below generalizing part with
    | nil => simp [join]
    | cons next below ih =>
      have rest := ih next
      rw [List.nil_append,List.flatMap_nil,List.nil_append] at rest ⊢
      rw [join_cons _ _ _ (by simp),rest,List.flatMap_cons]
      simp
  | cons head above ih =>
    rw [List.cons_append,join_cons _ _ _ (by simp),ih,List.flatMap_cons]
    simp only [List.append_assoc]

namespace Path

-- What may stand behind the last name of a path: slashes, and dots between them.
inductive Trailing : Text → Prop where
  | none : Trailing []
  | slash {rest : Text} (trailing : Trailing rest) : Trailing ('/' :: rest)
  | dot {rest : Text} (trailing : Trailing rest) : Trailing ('/' :: '.' :: rest)

-- What may stand in front of a part: nothing, or all that ends in a slash.
def Leading (front : Text) : Prop := front = [] ∨ front.getLast? = some '/'

-- A path whose last part is a name, once nothing that is trailing is counted.
def EndsIn (path name : Text) : Prop :=
  ∃ front behind, path = front ++ name ++ behind ∧ Leading front ∧ Trailing behind

theorem leading_parts (above : List Text) : Leading (above.flatMap (· ++ ['/'])) := by
  rcases List.eq_nil_or_concat above with rfl | ⟨above,last,rfl⟩
  · exact .inl rfl
  · refine .inr ?_
    rw [List.concat_eq_append,List.flatMap_append,List.flatMap_singleton,← List.append_assoc]
    exact List.getLast?_concat

theorem trailing_idle {below : List Text} (idle : ∀ part ∈ below, isIdle part = true) :
    Trailing (below.flatMap ('/' :: ·)) := by
  induction below with
  | nil => exact .none
  | cons part below ih =>
    obtain ⟨first,rest⟩ := List.forall_mem_cons.mp idle
    rcases Bool.or_eq_true_iff.mp first with empty | dot
    · rw [List.isEmpty_iff.mp empty]
      exact .slash (ih rest)
    · rw [eq_of_beq dot]
      exact .dot (ih rest)

-- The parts of what is trailing lead nowhere.
theorem Trailing.parts {behind name : Text} (trailing : Trailing behind) (plain : '/' ∉ name) :
    ∃ below, Path.parts (name ++ behind) = name :: below ∧ ∀ part ∈ below, isIdle part = true := by
  induction trailing generalizing name with
  | none => exact ⟨[],by rw [List.append_nil,Path.parts,split_plain plain],by simp⟩
  | slash trailing ih =>
    obtain ⟨below,cut,idle⟩ := @ih [] (by simp)
    rw [List.nil_append,Path.parts] at cut
    exact ⟨[] :: below,by rw [Path.parts,split_line plain,cut],List.forall_mem_cons.mpr ⟨rfl,idle⟩⟩
  | dot trailing ih =>
    obtain ⟨below,cut,idle⟩ := @ih ['.'] (by decide)
    rw [List.singleton_append,Path.parts] at cut
    exact ⟨['.'] :: below,by rw [Path.parts,split_line plain,cut],List.forall_mem_cons.mpr ⟨rfl,idle⟩⟩

theorem Leading.parts {front : Text} (leading : Leading front) (rest : Text) :
    ∃ above, Path.parts (front ++ rest) = above ++ Path.parts rest := by
  rcases leading with rfl | slash
  · exact ⟨[],rfl⟩
  · obtain ⟨before,rfl⟩ := List.getLast?_eq_some_iff.mp slash
    refine ⟨Path.parts before,?_⟩
    rw [List.append_assoc,List.singleton_append]
    exact split_append '/' before rest

-- The last part that leads somewhere is what a path ends in.
theorem endsIn_exact {path name : Text} (named : Named name) :
    EndsIn path name ↔ (components path).getLast? = some name := by
  have busy : (!isIdle name) = true := by simp [named.1.1]
  rw [components,List.getLast?_filter,List.find?_eq_some_iff_append]
  constructor
  · rintro ⟨front,behind,rfl,leading,trailing⟩
    obtain ⟨below,cut,idle⟩ := trailing.parts named.2
    obtain ⟨above,whole⟩ := leading.parts (name ++ behind)
    refine ⟨busy,below.reverse,above.reverse,?_,by simpa using idle⟩
    rw [List.append_assoc,whole,cut]
    simp
  · rintro ⟨_,below,above,cut,idle⟩
    have parts : parts path = above.reverse ++ name :: below.reverse := by
      simpa using congrArg List.reverse cut
    have behind : ∀ part ∈ below.reverse, isIdle part = true := by simpa using idle
    refine ⟨_,_,?_,leading_parts above.reverse,trailing_idle behind⟩
    rw [← join_around,← parts]
    exact (join_split '/' path).symm

theorem fileName?_exact {path name : Text} : fileName? path = some name ↔ Named name ∧ EndsIn path name := by
  have whole : fileName? path = (components path).getLast?.filter (!isParent ·) := rfl
  rw [whole,Option.filter_eq_some_iff]
  constructor
  · rintro ⟨last,single⟩
    have member : name ∈ components path := List.mem_of_getLast? last
    obtain ⟨inside,busy⟩ := List.mem_filter.mp member
    have named : Named name := ⟨⟨by simpa using busy,by simpa using single⟩,split_parts inside⟩
    exact ⟨named,(endsIn_exact named).mpr last⟩
  · rintro ⟨named,ends⟩
    exact ⟨(endsIn_exact named).mp ends,by simp [named.1.2]⟩

-- The last dot of a name divides it, unless the name begins with it.
theorem extensionOf?_exact {name extension : Text} : extensionOf? name = some extension ↔
    '.' ∉ extension ∧ ∃ stem, stem ≠ [] ∧ name = stem ++ '.' :: extension := by
  constructor
  · intro found
    unfold extensionOf? at found
    dsimp only at found
    split at found
    · cases found
    · rename_i c stem rest
      split at found
      · cases found
      · rename_i some
        cases found
        have dot : c = '.' := by
          have stops := List.head?_dropWhile_not (· != '.') name.reverse
          rw [rest] at stops
          simpa using stops
        have cut := List.takeWhile_append_dropWhile (p := (· != '.')) (l := name.reverse)
        refine ⟨?_,stem.reverse,by simpa using some,?_⟩
        · intro member
          simpa using List.mem_takeWhile_imp (List.mem_reverse.mp member)
        · rw [rest,dot] at cut
          simpa using (congrArg List.reverse cut).symm
  · rintro ⟨plain,stem,some,rfl⟩
    have back : (stem ++ '.' :: extension).reverse = extension.reverse ++ '.' :: stem.reverse := by simp
    have reversed : '.' ∉ extension.reverse := by simpa using plain
    simp [extensionOf?,back,dropWhile_before reversed,takeWhile_before reversed,some]

theorem named_exact {name : Text} :
    Named name ↔ name ≠ [] ∧ name ≠ ['.'] ∧ name ≠ ['.', '.'] ∧ '/' ∉ name := by
  simp [Named,IsName,isIdle,isParent,and_assoc]

end Path

-- A document is named by a stem, a dot and one of the extensions. Its path ends in that name; an
-- extension with a dot of its own is never met.
theorem Config.isSpecFile_exact (config : Config) (path : Text) :
    config.isSpecFile path = true ↔
      ∃ name, Path.EndsIn path name ∧ (name ≠ [] ∧ name ≠ ['.'] ∧ name ≠ ['.', '.'] ∧ '/' ∉ name) ∧
        ∃ extension ∈ config.extensions, '.' ∉ extension ∧
          ∃ stem, stem ≠ [] ∧ name = stem ++ '.' :: extension := by
  simp only [← Path.named_exact]
  rw [isSpecFile,Option.any_eq_true]
  constructor
  · rintro ⟨extension,found,listed⟩
    obtain ⟨name,last,cut⟩ := Option.bind_eq_some_iff.mp found
    obtain ⟨named,ends⟩ := Path.fileName?_exact.mp last
    obtain ⟨plain,stem,some,whole⟩ := Path.extensionOf?_exact.mp cut
    exact ⟨name,ends,named,extension,by simpa using listed,plain,stem,some,whole⟩
  · rintro ⟨name,ends,named,extension,listed,plain,stem,some,whole⟩
    have last := Path.fileName?_exact.mpr ⟨named,ends⟩
    have cut := Path.extensionOf?_exact.mpr ⟨plain,stem,some,whole⟩
    exact ⟨extension,Option.bind_eq_some_iff.mpr ⟨name,last,cut⟩,by simpa using listed⟩

end SpecLint
