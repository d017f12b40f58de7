import Mathlib.Data.List.Nodup
import SpecLint.Files.Lint
import SpecLint.Proofs.Dictionary
import SpecLint.Proofs.Files.Tree

namespace SpecLint

namespace Entry

theorem filesOfAll_eq (entries : List (Text × Entry)) : filesOfAll entries = entries.flatMap filesUnder := by
  induction entries with
  | nil => rfl
  | cons head rest ih => rw [filesOfAll,ih,List.flatMap_cons]

theorem mem_filesUnder {child : Text × Entry} {names : List Text} {content : Content} :
    (names,content) ∈ filesUnder child ↔ ∃ rest, names = child.1 :: rest ∧ (rest,content) ∈ child.2.files := by
  obtain ⟨name,entry⟩ := child
  simp only [filesUnder,List.mem_map,Prod.exists,Prod.mk.injEq]
  constructor
  · rintro ⟨rest,_,member,rfl,rfl⟩
    exact ⟨rest,rfl,member⟩
  · rintro ⟨rest,rfl,member⟩
    exact ⟨rest,content,member,rfl,rfl⟩

-- A walk meets every file that names lead to.
theorem files_found {entry : Entry} {names : List Text} {content : Content}
    (found : entry.find? names = some (.file content)) : (names,content) ∈ entry.files := by
  induction names generalizing entry with
  | nil =>
    cases found
    exact List.mem_singleton.mpr rfl
  | cons name names ih =>
    cases entry with
    | file => cases found
    | directory entries =>
      obtain ⟨child,inside,below⟩ := Option.bind_eq_some_iff.mp found
      rw [files,filesOfAll_eq,List.mem_flatMap]
      exact ⟨(name,child),lookup_member inside,mem_filesUnder.mpr ⟨names,rfl,ih below⟩⟩

-- In a proper entry it meets nothing else.
theorem files_exact {entry : Entry} (proper : entry.Proper) (names : List Text) (content : Content) :
    (names,content) ∈ entry.files ↔ entry.find? names = some (.file content) := by
  refine ⟨?_,files_found⟩
  induction proper generalizing names with
  | file held =>
    cases names with
    | nil => simp [files,find?,eq_comm]
    | cons name names => simp [files]
  | directory distinct named proper ih =>
    rw [files,filesOfAll_eq,List.mem_flatMap]
    rintro ⟨child,member,under⟩
    obtain ⟨rest,rfl,below⟩ := mem_filesUnder.mp under
    rw [find?,Option.bind_eq_some_iff]
    exact ⟨child.2,(lookup_exact distinct _).mpr member,ih child member rest below⟩

-- No two files have the same names.
theorem files_distinct {entry : Entry} (proper : entry.Proper) : (entry.files.map (·.1)).Nodup := by
  induction proper with
  | file => simp [files]
  | directory distinct named proper ih =>
    rename_i entries
    have under (child : Text × Entry) : (filesUnder child).map (·.1) = (child.2.files.map (·.1)).map (child.1 :: ·) := by
      obtain ⟨name,entry⟩ := child
      simp [filesUnder]
    rw [files,filesOfAll_eq,List.map_flatMap,List.nodup_flatMap]
    refine ⟨?_,?_⟩
    · intro child member
      rw [under]
      exact (ih child member).map fun first second same => (List.cons.inj same).2
    · refine (List.pairwise_map.mp distinct).imp ?_
      intro first second other names here there
      simp only [under] at here there
      obtain ⟨_,_,rfl⟩ := List.mem_map.mp here
      obtain ⟨_,_,same⟩ := List.mem_map.mp there
      exact other (List.cons.inj same).1.symm

theorem find?_proper {entry last : Entry} {names : List Text} (proper : entry.Proper)
    (found : entry.find? names = some last) : last.Proper ∧ ∀ name ∈ names, Path.Named name := by
  induction names generalizing entry with
  | nil =>
    cases found
    exact ⟨proper,by simp⟩
  | cons name names ih =>
    cases proper with
    | file => cases found
    | directory distinct named proper =>
      obtain ⟨child,inside,deeper⟩ := Option.bind_eq_some_iff.mp found
      have member := lookup_member inside
      obtain ⟨last,names⟩ := ih (proper _ member) deeper
      exact ⟨last,List.forall_mem_cons.mpr ⟨named _ member,names⟩⟩

end Entry
end SpecLint
