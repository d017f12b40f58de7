import SpecLint.Text.Basic

namespace SpecLint

def putEntry (key : Text) (value : α) : List (Text × α) → List (Text × α)
  | [] => [(key,value)]
  | head :: rest =>
    if key < head.1 then (key,value) :: head :: rest
    else if key = head.1 then (key,value) :: rest
    else head :: putEntry key value rest

theorem putEntry_keys (key : Text) (value : α) (entries : List (Text × α)) (other : Text × α)
    (member : other ∈ putEntry key value entries) : other.1 = key ∨ other ∈ entries := by
  induction entries with
  | nil => simp [putEntry] at member; exact .inl (by rw [member])
  | cons head rest ih =>
    unfold putEntry at member
    split at member
    · rcases List.mem_cons.mp member with rfl | member
      · exact .inl rfl
      · exact .inr member
    · split at member
      · rcases List.mem_cons.mp member with rfl | member
        · exact .inl rfl
        · exact .inr (List.mem_cons_of_mem _ member)
      · rcases List.mem_cons.mp member with rfl | member
        · exact .inr (by simp)
        · exact (ih member).imp_right (List.mem_cons_of_mem _)

theorem putEntry_sorted (key : Text) (value : α) (entries : List (Text × α))
    (sorted : entries.Pairwise (·.1 < ·.1)) :
    (putEntry key value entries).Pairwise (·.1 < ·.1) := by
  induction entries with
  | nil => simp [putEntry]
  | cons head rest ih =>
    obtain ⟨below,tail⟩ := List.pairwise_cons.mp sorted
    unfold putEntry
    split
    · rename_i before
      refine List.pairwise_cons.mpr ⟨?_,sorted⟩
      intro other member
      rcases List.mem_cons.mp member with rfl | member
      · exact before
      · exact List.lt_trans before (below other member)
    · split
      · rename_i same
        refine List.pairwise_cons.mpr ⟨?_,tail⟩
        intro other member
        rw [show (key,value).1 = head.1 from same]
        exact below other member
      · rename_i notBefore different
        refine List.pairwise_cons.mpr ⟨?_,ih tail⟩
        intro other member
        rcases putEntry_keys key value rest other member with same | member
        · rw [same]
          rcases Std.lt_trichotomy key head.1 with before | equal | after
          · exact absurd before notBefore
          · exact absurd equal different
          · exact after
        · exact below other member

-- Values under words, held in order of the words with each word once.
structure Dictionary (α : Type) where
  entries : List (Text × α)
  sorted : entries.Pairwise (·.1 < ·.1)
deriving DecidableEq

namespace Dictionary

def empty : Dictionary α := ⟨[],.nil⟩

def insert (key : Text) (value : α) (map : Dictionary α) : Dictionary α :=
  ⟨putEntry key value map.entries,putEntry_sorted key value map.entries map.sorted⟩

-- Of several values for one key the last one stays.
def ofList (entries : List (Text × α)) : Dictionary α :=
  entries.foldl (fun map entry => map.insert entry.1 entry.2) empty

def get? (map : Dictionary α) (key : Text) : Option α := map.entries.lookup key

def contains (map : Dictionary α) (key : Text) : Bool := (map.get? key).isSome

def keys (map : Dictionary α) : List Text := map.entries.map (·.1)

def isEmpty (map : Dictionary α) : Bool := map.entries.isEmpty

end Dictionary
end SpecLint
