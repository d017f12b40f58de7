import SpecLint.Dictionary

namespace SpecLint

theorem lookup_entry (entry : Text × α) (rest : List (Text × α)) (key : Text) :
    (entry :: rest).lookup key = if key = entry.1 then some entry.2 else rest.lookup key := by
  obtain ⟨first,value⟩ := entry
  rw [List.lookup_cons]
  by_cases same : key = first
  · simp [same]
  · simp [beq_eq_false_iff_ne.mpr same,same]

theorem lookup_exact {entries : List (Text × α)} (distinct : (entries.map (·.1)).Nodup) (entry : Text × α) :
    entries.lookup entry.1 = some entry.2 ↔ entry ∈ entries := by
  obtain ⟨name,value⟩ := entry
  induction entries with
  | nil => simp
  | cons head rest ih =>
    obtain ⟨first,child⟩ := head
    obtain ⟨fresh,tail⟩ := List.nodup_cons.mp distinct
    rw [lookup_entry]
    by_cases same : name = first
    · subst same
      have once : (name,value) ∉ rest := fun member => fresh (List.mem_map.mpr ⟨_,member,rfl⟩)
      simp [once,eq_comm]
    · simp [same,ih tail]

theorem lookup_map (change : α → β) (entries : List (Text × α)) (key : Text) :
    (entries.map fun entry => (entry.1,change entry.2)).lookup key = (entries.lookup key).map change := by
  induction entries with
  | nil => rfl
  | cons entry rest ih =>
    rw [List.map_cons,lookup_entry,lookup_entry,ih]
    split <;> rfl

theorem lookup_putEntry (key other : Text) (value : α) (entries : List (Text × α)) :
    (putEntry key value entries).lookup other =
      if other = key then some value else entries.lookup other := by
  induction entries with
  | nil => simp only [putEntry,lookup_entry,List.lookup_nil]
  | cons head rest ih =>
    unfold putEntry
    split
    · simp only [lookup_entry]
    · split
      · rename_i found
        by_cases same : other = key
        · simp [same]
        · simp [lookup_entry,same,← found]
      · rename_i different
        by_cases first : other = head.1
        · simp [lookup_entry,first,Ne.symm different]
        · simp only [lookup_entry,first,if_false,ih]

theorem putEntry_last {key : Text} {entries : List (Text × α)} (above : ∀ entry ∈ entries, entry.1 < key)
    (value : α) : putEntry key value entries = entries ++ [(key,value)] := by
  induction entries with
  | nil => rfl
  | cons head rest ih =>
    have before := above head List.mem_cons_self
    have later : ¬key < head.1 := List.lt_asymm before
    have other : key ≠ head.1 := by
      intro same
      rw [same] at before
      exact List.lt_irrefl _ before
    rw [putEntry,if_neg later,if_neg other,ih fun entry member => above entry (List.mem_cons_of_mem _ member)]
    rfl

theorem putEntry_map (change : α → β) (key : Text) (value : α) (entries : List (Text × α)) :
    (putEntry key value entries).map (fun entry => (entry.1,change entry.2)) =
      putEntry key (change value) (entries.map fun entry => (entry.1,change entry.2)) := by
  induction entries with
  | nil => rfl
  | cons head rest ih =>
    rw [putEntry,List.map_cons,putEntry]
    split
    · rfl
    · split
      · rfl
      · rw [List.map_cons,ih]

namespace Dictionary

theorem get?_empty (key : Text) : (empty : Dictionary α).get? key = none := rfl

-- Giving a key its value changes what is read under this key alone.
theorem get?_insert (key other : Text) (value : α) (map : Dictionary α) :
    (map.insert key value).get? other = if other = key then some value else map.get? other :=
  lookup_putEntry key other value map.entries

theorem entries_inserted {map : Dictionary α} {rest : List (Text × α)}
    (sorted : (map.entries ++ rest).Pairwise (·.1 < ·.1)) :
    (rest.foldl (fun map entry => map.insert entry.1 entry.2) map).entries = map.entries ++ rest := by
  induction rest generalizing map with
  | nil => rw [List.foldl_nil,List.append_nil]
  | cons entry rest ih =>
    have above : ∀ other ∈ map.entries, other.1 < entry.1 := by
      intro other member
      exact (List.pairwise_append.mp sorted).2.2 other member entry List.mem_cons_self
    have inserted : (map.insert entry.1 entry.2).entries = map.entries ++ [entry] :=
      putEntry_last above entry.2
    rw [List.append_cons,← inserted] at sorted
    rw [List.foldl_cons,ih sorted,inserted,← List.append_cons]

theorem same_entries {first second : Dictionary α} (same : first.entries = second.entries) :
    first = second := by
  cases first
  cases second
  cases same
  rfl

-- What a dictionary holds makes the same dictionary again.
theorem ofList_entries (map : Dictionary α) : ofList map.entries = map := by
  refine same_entries ?_
  exact entries_inserted (by simpa [empty] using map.sorted)

-- The same words with other values.
def map (change : α → β) (map : Dictionary α) : Dictionary β :=
  ⟨map.entries.map fun entry => (entry.1,change entry.2),List.pairwise_map.mpr map.sorted⟩

theorem map_insert (change : α → β) (key : Text) (value : α) (words : Dictionary α) :
    (words.insert key value).map change = (words.map change).insert key (change value) :=
  same_entries (putEntry_map change key value words.entries)

theorem get?_map (change : α → β) (words : Dictionary α) (key : Text) :
    (words.map change).get? key = (words.get? key).map change := lookup_map change words.entries key

end Dictionary
end SpecLint
