import SpecLint.Toml.Basic

namespace SpecLint.Toml

structure Table where
  origin : Origin
  entries : Entries

-- Gives a key its value, in the place it has if it has one.
def putValue (key : Text) (value : Value) : Entries → Entries
  | [] => [(key,value)]
  | head :: rest =>
    if head.1 = key then (key,value) :: rest else head :: putValue key value rest

-- Changes the table at the end of a path. Tables on the way are made where they are missing. A
-- dotted key does not enter a table that has a header, and nothing enters one written in place.
-- Of a growing array the last element is meant.
def Table.change (dotted : Bool) (act : Table → Option Table) : (path : List Text) → Table →
    Option Table
  | [], table => act table
  | key :: path, table => do
    let value ← match table.entries.lookup key with
      | none => do
        let made ← Table.change dotted act path ⟨if dotted then .dotted else .implied,[]⟩
        some (.table made.origin made.entries)
      | some (.table origin entries) =>
        if origin = .inline ∨ (dotted ∧ origin = .header) then none
        else do
          let changed ← Table.change dotted act path ⟨origin,entries⟩
          some (.table changed.origin changed.entries)
      | some (.tables items) =>
        match items.getLast? with
        | some (.table origin entries) => do
          let changed ← Table.change dotted act path ⟨origin,entries⟩
          some (.tables (items.dropLast ++ [.table changed.origin changed.entries]))
        | _ => none
      | some _ => none
    return { table with entries := putValue key value table.entries }

-- A key is assigned once. What a dotted key extends has been made by dotted keys.
def Table.assign (path : List Text) (value : Value) (table : Table) : Option Table :=
  match path.getLast? with
  | none => none
  | some key =>
    table.change true
      (fun owner =>
        if (!path.dropLast.isEmpty && owner.origin != .dotted) ||
            (owner.entries.lookup key).isSome then none
        else some { owner with entries := owner.entries ++ [(key,value)] })
      path.dropLast

-- A table has one header, but deeper headers may have implied it before.
def Table.openHeader (path : List Text) (table : Table) : Option Table :=
  match path.getLast? with
  | none => none
  | some key =>
    table.change false
      (fun owner =>
        match owner.entries.lookup key with
        | none => some { owner with entries := owner.entries ++ [(key,.table .header [])] }
        | some (.table .implied entries) =>
          some { owner with entries := putValue key (.table .header entries) owner.entries }
        | some _ => none)
      path.dropLast

def Table.openElement (path : List Text) (table : Table) : Option Table :=
  match path.getLast? with
  | none => none
  | some key =>
    table.change false
      (fun owner =>
        match owner.entries.lookup key with
        | none =>
          some { owner with entries := owner.entries ++ [(key,.tables [.table .header []])] }
        | some (.tables items) =>
          some { owner with
            entries := putValue key (.tables (items ++ [.table .header []])) owner.entries }
        | some _ => none)
      path.dropLast

-- Keys written in place make one table, which is then closed.
def inlineTable? (pairs : List (List Text × Value)) : Option Value := do
  let step (table : Table) (pair : List Text × Value) := table.assign pair.1 pair.2
  return .table .inline (← pairs.foldlM step ⟨.inline,[]⟩).entries

-- Statements apply to the table that the last header opened.
def build? : (current : List Text) → Table → List Statement → Option Table
  | _, table, [] => some table
  | current, table, .assign path value :: rest => do
    build? current (← table.change false (·.assign path value) current) rest
  | _, table, .header path :: rest => do build? path (← table.openHeader path) rest
  | _, table, .element path :: rest => do build? path (← table.openElement path) rest

end SpecLint.Toml
