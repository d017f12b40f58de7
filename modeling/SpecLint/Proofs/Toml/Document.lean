import SpecLint.Proofs.Dictionary
import SpecLint.Proofs.Toml.Statement

namespace SpecLint.Toml
open Text

-- What a plain line assigns: a number in decimal, or an array of words between quotes.
inductive Written where
  | count (n : Nat)
  | words (items : List Text)

namespace Written

def text : Written → Text
  | count n => decimal n
  | words items => tomlArray items

def value : Written → Value
  | count n => .integer n
  | words items => .array (items.map .string)

def Fits : Written → Prop
  | count n => n < signedLimit
  | words items => ∀ item ∈ items, PlainWord item

instance : (written : Written) → Decidable written.Fits
  | count n => inferInstanceAs (Decidable (n < signedLimit))
  | words items => inferInstanceAs (Decidable (∀ item ∈ items, PlainWord item))

end Written

structure Line where
  key : String
  written : Written

namespace Line

def text (line : Line) : Text := tomlLine line.key line.written.text

def entry (line : Line) : Text × Value := (line.key.toList,line.written.value)

def statement (line : Line) : Statement := .assign [line.key.toList] line.written.value

def Fits (line : Line) : Prop := Bare line.key.toList ∧ line.written.Fits

instance (line : Line) : Decidable line.Fits := inferInstanceAs (Decidable (_ ∧ _))

end Line

-- Lines below a header of their own.
structure Group where
  name : String
  lines : List Line

namespace Group

def text (group : Group) : Text :=
  "\n[".toList ++ group.name.toList ++ "]\n".toList ++ group.lines.flatMap Line.text

def entry (group : Group) : Text × Value :=
  (group.name.toList,.table .header (group.lines.map Line.entry))

def statements (group : Group) : List Statement :=
  .header [group.name.toList] :: group.lines.map Line.statement

def Fits (group : Group) : Prop :=
  Bare group.name.toList ∧ (∀ line ∈ group.lines, line.Fits) ∧
    ((group.lines.map Line.entry).map (·.1)).Nodup

instance (group : Group) : Decidable group.Fits := inferInstanceAs (Decidable (_ ∧ _))

end Group

structure Document where
  lines : List Line
  groups : List Group

namespace Document

def text (document : Document) : Text :=
  document.lines.flatMap Line.text ++ document.groups.flatMap Group.text

def entries (document : Document) : Entries :=
  document.lines.map Line.entry ++ document.groups.map Group.entry

def statements (document : Document) : List Statement :=
  document.lines.map Line.statement ++ document.groups.flatMap Group.statements

-- Every line and every group fits, and no key is given twice.
def Fits (document : Document) : Prop :=
  (∀ line ∈ document.lines, line.Fits) ∧ (∀ group ∈ document.groups, group.Fits) ∧
    (document.entries.map (·.1)).Nodup

instance (document : Document) : Decidable document.Fits := inferInstanceAs (Decidable (_ ∧ _))

end Document

-- Every step reads at least one character, so the fuel outlasts the text.
def Reads (text : Text) (statements : List Statement) : Prop :=
  ∀ fuel, text.length < fuel → readStatements fuel text = some statements

theorem reads_nil : Reads [] [] := by
  intro fuel room
  obtain ⟨fuel,rfl⟩ := Nat.exists_eq_add_one_of_ne_zero (Nat.ne_zero_of_lt room)
  rfl

theorem reads_line {line : Line} (fits : line.Fits) {rest : Text} {statements : List Statement}
    (later : Reads rest statements) : Reads (line.text ++ rest) (line.statement :: statements) := by
  intro fuel room
  have size : line.text.length = line.key.toList.length + 4 + line.written.text.length := by
    simp only [Line.text,tomlLine,List.length_append]
    have : " = ".toList.length = 3 := rfl
    have : ['\n'].length = 1 := rfl
    omega
  rw [List.length_append] at room
  obtain ⟨fuel,rfl⟩ := Nat.exists_eq_add_of_le' (show 2 ≤ fuel by omega)
  have read := later (fuel + 1) (by omega)
  obtain ⟨key,written⟩ := line
  obtain ⟨bare,plain⟩ := fits
  cases written with
  | count n =>
    rw [Line.text,Written.text,readStatements_count bare plain,read]
    rfl
  | words items =>
    have space : (tomlArray items).length + 3 ≤ fuel + 1 := by
      change _ = _ + (tomlArray items).length at size
      omega
    rw [Line.text,Written.text,readStatements_texts bare plain rest space,read]
    rfl

theorem reads_lines {lines : List Line} (fits : ∀ line ∈ lines, line.Fits) {rest : Text}
    {statements : List Statement} (later : Reads rest statements) :
    Reads (lines.flatMap Line.text ++ rest) (lines.map Line.statement ++ statements) := by
  induction lines with
  | nil => exact later
  | cons line lines ih =>
    obtain ⟨first,others⟩ := List.forall_mem_cons.mp fits
    rw [List.flatMap_cons,List.append_assoc]
    exact reads_line first (ih others)

theorem reads_header {name : Text} (bare : Bare name) {rest : Text} {statements : List Statement}
    (later : Reads rest statements) :
    Reads ("\n[".toList ++ name ++ "]\n".toList ++ rest) (.header [name] :: statements) := by
  intro fuel room
  have cut : "\n[".toList ++ name ++ "]\n".toList ++ rest = '\n' :: '[' :: (name ++ ']' :: '\n' :: rest) := by
    simp
  rw [cut] at room ⊢
  simp only [List.length_cons,List.length_append] at room
  obtain ⟨fuel,rfl⟩ := Nat.exists_eq_add_of_le' (show 3 ≤ fuel by omega)
  rw [readStatements_header bare,later (fuel + 1) (by omega)]
  rfl

theorem reads_groups {groups : List Group} (fits : ∀ group ∈ groups, group.Fits) :
    Reads (groups.flatMap Group.text) (groups.flatMap Group.statements) := by
  induction groups with
  | nil => exact reads_nil
  | cons group groups ih =>
    obtain ⟨⟨bare,lines,_⟩,others⟩ := List.forall_mem_cons.mp fits
    have read := reads_header bare (reads_lines lines (ih others))
    rw [List.flatMap_cons,List.flatMap_cons,Group.text,List.append_assoc _ (List.flatMap _ _)]
    exact read

theorem reads_document {document : Document} (fits : document.Fits) :
    Reads document.text document.statements :=
  reads_lines fits.1 (reads_groups fits.2.1)

theorem lookup_fresh {entries : List (Text × α)} {key : Text} (fresh : key ∉ entries.map (·.1)) :
    entries.lookup key = none := by
  rw [List.lookup_eq_none_iff]
  intro entry member
  have other : key ≠ entry.1 := fun same => fresh (same ▸ List.mem_map_of_mem member)
  simpa using other

theorem lookup_behind {front : List (Text × α)} {key : Text} (fresh : key ∉ front.map (·.1)) (value : α) :
    (front ++ [(key,value)]).lookup key = some value := by
  rw [List.lookup_append,lookup_fresh fresh,Option.none_or,lookup_entry]
  exact if_pos rfl

theorem putValue_behind {front : Entries} {key : Text} (fresh : key ∉ front.map (·.1)) (old value : Value) :
    putValue key value (front ++ [(key,old)]) = front ++ [(key,value)] := by
  induction front with
  | nil => exact if_pos rfl
  | cons head front ih =>
    rw [List.map_cons,List.mem_cons,not_or] at fresh
    rw [List.cons_append,putValue,if_neg (Ne.symm fresh.1),ih fresh.2]
    rfl

theorem distinct_front {front : Entries} {entry : Text × Value} {rest : Entries}
    (distinct : ((front ++ entry :: rest).map (·.1)).Nodup) : entry.1 ∉ front.map (·.1) := by
  rw [List.map_append,List.map_cons,List.nodup_append] at distinct
  intro member
  exact distinct.2.2 _ member _ List.mem_cons_self rfl

theorem assign_fresh {origin : Origin} {front : Entries} {key : Text} (fresh : key ∉ front.map (·.1))
    (value : Value) : Table.assign [key] value ⟨origin,front⟩ = some ⟨origin,front ++ [(key,value)]⟩ := by
  simp [Table.assign,Table.change,lookup_fresh fresh]

theorem openHeader_fresh {origin : Origin} {front : Entries} {name : Text} (fresh : name ∉ front.map (·.1)) :
    Table.openHeader [name] ⟨origin,front⟩ = some ⟨origin,front ++ [(name,.table .header [])]⟩ := by
  simp [Table.openHeader,Table.change,lookup_fresh fresh]

-- A key below the last header goes into the table that this header opened.
theorem assign_below {origin : Origin} {front inner : Entries} {name key : Text}
    (fresh : name ∉ front.map (·.1)) (new : key ∉ inner.map (·.1)) (value : Value) :
    Table.change false (·.assign [key] value) [name] ⟨origin,front ++ [(name,.table .header inner)]⟩ =
      some ⟨origin,front ++ [(name,.table .header (inner ++ [(key,value)]))]⟩ := by
  have added : Table.assign [key] value ⟨.header,inner⟩ = some ⟨.header,inner ++ [(key,value)]⟩ :=
    assign_fresh new value
  simp [Table.change,lookup_behind fresh,putValue_behind fresh,added]

theorem build?_assign {current path : List Text} {value : Value} {table next : Table}
    (changed : table.change false (·.assign path value) current = some next) (rest : List Statement) :
    build? current table (.assign path value :: rest) = build? current next rest := by
  rw [build?,changed]
  rfl

-- Lines above all headers are entries of the document itself.
theorem build?_lines {lines : List Line} {origin : Origin} {front : Entries}
    (distinct : ((front ++ lines.map Line.entry).map (·.1)).Nodup) (rest : List Statement) :
    build? [] ⟨origin,front⟩ (lines.map Line.statement ++ rest) =
      build? [] ⟨origin,front ++ lines.map Line.entry⟩ rest := by
  induction lines generalizing front with
  | nil => simp
  | cons line lines ih =>
    rw [List.map_cons] at distinct
    have added : Table.change false (·.assign [line.key.toList] line.written.value) [] ⟨origin,front⟩ =
        some ⟨origin,front ++ [line.entry]⟩ := assign_fresh (distinct_front distinct) line.written.value
    rw [List.append_cons] at distinct
    rw [List.map_cons,List.cons_append,Line.statement,build?_assign added,ih distinct,List.map_cons,
      ← List.append_cons]

theorem build?_below {lines : List Line} {origin : Origin} {front inner : Entries} {name : Text}
    (fresh : name ∉ front.map (·.1)) (distinct : ((inner ++ lines.map Line.entry).map (·.1)).Nodup)
    (rest : List Statement) :
    build? [name] ⟨origin,front ++ [(name,.table .header inner)]⟩ (lines.map Line.statement ++ rest) =
      build? [name] ⟨origin,front ++ [(name,.table .header (inner ++ lines.map Line.entry))]⟩ rest := by
  induction lines generalizing inner with
  | nil => simp
  | cons line lines ih =>
    rw [List.map_cons] at distinct
    have new : line.key.toList ∉ inner.map (·.1) := distinct_front distinct
    rw [List.append_cons] at distinct
    rw [List.map_cons,List.cons_append,Line.statement,build?_assign (assign_below fresh new line.written.value)]
    exact (ih distinct).trans (by rw [List.map_cons,← List.append_cons])

theorem build?_groups {groups : List Group} (fits : ∀ group ∈ groups, group.Fits) {origin : Origin}
    {front : Entries} (distinct : ((front ++ groups.map Group.entry).map (·.1)).Nodup) (current : List Text) :
    build? current ⟨origin,front⟩ (groups.flatMap Group.statements) =
      some ⟨origin,front ++ groups.map Group.entry⟩ := by
  induction groups generalizing front current with
  | nil => simp [build?]
  | cons group groups ih =>
    obtain ⟨⟨_,_,inner⟩,others⟩ := List.forall_mem_cons.mp fits
    rw [List.map_cons] at distinct
    have fresh : group.name.toList ∉ front.map (·.1) := distinct_front distinct
    rw [List.append_cons] at distinct
    have later := ih others distinct [group.name.toList]
    rw [List.flatMap_cons,Group.statements,List.cons_append,build?,openHeader_fresh fresh]
    exact (build?_below fresh inner _).trans (later.trans (by rw [List.map_cons,← List.append_cons]))

theorem build?_document {document : Document} (fits : document.Fits) :
    build? [] ⟨.header,[]⟩ document.statements = some ⟨.header,document.entries⟩ := by
  obtain ⟨_,groups,distinct⟩ := fits
  have lines : ((document.lines.map Line.entry).map (·.1)).Nodup := by
    rw [Document.entries,List.map_append] at distinct
    exact (List.nodup_append.mp distinct).1
  exact (build?_lines lines _).trans (build?_groups groups distinct [])

-- No written document begins with a byte-order mark.
theorem document_markless {document : Document} (fits : document.Fits) :
    after? ['\ufeff'] document.text = none := by
  obtain ⟨lines,groups⟩ := document
  cases lines with
  | nil => cases groups <;> rfl
  | cons line lines =>
    have bare : Bare line.key.toList := (List.forall_mem_cons.mp fits.1).1.1
    obtain ⟨c,more,cut⟩ := List.exists_cons_of_ne_nil bare.1
    have other : c ≠ '\ufeff' := bare_ne (bare.2 c (by simp [cut])) (by decide)
    simp [Document.text,Line.text,tomlLine,cut,after?,other]

-- A written document is read as its own entries, whatever their order.
theorem parse?_document {document : Document} (fits : document.Fits) :
    parse? document.text = some document.entries := by
  have read := reads_document fits (2 * document.text.length + 2) (by omega)
  simp only [parse?,document_markless fits,Option.getD_none,read,build?_document fits,Option.bind_eq_bind,
    Option.bind_some]
  rfl

end SpecLint.Toml
