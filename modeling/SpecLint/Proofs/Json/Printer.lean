import SpecLint.Json.Printer
import SpecLint.Json.Reader
import SpecLint.Proofs.Json.Quoted
import SpecLint.Proofs.Text.Decimal
import SpecLint.Proofs.Text.Prefix

namespace SpecLint.Json
open Text

-- Values all of whose numbers are natural numbers. Any other number is printed as it was read, and
-- nothing says that it can be read.
inductive Whole : Json → Prop where
  | null : Whole .null
  | bool (value : Bool) : Whole (.bool value)
  | number (value : Nat) : Whole (.number value)
  | string (value : Text) : Whole (.string value)
  | array : (∀ item ∈ items, Whole item) → Whole (.array items)
  | object : (∀ member ∈ members, Whole member.2) → Whole (.object members)

-- A text that cannot belong to a number that stands before it.
def Apart (rest : Text) : Prop :=
  ∀ c, rest.head? = some c → c.isDigit = false ∧ c ≠ '.' ∧ c ≠ 'e' ∧ c ≠ 'E'

-- A text that begins with something to read: no blank and no closing bracket.
def Opening (text : Text) : Prop :=
  ∃ c rest, text = c :: rest ∧ isSpace c = false ∧ c ≠ ']' ∧ c ≠ '\x7d'

theorem takeDigits_before {digits rest : Text} (all : Digits digits) (apart : Apart rest) :
    takeDigits (digits ++ rest) = (digits,rest) := by
  obtain ⟨taken,left⟩ := span_word all fun c first => (apart c first).1
  rw [takeDigits,taken,left]

theorem readFraction?_none {rest : Text} (apart : Apart rest) : readFraction? rest = some ([],rest) := by
  unfold readFraction?
  split
  · exact absurd rfl (apart '.' rfl).2.1
  · rfl

theorem readExponent?_none {rest : Text} (apart : Apart rest) : readExponent? rest = some ([],rest) := by
  cases rest with
  | nil => rfl
  | cons c rest =>
    obtain ⟨_,_,small,large⟩ := apart c rfl
    exact if_neg (not_or.mpr ⟨small,large⟩)

theorem readNumber?_decimal (n : Nat) {rest : Text} (apart : Apart rest) :
    readNumber? (decimal n ++ rest) = some (number n,rest) := by
  have plain : ∀ more, decimal n ++ rest ≠ '-' :: more := by
    intro more same
    obtain ⟨c,digits,cut⟩ := List.exists_cons_of_ne_nil (decimal_ne_nil n)
    have digit : c.isDigit = true := decimal_digits n c (by simp [cut])
    rw [cut] at same
    exact digit_ne digit (by decide) (List.cons.inj same).1
  have leading : ¬((decimal n).isEmpty || (decimal n).head? = some '0' && (decimal n).length > 1) = true := by
    intro refused
    rcases (Bool.or_eq_true _ _).mp refused with empty | zero
    · exact decimal_ne_nil n (List.isEmpty_iff.mp empty)
    · obtain ⟨zero,long⟩ := (Bool.and_eq_true _ _).mp zero
      rw [decimal_leading (of_decide_eq_true zero)] at long
      exact absurd long (by decide)
  unfold readNumber?
  split
  rename_i sign unsigned signed
  have same : sign = [] ∧ unsigned = decimal n ++ rest := by
    split at signed
    · rename_i more opening
      exact absurd opening (plain more)
    · obtain ⟨rfl,rfl⟩ := Prod.mk.inj signed
      exact ⟨rfl,rfl⟩
  rw [same.1,same.2,takeDigits_before (decimal_digits n) apart]
  dsimp only
  rw [if_neg leading,readFraction?_none apart]
  simp only [Option.bind_eq_bind,Option.bind_some,readExponent?_none apart,decimalValue_decimal]
  rfl

theorem skipSpace_newLine (layout : Layout) (depth : Nat) (text : Text) :
    skipSpace (layout.newLine depth ++ text) = skipSpace text := by
  cases layout with
  | compact => rfl
  | spread =>
    refine List.dropWhile_append_of_pos ?_
    intro c member
    rcases List.mem_cons.mp member with rfl | blank
    · decide
    · rw [(List.mem_replicate.mp blank).2]
      decide

theorem skipSpace_colon (layout : Layout) (text : Text) :
    ∃ rest, layout.colon ++ text = ':' :: rest ∧ skipSpace rest = skipSpace text := by
  cases layout with
  | compact => exact ⟨text,rfl,rfl⟩
  | spread => exact ⟨' ' :: text,rfl,rfl⟩

namespace Opening

theorem append {text : Text} (opening : Opening text) (rest : Text) : Opening (text ++ rest) := by
  obtain ⟨c,more,rfl,visible⟩ := opening
  exact ⟨c,more ++ rest,rfl,visible⟩

theorem skip {text : Text} (opening : Opening text) : skipSpace text = text := by
  obtain ⟨c,more,rfl,visible,_⟩ := opening
  exact List.dropWhile_cons_of_neg (by simp [visible])

theorem join {glue part : Text} (opening : Opening part) (parts : List Text) :
    Opening (Text.join glue (part :: parts)) := by
  cases parts with
  | nil => simpa [Text.join] using opening
  | cons next parts =>
    rw [join_cons _ _ _ (List.cons_ne_nil _ _),List.append_assoc]
    exact opening.append _

end Opening

theorem quote_opening (text : Text) : Opening (quote text) :=
  ⟨'"',_,rfl,by decide⟩

theorem enclose_opening (layout : Layout) (depth : Nat) {opening : Char} (closing : Char)
    (visible : isSpace opening = false ∧ opening ≠ ']' ∧ opening ≠ '\x7d') (parts : List Text) :
    Opening (layout.enclose depth opening closing parts) := by
  cases parts with
  | nil => exact ⟨opening,_,rfl,visible⟩
  | cons part parts => exact ⟨opening,_,rfl,visible⟩

theorem digit_visible {c : Char} (digit : c.isDigit = true) :
    isSpace c = false ∧ c ≠ ']' ∧ c ≠ '\x7d' := by
  have apart : ∀ d : Char, d.isDigit = false → c ≠ d := fun _ mark => digit_ne digit mark
  refine ⟨?_,apart ']' (by decide),apart '\x7d' (by decide)⟩
  simp [isSpace,apart ' ' (by decide),apart '\n' (by decide),apart '\r' (by decide),apart '\t' (by decide)]

theorem print_opening (layout : Layout) (depth : Nat) {json : Json} (whole : json.Whole) :
    Opening (print layout depth json) := by
  cases whole with
  | null => exact ⟨'n',_,rfl,by decide⟩
  | bool value => cases value <;> exact ⟨_,_,rfl,by decide⟩
  | number value =>
    obtain ⟨c,digits,cut⟩ := List.exists_cons_of_ne_nil (decimal_ne_nil value)
    exact ⟨c,digits,cut,digit_visible (decimal_digits value c (by simp [cut]))⟩
  | string value => exact quote_opening value
  | array => exact enclose_opening layout depth ']' (by decide) _
  | object => exact enclose_opening layout depth '\x7d' (by decide) _

theorem apart_closing {c : Char} (closing : c = ',' ∨ c = ']' ∨ c = '\x7d' ∨ c = '\n') (rest : Text) :
    Apart (c :: rest) := by
  intro d first
  cases Option.some.inj first
  rcases closing with rfl | rfl | rfl | rfl <;> decide

theorem newLine_apart (layout : Layout) (depth : Nat) {c : Char} (closing : c = ']' ∨ c = '\x7d')
    (rest : Text) : Apart (layout.newLine depth ++ c :: rest) := by
  cases layout with
  | compact => exact apart_closing (.inr (closing.imp_right .inl)) rest
  | spread => exact apart_closing (.inr (.inr (.inr rfl))) _

-- The parts of a list as they stand between its brackets.
def Layout.row (layout : Layout) (depth : Nat) (parts : List Text) : Text :=
  join (',' :: layout.newLine depth) parts

theorem row_single (layout : Layout) (depth : Nat) (part : Text) : layout.row depth [part] = part := by
  simp [Layout.row,join]

theorem row_cons (layout : Layout) (depth : Nat) (part next : Text) (parts : List Text) :
    layout.row depth (part :: next :: parts) =
      part ++ ',' :: (layout.newLine depth ++ layout.row depth (next :: parts)) := by
  rw [Layout.row,join_cons _ _ _ (List.cons_ne_nil _ _),List.append_assoc]
  rfl

theorem row_opening {part : Text} (opening : Opening part) (layout : Layout) (depth : Nat)
    (parts : List Text) : Opening (layout.row depth (part :: parts)) := by
  cases parts with
  | nil => rwa [row_single]
  | cons next parts =>
    rw [row_cons]
    exact opening.append _

theorem enclose_cons (layout : Layout) (depth : Nat) (opening closing : Char) (part : Text)
    (parts : List Text) : layout.enclose depth opening closing (part :: parts) =
      opening :: (layout.newLine (depth + 1) ++ (layout.row (depth + 1) (part :: parts) ++
        (layout.newLine depth ++ [closing]))) := by
  simp only [Layout.enclose,Layout.row,List.append_assoc,List.cons_append]

-- A printed value is read back, whatever follows it that cannot belong to it. Reading it takes two
-- steps for a character at most.
def Reads (layout : Layout) (depth : Nat) (json : Json) : Prop :=
  ∀ fuel rest, 2 * (print layout depth json).length ≤ fuel → Apart rest →
    readValue fuel (print layout depth json ++ rest) = some (json,rest)

theorem items_opening {items : List Json} (filled : items ≠ []) (whole : ∀ item ∈ items, item.Whole)
    (layout : Layout) (depth : Nat) : Opening (layout.row depth (printItems layout depth items)) := by
  obtain ⟨item,rest,rfl⟩ := List.exists_cons_of_ne_nil filled
  exact row_opening (print_opening layout depth (whole item List.mem_cons_self)) layout depth _

theorem members_opening {members : List (Text × Json)} (filled : members ≠ []) (layout : Layout)
    (depth : Nat) : Opening (layout.row depth (printMembers layout depth members)) := by
  obtain ⟨⟨name,value⟩,rest,rfl⟩ := List.exists_cons_of_ne_nil filled
  have named : Opening (printMember layout depth (name,value)) := by
    rw [printMember,List.append_assoc]
    exact (quote_opening name).append _
  exact row_opening named layout depth _

theorem readItems_last {fuel : Nat} {text blank rest : Text} {item : Json}
    (read : readValue fuel text = some (item,blank)) (closed : skipSpace blank = ']' :: rest) :
    readItems (fuel + 1) text = some ([item],rest) := by
  simp only [readItems,read,Option.bind_eq_bind,Option.bind_some,closed]

theorem readItems_more {fuel : Nat} {text blank rest : Text} {item : Json} {items : List Json}
    (read : readValue fuel text = some (item,',' :: blank))
    (later : readItems fuel (skipSpace blank) = some (items,rest)) :
    readItems (fuel + 1) text = some (item :: items,rest) := by
  have comma : skipSpace (',' :: blank) = ',' :: blank := List.dropWhile_cons_of_neg (by decide)
  simp only [readItems,read,Option.bind_eq_bind,Option.bind_some,comma,later]
  rfl

-- What is read of a member before the character behind its value is looked at.
def ReadsMember (fuel : Nat) (text : Text) (member : Text × Json) (rest : Text) : Prop :=
  ∃ quoted colon blank, text = '"' :: quoted ∧ readQuoted fuel quoted = some (member.1,colon) ∧
    skipSpace colon = ':' :: blank ∧ readValue fuel (skipSpace blank) = some (member.2,rest)

theorem readMembers_last {fuel : Nat} {text blank rest : Text} {member : Text × Json}
    (read : ReadsMember fuel text member blank) (closed : skipSpace blank = '\x7d' :: rest) :
    readMembers (fuel + 1) text = some ([member],rest) := by
  obtain ⟨quoted,colon,value,rfl,name,colonRead,valueRead⟩ := read
  simp only [readMembers,after?,if_true,Option.bind_eq_bind,Option.bind_some,name,colonRead,valueRead,
    closed]

theorem readMembers_more {fuel : Nat} {text blank rest : Text} {member : Text × Json}
    {members : List (Text × Json)} (read : ReadsMember fuel text member (',' :: blank))
    (later : readMembers fuel (skipSpace blank) = some (members,rest)) :
    readMembers (fuel + 1) text = some (member :: members,rest) := by
  have comma : skipSpace (',' :: blank) = ',' :: blank := List.dropWhile_cons_of_neg (by decide)
  obtain ⟨quoted,colon,value,rfl,name,colonRead,valueRead⟩ := read
  simp only [readMembers,after?,if_true,Option.bind_eq_bind,Option.bind_some,name,colonRead,valueRead,
    comma,later]
  rfl

theorem readsMember_printed {layout : Layout} {depth : Nat} {member : Text × Json}
    (whole : member.2.Whole) (read : Reads layout depth member.2) {fuel : Nat}
    (room : 2 * (printMember layout depth member).length ≤ fuel) {rest : Text} (apart : Apart rest) :
    ReadsMember fuel (printMember layout depth member ++ rest) member rest := by
  obtain ⟨name,value⟩ := member
  dsimp only at whole read
  have width := length_quote name
  rw [printMember,List.length_append,List.length_append] at room
  obtain ⟨blank,colon,skipped⟩ := skipSpace_colon layout (print layout depth value ++ rest)
  refine ⟨name.flatMap escapeChar ++ '"' :: (layout.colon ++ (print layout depth value ++ rest)),_,blank,
    ?_,readQuoted_quoted name _ (by omega),?_,?_⟩
  · simp [printMember,quote]
  · rw [colon]
    exact List.dropWhile_cons_of_neg (by decide)
  · rw [skipped,((print_opening layout depth whole).append rest).skip]
    exact read fuel rest (by omega) apart

theorem readItems_printed {layout : Layout} {depth : Nat} {items : List Json} (filled : items ≠ [])
    (whole : ∀ item ∈ items, item.Whole) (each : ∀ item ∈ items, Reads layout depth item)
    (below : Nat) (rest : Text) {fuel : Nat} (room : 2 * (layout.row depth (printItems layout depth items)).length < fuel) :
    readItems fuel (layout.row depth (printItems layout depth items) ++
      (layout.newLine below ++ ']' :: rest)) = some (items,rest) := by
  induction items generalizing fuel with
  | nil => exact absurd rfl filled
  | cons item items ih =>
    obtain ⟨fuel,rfl⟩ := Nat.exists_eq_add_one_of_ne_zero (Nat.ne_zero_of_lt room)
    have first := each item List.mem_cons_self
    cases items with
    | nil =>
      rw [printItems,printItems,row_single] at room ⊢
      refine readItems_last (first fuel _ (by omega) (newLine_apart layout below (.inl rfl) rest)) ?_
      exact skipSpace_newLine layout below (']' :: rest)
    | cons next items =>
      rw [printItems,printItems,row_cons,← printItems] at room ⊢
      simp only [List.length_append,List.length_cons] at room
      have tail : ∀ other ∈ next :: items, other.Whole :=
        fun other member => whole other (List.mem_cons_of_mem _ member)
      have opening := items_opening (List.cons_ne_nil _ _) tail layout depth
      have later := ih (List.cons_ne_nil _ _) tail
        (fun other member => each other (List.mem_cons_of_mem _ member)) (show _ < fuel by omega)
      rw [List.append_assoc,List.cons_append,List.append_assoc]
      refine readItems_more (first fuel _ (by omega) (apart_closing (.inl rfl) _)) ?_
      rw [skipSpace_newLine,(opening.append _).skip]
      exact later

theorem readMembers_printed {layout : Layout} {depth : Nat} {members : List (Text × Json)}
    (filled : members ≠ []) (whole : ∀ member ∈ members, member.2.Whole)
    (each : ∀ member ∈ members, Reads layout depth member.2) (below : Nat) (rest : Text) {fuel : Nat}
    (room : 2 * (layout.row depth (printMembers layout depth members)).length < fuel) :
    readMembers fuel (layout.row depth (printMembers layout depth members) ++
      (layout.newLine below ++ '\x7d' :: rest)) = some (members,rest) := by
  induction members generalizing fuel with
  | nil => exact absurd rfl filled
  | cons member members ih =>
    obtain ⟨fuel,rfl⟩ := Nat.exists_eq_add_one_of_ne_zero (Nat.ne_zero_of_lt room)
    have value := whole member List.mem_cons_self
    have first := each member List.mem_cons_self
    cases members with
    | nil =>
      rw [printMembers,printMembers,row_single] at room ⊢
      refine readMembers_last (readsMember_printed value first (by omega)
        (newLine_apart layout below (.inr rfl) rest)) ?_
      exact skipSpace_newLine layout below ('\x7d' :: rest)
    | cons next members =>
      rw [printMembers,printMembers,row_cons,← printMembers] at room ⊢
      simp only [List.length_append,List.length_cons] at room
      have opening := members_opening (List.cons_ne_nil next members) layout depth
      have later := ih (List.cons_ne_nil _ _) (fun other inside => whole other (List.mem_cons_of_mem _ inside))
        (fun other inside => each other (List.mem_cons_of_mem _ inside)) (show _ < fuel by omega)
      rw [List.append_assoc,List.cons_append,List.append_assoc]
      refine readMembers_more (readsMember_printed value first (by omega) (apart_closing (.inl rfl) _)) ?_
      rw [skipSpace_newLine,(opening.append _).skip]
      exact later

theorem readValue_digit (fuel : Nat) {c : Char} (digit : c.isDigit = true) (text : Text) :
    readValue (fuel + 1) (c :: text) = readNumber? (c :: text) := by
  rw [readValue,if_neg (digit_ne digit (by decide)),if_neg (digit_ne digit (by decide)),
    if_neg (digit_ne digit (by decide)),if_pos (.inr digit)]

theorem readValue_items {fuel : Nat} {text rest : Text} {items : List Json} (opening : Opening text)
    (read : readItems fuel text = some (items,rest)) (layout : Layout) (depth : Nat) :
    readValue (fuel + 1) ('[' :: (layout.newLine depth ++ text)) = some (array items,rest) := by
  have skipped : skipSpace (layout.newLine depth ++ text) = text := by
    rw [skipSpace_newLine,opening.skip]
  obtain ⟨c,more,rfl,_,open?,_⟩ := opening
  rw [readValue,if_neg (by decide),if_pos rfl,skipped]
  split
  · rename_i same
    exact absurd (List.cons.inj same).1 open?
  · rw [read]
    rfl

theorem readValue_members {fuel : Nat} {text rest : Text} {members : List (Text × Json)}
    (opening : Opening text) (read : readMembers fuel text = some (members,rest)) (layout : Layout)
    (depth : Nat) : readValue (fuel + 1) ('\x7b' :: (layout.newLine depth ++ text)) =
      some (object members,rest) := by
  have skipped : skipSpace (layout.newLine depth ++ text) = text := by
    rw [skipSpace_newLine,opening.skip]
  obtain ⟨c,more,rfl,_,_,open?⟩ := opening
  rw [readValue,if_neg (by decide),if_neg (by decide),if_pos rfl,skipped]
  split
  · rename_i same
    exact absurd (List.cons.inj same).1 open?
  · rw [read]
    rfl

theorem readValue_quote {fuel : Nat} (text rest : Text) (room : text.length < fuel) :
    readValue (fuel + 1) (quote text ++ rest) = some (string text,rest) := by
  have whole : quote text ++ rest = '"' :: (text.flatMap escapeChar ++ '"' :: rest) := by simp [quote]
  rw [whole,readValue,if_pos rfl,readQuoted_quoted text rest room]
  rfl

-- Something is printed for every value, so there is a step to read it with.
theorem reads_step {layout : Layout} {depth : Nat} {json : Json} (whole : json.Whole)
    (step : ∀ fuel rest, 2 * (print layout depth json).length ≤ fuel + 1 → Apart rest →
      readValue (fuel + 1) (print layout depth json ++ rest) = some (json,rest)) :
    Reads layout depth json := by
  intro fuel rest room apart
  cases fuel with
  | zero =>
    obtain ⟨c,more,begins,_⟩ := print_opening layout depth whole
    rw [begins,List.length_cons] at room
    omega
  | succ fuel => exact step fuel rest room apart

theorem readValue_print (layout : Layout) {json : Json} (whole : json.Whole) (depth : Nat) :
    Reads layout depth json := by
  induction whole generalizing depth with
  | null =>
    refine reads_step .null ?_
    intro fuel rest room apart
    rfl
  | bool value =>
    refine reads_step (.bool value) ?_
    intro fuel rest room apart
    cases value <;> rfl
  | number value =>
    refine reads_step (.number value) ?_
    intro fuel rest room apart
    obtain ⟨c,digits,cut⟩ := List.exists_cons_of_ne_nil (decimal_ne_nil value)
    have digit : c.isDigit = true := decimal_digits value c (by simp [cut])
    rw [print,cut,List.cons_append,readValue_digit fuel digit,← List.cons_append,← cut]
    exact readNumber?_decimal value apart
  | string value =>
    refine reads_step (.string value) ?_
    intro fuel rest room apart
    have width := length_quote value
    rw [print] at room
    exact readValue_quote value rest (by omega)
  | @array items whole ih =>
    refine reads_step (.array whole) ?_
    intro fuel rest room apart
    cases items with
    | nil => rfl
    | cons item items =>
      have filled := List.cons_ne_nil item items
      rw [print,printItems,enclose_cons,← printItems] at room ⊢
      simp only [List.length_append,List.length_cons,List.length_nil] at room
      simp only [List.cons_append,List.append_assoc,List.nil_append]
      have each := fun other member => ih other member (depth + 1)
      have read := readItems_printed filled whole each depth rest (show _ < fuel by omega)
      exact readValue_items ((items_opening filled whole layout _).append _) read layout _
  | @object members whole ih =>
    refine reads_step (.object whole) ?_
    intro fuel rest room apart
    cases members with
    | nil => rfl
    | cons member members =>
      have filled := List.cons_ne_nil member members
      rw [print,printMembers,enclose_cons,← printMembers] at room ⊢
      simp only [List.length_append,List.length_cons,List.length_nil] at room
      simp only [List.cons_append,List.append_assoc,List.nil_append]
      have each := fun other member => ih other member (depth + 1)
      have read := readMembers_printed filled whole each depth rest (show _ < fuel by omega)
      exact readValue_members ((members_opening filled layout _).append _) read layout _

theorem parse?_render (layout : Layout) {json : Json} (whole : json.Whole) :
    parse? (json.render layout) = some json := by
  have opening := print_opening layout 0 whole
  have read := readValue_print layout whole 0 (2 * (json.render layout).length + 2) []
    (Nat.le_add_right _ _) (fun _ none => by cases none)
  rw [List.append_nil] at read
  rw [parse?,render,opening.skip]
  rw [render] at read
  rw [read]
  rfl

theorem printItems_map (layout : Layout) (depth : Nat) (items : List Json) :
    printItems layout depth items = items.map (print layout depth) := by
  induction items with
  | nil => rfl
  | cons item items ih => rw [printItems,ih,List.map_cons]

theorem printMembers_map (layout : Layout) (depth : Nat) (members : List (Text × Json)) :
    printMembers layout depth members = members.map (printMember layout depth) := by
  induction members with
  | nil => rfl
  | cons member members ih => rw [printMembers,ih,List.map_cons]

theorem Printable.append {left right : Text} (first : Printable left) (second : Printable right) :
    Printable (left ++ right) := List.forall_mem_append.mpr ⟨first,second⟩

theorem enclose_printable {opening closing : Char} (depth : Nat) {parts : List Text}
    (first : Printable [opening]) (last : Printable [closing])
    (each : ∀ part ∈ parts, Printable part) :
    Printable (Layout.enclose .compact depth opening closing parts) := by
  cases parts with
  | nil => exact first.append last
  | cons part parts =>
    have inner : Printable (Layout.compact.row (depth + 1) (part :: parts)) := by
      intro c member
      by_contra control
      have comma : c ∉ [','] := by
        intro same
        rw [List.mem_singleton.mp same] at control
        exact control (by decide)
      refine join_avoids comma ?_ member
      intro part inside member
      exact control (each part inside c member)
    rw [enclose_cons]
    exact first.append (inner.append last)

-- Compact text is a single line, as every control character of a string is written by an escape.
theorem print_printable {json : Json} (whole : json.Whole) (depth : Nat) :
    Printable (print .compact depth json) := by
  induction whole generalizing depth with
  | null => exact (by decide : Printable "null".toList)
  | bool value =>
    cases value with
    | false => exact (by decide : Printable "false".toList)
    | true => exact (by decide : Printable "true".toList)
  | number value =>
    intro c member
    have digit := (Char.isDigit_iff_toNat.mp (decimal_digits value c member)).1
    exact Nat.le_trans (by decide) digit
  | string value => exact quote_printable value
  | @array items whole ih =>
    refine enclose_printable depth (by decide) (by decide) ?_
    rw [printItems_map]
    intro part member
    obtain ⟨item,inside,rfl⟩ := List.mem_map.mp member
    exact ih item inside (depth + 1)
  | @object members whole ih =>
    refine enclose_printable depth (by decide) (by decide) ?_
    rw [printMembers_map]
    intro part member
    obtain ⟨⟨name,value⟩,inside,rfl⟩ := List.mem_map.mp member
    rw [printMember]
    exact ((quote_printable name).append (by decide)).append (ih _ inside (depth + 1))

end SpecLint.Json
