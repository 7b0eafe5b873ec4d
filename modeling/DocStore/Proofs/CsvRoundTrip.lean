import DocStore.Proofs.CsvRows
import DocStore.Proofs.JsonRoundTrip

/-!
# Collections come back from their rows

A cell gives its value back when nothing else has the same text, and a row gives its
record back in the order of the names above it.  So collections whose cells are of that
kind are read back as they were written, up to the order of the fields of a record.
-/

namespace DocStore

/-! ### Cells -/

theorem trimBlanks_cons {c : Char} (dark : isBlank c = false) (more : List Char) :
    ∃ rest, trimBlanks (c :: more) = c :: rest := by
  rw [trimBlanks, List.dropWhile_cons_of_neg (by simp [dark]), List.reverse_cons,
    List.dropWhile_append]
  split
  · exact ⟨[], by simp [dark]⟩
  · exact ⟨_, by rw [List.reverse_append]; rfl⟩

theorem splitSign_text (n : Integer) :
    splitSign n.text.toList = (decide (n.val < 0), Nat.toDigits 10 n.val.natAbs) := by
  by_cases negative : n.val < 0
  · simp [Integer.text, negative, splitSign]
  · obtain ⟨first, others, digits, isDigit⟩ := exists_toDigits_eq_cons n.val.natAbs
    simp [Integer.text, negative, digits, splitSign, ne_sign_of_isDigit isDigit]

theorem readInt64?_text (n : Integer) :
    readInt64? n.text.toList = if n.isSigned then some n else none := by
  have fits : Integer.ofInt? n.val = some n := by
    simp [Integer.ofInt?, n.fits]
  have val : (if decide (n.val < 0) = true then -(n.val.natAbs : Int) else n.val.natAbs) =
      n.val := by
    split_ifs with negative
    all_goals
      simp only [decide_eq_true_eq] at negative
      omega
  simp only [readInt64?, splitSign_text, readNatural?_toDigits, Option.bind_eq_bind,
    Option.bind_some, val, fits]

theorem isBlank_text {n : Integer} {c : Char} (member : c ∈ n.text.toList) :
    isBlank c = false := by
  unfold Integer.text at member
  split_ifs at member
  · simp only [String.toList_append, String.toList_ofList, List.mem_append] at member
    rcases member with sign | digit
    · obtain rfl : c = '-' := by simpa using sign
      rfl
    · exact isBlank_digit (isDigit_toDigits digit)
  · exact isBlank_digit (isDigit_toDigits (by simpa using member))

/-- The text of a signed integer is typed back as it. -/
theorem Json.readNumber?_text {n : Integer} (signed : n.isSigned = true) :
    Json.readNumber? n.text = some (.int n) := by
  rw [readNumber?, trimBlanks_eq_self fun c member => isBlank_text member]
  simp only [readInt64?_text, signed, if_true]

/-- Whether a number is an integer of a signed word. -/
def Number.IsSigned : Number → Prop
  | .int n => n.isSigned = true
  | .double _ => False

theorem Number.IsSigned.isInteger {n : Number} (signed : n.IsSigned) : n.IsInteger := by
  cases n with
  | int n => trivial
  | double x => exact signed.elim

section Opening

variable {c : Char} (opening : c = '\x7b' ∨ c = '[' ∨ c = '"') (rest : List Char)
include opening

theorem readInt64?_opening : readInt64? (c :: rest) = none := by
  rcases opening with rfl | rfl | rfl <;> rfl

theorem Binary64.read?_opening : Binary64.read? (c :: rest) = none := by
  have opened : splitSign (c :: rest) = (false, c :: rest) := by
    rcases opening with rfl | rfl | rfl <;> rfl
  have unnamed : Binary64.named? false (String.ofList ((c :: rest).map Char.toLower)) = none := by
    have letter : c.toLower ≠ 'i' ∧ c.toLower ≠ 'n' := by
      rcases opening with rfl | rfl | rfl <;> decide
    simp [Binary64.named?, String.ext_iff, letter]
  have notDigit : isDigit c = false := by
    rcases opening with rfl | rfl | rfl <;> rfl
  have notPoint : c ≠ '.' := by
    rcases opening with rfl | rfl | rfl <;> decide
  have noWhole : (c :: rest).takeWhile isDigit = [] := by simp [notDigit]
  have stays : (c :: rest).dropWhile isDigit = c :: rest := by simp [notDigit]
  simp only [Binary64.read?, opened, unnamed, noWhole, stays]
  simp [notPoint]

/-- A text that opens with a bracket, a brace or a quote is no number. -/
theorem Json.readNumber?_opening {text : String} {before : List Char}
    (blanks : ∀ c ∈ before, isBlank c = true) (opens : text.toList = before ++ c :: rest) :
    Json.readNumber? text = none := by
  have dark : isBlank c = false := by
    rcases opening with rfl | rfl | rfl <;> rfl
  obtain ⟨more, trimmed⟩ := trimBlanks_cons dark rest
  have behind : trimBlanks text.toList = c :: more := by
    rw [opens, trimBlanks, List.dropWhile_append_of_pos blanks, ← trimmed, trimBlanks]
  simp [Json.readNumber?, behind, readInt64?_opening opening, Binary64.read?_opening opening]

end Opening

namespace Csv

/-- What a string has to be so that its cell is read as a string: nothing else, and
not the opening of a section. -/
structure KeepsText (text : String) : Prop where
  written : text ≠ ""
  unmarked : ¬ marker.toList <+: text.toList
  notTrue : text ≠ "true"
  notFalse : text ≠ "false"
  notNumber : Json.readNumber? text = none
  notJson : ['\x7b'] <+: text.toList ∨ ['['] <+: text.toList → Json.read? text = none

/-- What is read from the cell of a value. -/
structure GivesBack (cell : Rows.Cell) (value : Json) : Prop where
  written : cell ≠ []
  unmarked : ¬ marker.toList <+: cell
  back : valueOf cell = value

theorem unmarked_cons {c : Char} (other : c ≠ '#') (more : List Char) :
    ¬ marker.toList <+: c :: more := by
  have begins : ∃ behind, marker.toList = '#' :: behind := ⟨_, rfl⟩
  obtain ⟨behind, text⟩ := begins
  rw [text, List.cons_prefix_cons]
  exact fun marked => other marked.1.symm

theorem ofList_cons_ne {c : Char} (more : List Char) (other : c ≠ 't' ∧ c ≠ 'f') :
    String.ofList (c :: more) ≠ "true" ∧ String.ofList (c :: more) ≠ "false" := by
  simp [String.ext_iff, other]

/-- What is read from the cell of an integer is the number that its text is typed as. -/
theorem givesBack_typed {n : Integer} {m : Number} (typed : Json.readNumber? n.text = some m) :
    GivesBack (cellOf (some (.number (.int n)))) (.number m) := by
  obtain ⟨c, more, text, begins⟩ := n.exists_text_cons
  have cell : cellOf (some (.number (.int n))) = c :: more := text
  have others : c ≠ '#' ∧ c ≠ 't' ∧ c ≠ 'f' := by
    refine ⟨?_, ?_, ?_⟩ <;>
      · rintro rfl
        exact absurd begins (by decide)
  have whole : String.ofList (c :: more) = n.text := by rw [← text, String.ofList_toList]
  have words := ofList_cons_ne more others.2
  rw [cell]
  refine ⟨List.cons_ne_nil _ _, unmarked_cons others.1 more, ?_⟩
  simp only [valueOf, words, if_false]
  rw [whole, typed]

theorem givesBack_text {text : String} (keeps : KeepsText text) :
    GivesBack (cellOf (some (.string text))) (.string text) := by
  refine ⟨?_, keeps.unmarked, ?_⟩
  · intro unwritten
    exact keeps.written (String.toList_eq_nil_iff.1 unwritten)
  · simp only [valueOf, cellOf, String.ofList_toList, keeps.notTrue, keeps.notFalse, if_false,
      keeps.notNumber]
    split
    · rename_i more opened
      rw [keeps.notJson (.inl ⟨more, opened.symm⟩), Option.getD_none]
    · rename_i more opened
      rw [keeps.notJson (.inr ⟨more, opened.symm⟩), Option.getD_none]
    · rfl

theorem givesBack_bracket {c : Char} (bracket : c = '\x7b' ∨ c = '[') {more : List Char}
    {value : Json} (read : Json.read? (String.ofList (c :: more)) = some value) :
    GivesBack (c :: more) value := by
  have others : c ≠ '#' ∧ c ≠ 't' ∧ c ≠ 'f' := by
    rcases bracket with rfl | rfl <;> decide
  have words := ofList_cons_ne more others.2
  refine ⟨List.cons_ne_nil _ _, unmarked_cons others.1 more, ?_⟩
  have opening : c = '\x7b' ∨ c = '[' ∨ c = '"' := bracket.imp_right .inl
  have noNumber : Json.readNumber? (String.ofList (c :: more)) = none :=
    @Json.readNumber?_opening c opening more _ [] (by simp) String.toList_ofList
  simp only [valueOf, words, if_false, noNumber]
  rcases bracket with rfl | rfl <;> simp only [read, Option.getD_some]

theorem givesBack_cellOf {value : Json} (distinct : value.DistinctNames)
    (numbers : value.NumbersIn Number.IsSigned) (shallow : value.nesting < 100)
    (notNull : value ≠ .null) (texts : ∀ text, value = .string text → KeepsText text) :
    GivesBack (cellOf (some value)) value := by
  have read := Json.read?_compact (numbers.mono fun _ => Number.IsSigned.isInteger)
    (le_trans (Nat.le_of_lt shallow) (by decide)) distinct
  cases value with
  | null => exact absurd rfl notNull
  | bool value => cases value <;> exact ⟨by decide, by decide, rfl⟩
  | number n => cases n with
    | int n => exact givesBack_typed (Json.readNumber?_text numbers)
    | double x => exact numbers.elim
  | string text => exact givesBack_text (texts text rfl)
  | array items =>
    rw [Json.compact, Json.compactChars] at read
    exact givesBack_bracket (.inr rfl) read
  | object fields =>
    rw [Json.compact, Json.compactChars] at read
    exact givesBack_bracket (.inl rfl) read

/-! ### Records -/

theorem nodup_eraseDups (names : List String) : names.eraseDups.Nodup := by
  induction fewer : names.length using Nat.strong_induction_on generalizing names with
  | _ n ih =>
      cases names with
      | nil => simp
      | cons name rest =>
          rw [List.eraseDups_cons]
          refine List.nodup_cons.2 ⟨?_, ih _ ?_ _ rfl⟩
          · simp [List.mem_eraseDups]
          · have kept := List.length_filter_le (fun other => !other == name) rest
            simp only [← fewer, List.length_cons]
            omega

theorem nodup_header (records : List Record) : (header records).Nodup :=
  nodup_eraseDups _

theorem mem_header {records : List Record} {name : String} :
    name ∈ header records ↔ ∃ record ∈ records, name ∈ record.map Prod.fst := by
  simp [header, Fields.names, List.mem_eraseDups]

/-- The fields of a record in the order of some names. -/
def inOrder (names : List String) (record : Record) : Record :=
  names.filterMap fun name => (Fields.get? name record).map fun value => (name, value)

section InOrder

variable {names : List String} {record : Record}

theorem mem_inOrder {name : String} {value : Json} :
    (name, value) ∈ inOrder names record ↔
      name ∈ names ∧ Fields.get? name record = some value := by
  simp only [inOrder, List.mem_filterMap, Option.map_eq_some_iff, Prod.mk.injEq]
  constructor
  · rintro ⟨_, member, _, found, rfl, rfl⟩
    exact ⟨member, found⟩
  · rintro ⟨member, found⟩
    exact ⟨name, member, value, found, rfl, rfl⟩

theorem names_inOrder :
    (inOrder names record).map Prod.fst = names.filter (Fields.has · record) := by
  induction names with
  | nil => rfl
  | cons name rest ih =>
      cases found : Fields.get? name record <;>
        simp_all [inOrder, Fields.has]

theorem nodup_inOrder (nodup : names.Nodup) : ((inOrder names record).map Prod.fst).Nodup := by
  rw [names_inOrder]
  exact nodup.filter _

/-- Names that cover the record's own leave no field out. -/
theorem inOrder_perm (nodup : names.Nodup) (recordNodup : (record.map Prod.fst).Nodup)
    (covers : ∀ name ∈ record.map Prod.fst, name ∈ names) :
    (inOrder names record).Perm record := by
  refine (List.perm_ext_iff_of_nodup (nodup_inOrder nodup).of_map recordNodup.of_map).2 ?_
  rintro ⟨name, value⟩
  rw [mem_inOrder]
  constructor
  · exact fun ⟨_, found⟩ => Fields.mem_of_get? found
  · intro member
    exact ⟨covers name (List.mem_map_of_mem member), Fields.get?_of_mem recordNodup member⟩

/-- The cells of a record under some names. -/
def cells (names : List String) (record : Record) : List Rows.Cell :=
  names.map fun name => cellOf (Fields.get? name record)

/-- The value that a record has from a cell, if it is not left out. -/
def readCell? (cell : Rows.Cell) : Option Json :=
  if cell.isEmpty then none else some (valueOf cell)

theorem GivesBack.readCell? {cell : Rows.Cell} {value : Json} (back : GivesBack cell value) :
    readCell? cell = some value := by
  simp [Csv.readCell?, back.written, back.back]

/-- A record with every value as it is read from its cell. -/
def retyped (record : Record) : Record :=
  record.filterMap fun field => (readCell? (cellOf (some field.2))).map (Prod.mk field.1)

theorem names_retyped_sublist (record : Record) :
    ((retyped record).map Prod.fst).Sublist (record.map Prod.fst) := by
  rw [retyped]
  induction record with
  | nil => exact .slnil
  | cons field rest ih =>
      rw [List.filterMap_cons]
      cases readCell? (cellOf (some field.2)) with
      | none => exact ih.cons _
      | some value => exact ih.cons_cons _

theorem get?_retyped (distinct : (record.map Prod.fst).Nodup) (name : String) :
    Fields.get? name (retyped record) = readCell? (cellOf (Fields.get? name record)) := by
  induction record with
  | nil => rfl
  | cons field rest ih =>
      obtain ⟨other, value⟩ := field
      obtain ⟨fresh, distinctRest⟩ := List.nodup_cons.1 distinct
      have inRest := ih distinctRest
      by_cases here : other = name
      · subst here
        have absent : Fields.get? other rest = none := by
          by_contra found
          exact fresh (Fields.has_iff.1 (Option.isSome_iff_ne_none.2 found))
        have noneRead : Fields.get? other (retyped rest) = none := by
          rw [inRest, absent]
          rfl
        cases read : readCell? (cellOf (some value)) with
        | none => simpa [retyped, Fields.get?, read] using noneRead
        | some value => simp [retyped, Fields.get?, read]
      · cases read : readCell? (cellOf (some value)) <;>
          simpa [retyped, Fields.get?, here, read] using inRest

theorem retyped_eq_self
    (givesBack : ∀ field ∈ record, GivesBack (cellOf (some field.2)) field.2) :
    retyped record = record := by
  rw [retyped, List.filterMap_congr fun field member => by rw [(givesBack field member).readCell?]]
  exact List.filterMap_some

theorem recordOf_cells (distinct : (record.map Prod.fst).Nodup) (nodup : names.Nodup) :
    recordOf names (cells names record) = inOrder names (retyped record) := by
  have given : ((names.zip (cells names record)).filter fun pair => !pair.2.isEmpty).map
      (fun pair => (pair.1, valueOf pair.2)) = inOrder names (retyped record) := by
    clear nodup
    induction names with
    | nil => rfl
    | cons name rest ih =>
        cases empty : (cellOf (Fields.get? name record)).isEmpty <;>
          simp_all [cells, inOrder, get?_retyped distinct, readCell?]
  exact (congrArg Fields.ofList given).trans (Fields.ofList_eq_self (nodup_inOrder nodup))

variable (unmarked : ∀ field ∈ record, ¬ marker.toList <+: cellOf (some field.2))
include unmarked

theorem unmarked_cells : ∀ cell ∈ cells names record, ¬ marker.toList <+: cell := by
  intro cell member
  obtain ⟨name, -, rfl⟩ := List.mem_map.1 member
  cases found : Fields.get? name record with
  | none => decide
  | some value => exact unmarked (name, value) (Fields.mem_of_get? found)

end InOrder

/-! ### Rows -/

theorem trim_blank_append (name : String) : trim (" " ++ name) = trim name := by
  simp [trim, trimBlanks, isBlank]

theorem opens?_opening {name : String} (trimmed : trim name = name) :
    opens? [(marker ++ " " ++ name).toList] = some name := by
  have chars : (marker ++ " " ++ name).toList = marker.toList ++ (" " ++ name).toList := by
    rw [String.append_assoc, String.toList_append]
  have prefixed : marker.toList.isPrefixOf (marker.toList ++ (" " ++ name).toList) = true :=
    List.isPrefixOf_iff_prefix.2 (List.prefix_append _ _)
  rw [opens?, afterStart?, String.toList_ofList, chars, if_pos prefixed, List.drop_left,
    String.ofList_toList, Option.map_some, trim_blank_append, trimmed]

theorem opens?_completed {cells : List Rows.Cell}
    (unmarked : ∀ cell ∈ cells, ¬ marker.toList <+: cell) :
    opens? (Rows.completed cells) = none := by
  match cells with
  | [] => rfl
  | [cell] =>
      have notPrefixed : ¬ marker.toList.isPrefixOf cell = true := fun prefixed =>
        unmarked cell List.mem_cons_self (List.isPrefixOf_iff_prefix.1 prefixed)
      simp [Rows.completed, opens?, afterStart?, notPrefixed]
  | _ :: _ :: _ => rfl

theorem readRows_opening {name : String} (trimmed : trim name = name) {collections : Collections}
    (absent : collections.get? name = none) (position : Position) (line : Nat)
    (rest : List (List Rows.Cell)) :
    readRows collections position line ([(marker ++ " " ++ name).toList] :: rest) =
      readRows (collections.insert name []) (.opened name) (line + 1) rest := by
  have opened : collections.modify name [] id = collections.insert name [] := by
    rw [SortedMap.modify, absent]
    rfl
  rw [readRows.eq_def]
  simp only [opens?_opening trimmed, opened]

theorem readRows_names {row : List Rows.Cell} (unopened : opens? row = none)
    (collections : Collections) (name : String) (line : Nat) (rest : List (List Rows.Cell)) :
    readRows collections (.opened name) line (row :: rest) =
      readRows collections (.inside name (row.map fun cell => trim (String.ofList cell)))
        (line + 1) rest := by
  rw [readRows, unopened]

/-- Rows that open no section are records of the present one. -/
theorem readRows_inside {rows : List (List Rows.Cell)}
    (unopened : ∀ row ∈ rows, opens? row = none)
    (collections : Collections) (name : String) (names : List String) (done : List Record)
    (line : Nat) (more : List (List Rows.Cell)) :
    readRows (collections.insert name done) (.inside name names) line (rows ++ more) =
      readRows (collections.insert name (done ++ rows.map (recordOf names)))
        (.inside name names) (line + rows.length) more := by
  induction rows generalizing done line with
  | nil => simp
  | cons row rest ih =>
      have others := ih (fun other member => unopened other (List.mem_cons_of_mem _ member))
        (done ++ [recordOf names row]) (line + 1)
      rw [List.cons_append, readRows, unopened row List.mem_cons_self]
      simp only [SortedMap.modify_insert, others, List.map_cons, List.append_assoc,
        List.singleton_append, List.length_cons]
      rw [Nat.add_right_comm, Nat.add_assoc]

/-- The names that the reader takes from the row of some names.  Where there are none it
takes a single empty one, whose cells are empty too. -/
def namesRead (names : List String) : List String :=
  (Rows.completed (names.map String.toList)).map fun cell => trim (String.ofList cell)

theorem namesRead_cons {name : String} {rest : List String}
    (trimmed : ∀ one ∈ name :: rest, trim one = one) :
    namesRead (name :: rest) = name :: rest := by
  have full : Rows.completed ((name :: rest).map String.toList) =
      (name :: rest).map String.toList := rfl
  rw [namesRead, full, List.map_map]
  refine (List.map_congr_left fun one member => ?_).trans (List.map_id _)
  simpa using trimmed one member

theorem recordOf_completed {names : List String} {record : Record} (nodup : names.Nodup)
    (trimmed : ∀ name ∈ names, trim name = name) (distinct : (record.map Prod.fst).Nodup) :
    recordOf (namesRead names) (Rows.completed (cells names record)) =
      inOrder names (retyped record) := by
  cases names with
  | nil => rfl
  | cons name rest =>
      rw [namesRead_cons trimmed, ← recordOf_cells distinct nodup]
      rfl

/-! ### Sections -/

/-- What is asked of a record so that it can be read back from its row. -/
structure Keeps (record : Record) : Prop extends record.Exchangeable Number.IsSigned where
  trimmed : ∀ field ∈ record, trim field.1 = field.1
  unmarked : ∀ field ∈ record, ¬ marker.toList <+: field.1.toList
  notNull : ∀ field ∈ record, field.2 ≠ .null
  texts : ∀ field ∈ record, ∀ text, field.2 = .string text → KeepsText text

theorem Keeps.givesBack {record : Record} (keeps : Keeps record) :
    ∀ field ∈ record, GivesBack (cellOf (some field.2)) field.2 := by
  intro field member
  exact givesBack_cellOf ((Json.distinctNames_object.1 keeps.distinct).2 field.1 field.2 member)
    (Json.numbersIn_object.1 keeps.numbers field.1 field.2 member)
    (keeps.nesting field member) (keeps.notNull field member) (keeps.texts field member)

/-- What is asked of a record so that a row of cells can stand for it. -/
structure Tabular (record : Record) : Prop where
  distinct : (record.map Prod.fst).Nodup
  trimmed : ∀ field ∈ record, trim field.1 = field.1
  unmarked : ∀ field ∈ record, ¬ marker.toList <+: field.1.toList
  unmarkedCells : ∀ field ∈ record, ¬ marker.toList <+: cellOf (some field.2)

theorem Keeps.tabular {record : Record} (keeps : Keeps record) : Tabular record where
  distinct := (Json.distinctNames_object.1 keeps.distinct).1
  trimmed := keeps.trimmed
  unmarked := keeps.unmarked
  unmarkedCells field member := (keeps.givesBack field member).unmarked

/-- What is read from the rows of some records. -/
def readBack (records : List Record) : List Record :=
  records.map fun record => inOrder (header records) (retyped record)

section Sections

variable {name : String} {records : List Record} (tabular : ∀ record ∈ records, Tabular record)
include tabular

theorem header_clean : ∀ field ∈ header records,
    trim field = field ∧ ¬ marker.toList <+: field.toList := by
  intro name member
  obtain ⟨record, stored, named⟩ := mem_header.1 member
  obtain ⟨field, isField, rfl⟩ := List.mem_map.1 named
  have clean := tabular record stored
  exact ⟨clean.trimmed field isField, clean.unmarked field isField⟩

theorem forall₂_perm_retyped :
    List.Forall₂ (fun record back => (retyped record).Perm back) records (readBack records) := by
  refine List.forall₂_map_right_iff.2 (List.forall₂_same.2 fun record stored => ?_)
  have names := names_retyped_sublist record
  exact (inOrder_perm (nodup_header records) (names.nodup (tabular record stored).distinct)
    fun name member => mem_header.2 ⟨record, stored, names.subset member⟩).symm

theorem readRows_records (collections : Collections) (line : Nat)
    (more : List (List Rows.Cell)) :
    ∃ behind next,
      readRows (collections.insert name []) (.opened name) line
          (Rows.completed ((header records).map String.toList) ::
            (records.map (cells (header records))).map Rows.completed ++ more) =
        readRows (collections.insert name (readBack records)) behind next more := by
  have clean := header_clean tabular
  have namesUnopened : opens? (Rows.completed ((header records).map String.toList)) = none := by
    refine opens?_completed fun cell member => ?_
    obtain ⟨field, named, rfl⟩ := List.mem_map.1 member
    exact (clean field named).2
  have unopened : ∀ row ∈ (records.map (cells (header records))).map Rows.completed,
      opens? row = none := by
    intro row member
    obtain ⟨_, isRow, rfl⟩ := List.mem_map.1 member
    obtain ⟨record, stored, rfl⟩ := List.mem_map.1 isRow
    exact opens?_completed (unmarked_cells (tabular record stored).unmarkedCells)
  have read : ((records.map (cells (header records))).map Rows.completed).map
      (recordOf (namesRead (header records))) = readBack records := by
    rw [List.map_map, List.map_map]
    exact List.map_congr_left fun record stored =>
      recordOf_completed (nodup_header records) (fun field named => (clean field named).1)
        (tabular record stored).distinct
  have inside := readRows_inside unopened collections name (namesRead (header records)) []
    (line + 1) more
  rw [read] at inside
  exact ⟨_, _, (readRows_names namesUnopened _ name line _).trans inside⟩

/-- The reader takes a section from its opening row to its last record. -/
theorem readRows_section (trimmed : trim name = name) {collections : Collections}
    (absent : collections.get? name = none) (position : Position) (line : Nat)
    (more : List (List Rows.Cell)) :
    ∃ behind next,
      readRows collections position line ((sectionRows name records).map Rows.completed ++ more) =
        readRows (collections.insert name (readBack records)) behind next more := by
  have opening : Rows.completed [(marker ++ " " ++ name).toList] =
      [(marker ++ " " ++ name).toList] := rfl
  rw [sectionRows, List.map_cons, List.cons_append, opening,
    readRows_opening trimmed absent]
  split
  · rename_i none
    obtain rfl := List.isEmpty_iff.1 none
    exact ⟨_, _, rfl⟩
  · exact readRows_records tabular collections (line + 1) more

end Sections

/-- The sections are read one after the other, each into a collection of its own. -/
theorem readRows_tables (collections : Collections) (position : Position) (line : Nat)
    (entries : List (String × List Record))
    (increasing : entries.Pairwise (fun a b => a.1 < b.1))
    (above : ∀ entry ∈ entries, ∀ old ∈ collections.entries, old.1 < entry.1)
    (trimmed : ∀ entry ∈ entries, trim entry.1 = entry.1)
    (tabular : ∀ entry ∈ entries, ∀ record ∈ entry.2, Tabular record) :
    ∃ back,
      readRows collections position line
          ((entries.flatMap fun (name, records) => sectionRows name records).map
            Rows.completed) = .ok back ∧
        back.entries = collections.entries ++ entries.map fun (name, records) =>
          (name, readBack records) := by
  -- The names increase, so each section starts a collection behind all that are there.
  induction entries generalizing collections position line with
  | nil => exact ⟨collections, rfl, by simp⟩
  | cons entry rest ih =>
      obtain ⟨name, records⟩ := entry
      have last := above (name, records) List.mem_cons_self
      obtain ⟨first, increasingRest⟩ := List.pairwise_cons.1 increasing
      obtain ⟨behind, next, read⟩ := readRows_section (tabular (name, records) List.mem_cons_self)
        (trimmed (name, records) List.mem_cons_self)
        (SortedMap.get?_eq_none_of_forall_lt last) position line
        ((rest.flatMap fun (name, records) => sectionRows name records).map Rows.completed)
      have inserted : (collections.insert name (readBack records)).entries =
          collections.entries ++ [(name, readBack records)] :=
        SortedMap.place_of_forall_lt last
      have aboveRest : ∀ entry ∈ rest,
          ∀ old ∈ (collections.insert name (readBack records)).entries, old.1 < entry.1 := by
        intro entry member old isOld
        rw [inserted] at isOld
        rcases List.mem_append.1 isOld with older | isNew
        · exact above entry (List.mem_cons_of_mem _ member) old older
        · obtain rfl := List.mem_singleton.1 isNew
          exact first entry member
      obtain ⟨back, readRest, entries⟩ := ih _ behind next increasingRest aboveRest
        (fun entry member => trimmed entry (List.mem_cons_of_mem _ member))
        (fun entry member => tabular entry (List.mem_cons_of_mem _ member))
      refine ⟨back, ?_, ?_⟩
      · rw [List.flatMap_cons, List.map_append, read, readRest]
      · simp [entries, inserted]

section Exchangeable

variable {records : List Record} (keeps : ∀ record ∈ records, Keeps record)
include keeps

theorem readBack_eq : readBack records = records.map (inOrder (header records)) :=
  List.map_congr_left fun record stored => by rw [retyped_eq_self (keeps record stored).givesBack]

theorem forall₂_perm_inOrder :
    List.Forall₂ List.Perm records (records.map (inOrder (header records))) := by
  have retyped := forall₂_perm_retyped fun record stored => (keeps record stored).tabular
  rw [← readBack_eq keeps]
  refine ((List.forall₂_and_left _ _).2 ⟨keeps, retyped⟩).imp ?_
  rintro record back ⟨keeps, perm⟩
  rwa [retyped_eq_self keeps.givesBack] at perm

end Exchangeable

/-- Sections whose cells give their values back are read as they were, but for the order of
fields. -/
theorem readRows_sections (collections : Collections) (position : Position) (line : Nat)
    (entries : List (String × List Record))
    (increasing : entries.Pairwise (fun a b => a.1 < b.1))
    (above : ∀ entry ∈ entries, ∀ old ∈ collections.entries, old.1 < entry.1)
    (trimmed : ∀ entry ∈ entries, trim entry.1 = entry.1)
    (keeps : ∀ entry ∈ entries, ∀ record ∈ entry.2, Keeps record) :
    ∃ back,
      readRows collections position line
          ((entries.flatMap fun (name, records) => sectionRows name records).map
            Rows.completed) = .ok back ∧
        back.entries = collections.entries ++ entries.map fun (name, records) =>
          (name, records.map (inOrder (header records))) := by
  obtain ⟨back, read, same⟩ := readRows_tables collections position line entries increasing
    above trimmed fun entry member record stored => (keeps entry member record stored).tabular
  refine ⟨back, read, same.trans (congrArg _ (List.map_congr_left fun entry member => ?_))⟩
  exact congrArg (Prod.mk entry.1) (readBack_eq (keeps entry member))

/-- The text begins with a marker or a quote, never with a byte order mark. -/
theorem head?_write (collections : Collections) :
    (Rows.write (rows collections)).head? ≠ some '\uFEFF' := by
  cases entries : collections.entries with
  | nil => simp [rows, entries, Rows.write]
  | cons entry rest =>
      obtain ⟨name, records⟩ := entry
      obtain ⟨behind, text⟩ : ∃ behind, (marker ++ " " ++ name).toList = '#' :: behind :=
        ⟨_, by rw [String.append_assoc, String.toList_append]; rfl⟩
      simp only [rows, entries, List.flatMap_cons, sectionRows, text, List.cons_append,
        Rows.write, List.head?_append]
      rcases Rows.head?_writeRow '#' behind with head | head <;> simp [head]

end Csv

/-- The same collections with the same records in order, up to the order of the fields of
a record. -/
def Collections.Rearranged (collections back : Collections) : Prop :=
  List.Forall₂ (fun one other => one.1 = other.1 ∧ List.Forall₂ List.Perm one.2 other.2)
    collections.entries back.entries

/-- Collections whose cells can be told apart are read back from their CSV text, empty
ones and records without fields included, up to the order of the fields of a record. -/
theorem ExchangeFormat.read_csv_write (collections : Collections)
    (trimmed : ∀ entry ∈ collections.entries, trim entry.1 = entry.1)
    (keeps : ∀ entry ∈ collections.entries, ∀ record ∈ entry.2, Csv.Keeps record) :
    ∃ back, ExchangeFormat.csv.read (ExchangeFormat.csv.write collections) = .ok back ∧
      collections.Rearranged back := by
  obtain ⟨back, read, same⟩ := Csv.readRows_sections .empty .outside 1 collections.entries
    collections.increasing (fun _ _ _ isOld => absurd isOld List.not_mem_nil) trimmed keeps
  refine ⟨back, ?_, ?_⟩
  · calc ExchangeFormat.csv.read (ExchangeFormat.csv.write collections)
        = Csv.readRows .empty .outside 1
            (Rows.read (String.ofList (Rows.write (Csv.rows collections))).toList) := rfl
      _ = Csv.readRows .empty .outside 1 ((Csv.rows collections).map Rows.completed) := by
        rw [String.toList_ofList, Rows.read_write (Csv.head?_write collections)]
      _ = .ok back := read
  · rw [Collections.Rearranged, same]
    refine List.forall₂_map_right_iff.2 (List.forall₂_same.2 fun entry member => ⟨rfl, ?_⟩)
    exact Csv.forall₂_perm_inOrder (keeps entry member)

/-- An empty collection, records without fields, a single column with a missing cell, and
records whose fields come in different orders. -/
def mixedTables : Collections where
  entries := [
    ("", []),
    ("blank", [[], []]),
    ("one, \"two\"", [[("n", .number (.int ⟨9223372036854775807, by decide⟩))], [],
      [("n", .string "a \"q\",\r\nb")]]),
    ("two", [[("a", .bool true), ("b", .array [.object [("k", .null)]])],
      [("b", .string "[x"), ("a", .string " x ")]])]
  increasing := by decide

theorem ExchangeFormat.read_mixedTables :
    (∀ entry ∈ mixedTables.entries, trim entry.1 = entry.1) ∧
      (∀ entry ∈ mixedTables.entries, ∀ record ∈ entry.2, Csv.Keeps record) ∧
      ∃ back, ExchangeFormat.csv.read (ExchangeFormat.csv.write mixedTables) = .ok back ∧
        mixedTables.Rearranged back := by
  have trimmed : ∀ entry ∈ mixedTables.entries, trim entry.1 = entry.1 := by
    decide
  have keeps : ∀ entry ∈ mixedTables.entries, ∀ record ∈ entry.2, Csv.Keeps record := by
    have quoted : Csv.KeepsText "a \"q\",\r\nb" :=
      ⟨by decide, by decide, by decide, by decide, by decide, by decide⟩
    have bracketed : Csv.KeepsText "[x" :=
      ⟨by decide, by decide, by decide, by decide, by decide, fun _ => rfl⟩
    have padded : Csv.KeepsText " x " :=
      ⟨by decide, by decide, by decide, by decide, by decide, by decide⟩
    simp only [mixedTables, List.forall_mem_cons, List.not_mem_nil, false_implies,
      implies_true, and_true, true_and]
    and_intros
    all_goals refine ⟨⟨?_, ?_, ?_⟩, by decide, by decide, by simp, ?_⟩
    all_goals simp [Json.DistinctNames, Json.DistinctNames.DistinctNamesItems,
      Json.DistinctNames.DistinctNamesFields, Json.NumbersIn, Json.NumbersIn.NumbersInItems,
      Json.NumbersIn.NumbersInFields, Number.IsSigned, Integer.isSigned, Json.nesting,
      Json.nestingItems, Json.nestingFields, quoted, bracketed, padded]
  exact ⟨trimmed, keeps, read_csv_write mixedTables trimmed keeps⟩

end DocStore
