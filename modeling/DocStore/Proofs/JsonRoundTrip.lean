import DocStore.Interchange.Format
import DocStore.Proofs.CollectionLookup
import DocStore.Proofs.JsonSpelling
import DocStore.Proofs.ValueEquality

/-!
# Values come back from their texts

Both layouts of the writer are spellings of the value, so the reader gives the value
back, with the order of its fields.  The same holds of a whole map of collections in the
exchange format that uses them.
-/

namespace DocStore

/-- Whether a number is an integer. -/
def Number.IsInteger : Number → Prop
  | .int _ => True
  | .double _ => False

/-! ### Names that are distinct already -/

namespace Fields

variable {α : Type} {name : String} {value : α} {fields others : Fields α}

theorem put_of_not_mem (fresh : name ∉ fields.map Prod.fst) :
    put name value fields = fields ++ [(name, value)] := by
  induction fields with
  | nil => rfl
  | cons head rest ih =>
      have notHead : head.1 ≠ name := fun same => fresh (by simp [same])
      have notRest : name ∉ rest.map Prod.fst := fun inRest => fresh (by simp [inRest])
      rw [put, if_neg notHead, ih notRest, List.cons_append]

theorem putAll_eq_append (nodup : ((fields ++ others).map Prod.fst).Nodup) :
    putAll fields others = fields ++ others := by
  induction others generalizing fields with
  | nil => simp [putAll]
  | cons head rest ih =>
      have fresh : head.1 ∉ fields.map Prod.fst := by
        rw [List.map_append, List.nodup_append] at nodup
        intro among
        exact nodup.2.2 head.1 among head.1 (by simp) rfl
      calc putAll fields (head :: rest) = putAll (put head.1 head.2 fields) rest := rfl
        _ = putAll (fields ++ [head]) rest := by rw [put_of_not_mem fresh]
        _ = fields ++ head :: rest := by rw [ih (by simpa using nodup)]; simp

/-- Distinct names are all kept. -/
theorem ofList_eq_self (nodup : (fields.map Prod.fst).Nodup) : ofList fields = fields :=
  putAll_eq_append nodup

end Fields

namespace Json

theorem mergedItems_eq_self {items : List Json} (all : ∀ item ∈ items, item.merged = item) :
    mergedItems items = items := by
  induction items with
  | nil => rfl
  | cons item rest ih =>
      rw [mergedItems, all item List.mem_cons_self,
        ih fun other member => all other (List.mem_cons_of_mem _ member)]

theorem mergedFields_eq_self {fields : List (String × Json)}
    (all : ∀ name value, (name, value) ∈ fields → value.merged = value) :
    mergedFields fields = fields := by
  induction fields with
  | nil => rfl
  | cons head rest ih =>
      rw [mergedFields, all head.1 head.2 List.mem_cons_self,
        ih fun name value member => all name value (List.mem_cons_of_mem _ member)]

/-- A value whose objects do not repeat a name has nothing to merge. -/
theorem merged_eq_self {value : Json} (distinct : value.DistinctNames) :
    value.merged = value := by
  induction value using parts_induction with
  | null | bool | number | string => rfl
  | array items ih =>
      rw [merged, mergedItems_eq_self fun item member =>
        ih item member (distinctNames_array.1 distinct item member)]
  | object fields ih =>
      obtain ⟨nodup, values⟩ := distinctNames_object.1 distinct
      rw [merged, mergedFields_eq_self fun name value member =>
        ih name value member (values name value member), Fields.ofList_eq_self nodup]

/-! ### The writer's texts -/

section Numbers

variable {allowed : Number → Prop}

theorem numbersIn_append {fields others : List (String × Json)} :
    (object (fields ++ others)).NumbersIn allowed ↔
      (object fields).NumbersIn allowed ∧ (object others).NumbersIn allowed := by
  simp only [numbersIn_object, List.mem_append, or_imp, forall_and]

theorem numbersIn_optional {α : Type} {name : String} {write : α → Json} {value : Option α}
    (each : ∀ a, value = some a → (write a).NumbersIn allowed) :
    (object (optionalField name (value.map write))).NumbersIn allowed := by
  cases value with
  | none => trivial
  | some a => exact ⟨each a rfl, trivial⟩

theorem numbersIn_list {α : Type} {write : α → Json} {items : List α}
    (each : ∀ item ∈ items, (write item).NumbersIn allowed) :
    (array (items.map write)).NumbersIn allowed := by
  refine numbersIn_array.2 fun value member => ?_
  obtain ⟨item, isItem, rfl⟩ := List.mem_map.1 member
  exact each item isItem

theorem NumbersIn.mono {more : Number → Prop} (within : ∀ n, allowed n → more n)
    {value : Json} (numbers : value.NumbersIn allowed) : value.NumbersIn more := by
  induction value using parts_induction with
  | null | bool | string => trivial
  | number n => exact within n numbers
  | array items ih =>
      exact numbersIn_array.2 fun item member =>
        ih item member (numbersIn_array.1 numbers item member)
  | object fields ih =>
      exact numbersIn_object.2 fun name value member =>
        ih name value member (numbersIn_object.1 numbers name value member)

end Numbers

section Layout

/-! The two layouts differ in the blanks that they put before an item, behind a colon
and before a closing bracket. -/

variable {spell : Json → List Char} {gap between after : List Char}

theorem spells_items (blanks : Blanks gap) (blanksAfter : Blanks after) (item : Json)
    (rest : List Json) (all : ∀ one ∈ item :: rest, Spells (.value one) (spell one)) :
    Spells (.items (item :: rest))
      (spell item ++ (rest.flatMap (fun next => ',' :: (gap ++ spell next)) ++
        (after ++ [']']))) := by
  have first := all item List.mem_cons_self
  induction rest generalizing item with
  | nil => exact .lastItem first blanksAfter
  | cons next rest ih =>
      have others := ih next (fun one member => all one (List.mem_cons_of_mem _ member))
        (all next (by simp))
      simpa using Spells.moreItems first blanks others

theorem spells_fields (blanks : Blanks gap) (blanksBetween : Blanks between)
    (blanksAfter : Blanks after) (field : String × Json) (rest : List (String × Json))
    (all : ∀ one ∈ field :: rest, Spells (.value one.2) (spell one.2)) :
    Spells (.fields (field :: rest))
      (quote field.1 ++ (':' :: (between ++ (spell field.2 ++
        (rest.flatMap (fun next =>
            ',' :: (gap ++ (quote next.1 ++ (':' :: (between ++ spell next.2))))) ++
          (after ++ ['}'])))))) := by
  have first := all field List.mem_cons_self
  induction rest generalizing field with
  | nil => exact .lastField field.1 blanksBetween first blanksAfter
  | cons next rest ih =>
      have others := ih next (fun one member => all one (List.mem_cons_of_mem _ member))
        (all next (by simp))
      simpa using Spells.moreFields field.1 blanksBetween first blanks others

end Layout

theorem compactMoreItems_eq (items : List Json) :
    compactMoreItems items = items.flatMap fun item => ',' :: ([] ++ compactChars item) := by
  induction items with
  | nil => rfl
  | cons item rest ih => simp [compactMoreItems, ih]

theorem compactMoreFields_eq (fields : List (String × Json)) :
    compactMoreFields fields = fields.flatMap fun field =>
      ',' :: ([] ++ (quote field.1 ++ (':' :: ([] ++ compactChars field.2)))) := by
  induction fields with
  | nil => rfl
  | cons field rest ih => simp [compactMoreFields, ih]

theorem prettyItems_eq (level : Nat) (items : List Json) :
    prettyItems level items =
      items.flatMap fun item => ',' :: (newLine level ++ prettyChars level item) := by
  induction items with
  | nil => rfl
  | cons item rest ih => simp [prettyItems, ih]

theorem prettyFields_eq (level : Nat) (fields : List (String × Json)) :
    prettyFields level fields = fields.flatMap fun field => ',' :: (newLine level ++
      (quote field.1 ++ (':' :: ([' '] ++ prettyChars level field.2)))) := by
  induction fields with
  | nil => rfl
  | cons field rest ih => simp [prettyFields, ih]

theorem blanks_newLine (level : Nat) : Blanks (newLine level) := by
  intro c member
  rcases List.mem_cons.1 member with rfl | inRest
  · rfl
  · rw [List.eq_of_mem_replicate inRest]
    rfl

theorem spells_leaf {value : Json} (integers : value.NumbersIn Number.IsInteger)
    (notArray : ∀ items, value ≠ .array items) (notObject : ∀ fields, value ≠ .object fields) :
    Spells (.value value) (leafText value) := by
  cases value with
  | null => exact .null
  | bool value => cases value with
    | false => exact .false
    | true => exact .true
  | number n => cases n with
    | int n => exact .integer n
    | double x => exact integers.elim
  | string text => exact .string text
  | array items => exact absurd rfl (notArray items)
  | object fields => exact absurd rfl (notObject fields)

theorem spells_compact {value : Json} (integers : value.NumbersIn Number.IsInteger) :
    Spells (.value value) (compactChars value) := by
  induction value using parts_induction with
  | null | bool | number | string => exact spells_leaf integers (by simp) (by simp)
  | array items ih =>
      rw [compactChars]
      cases items with
      | nil => exact .noItems
      | cons item rest =>
          have all := spells_items blanks_nil blanks_nil item rest fun one member =>
            ih one member (numbersIn_array.1 integers one member)
          simpa [compactItems, compactMoreItems_eq] using Spells.array blanks_nil all
  | object fields ih =>
      rw [compactChars]
      cases fields with
      | nil => exact .noFields
      | cons field rest =>
          have all := spells_fields blanks_nil blanks_nil blanks_nil field rest fun one member =>
            ih one.1 one.2 member (numbersIn_object.1 integers one.1 one.2 member)
          simpa [compactFields, compactMoreFields_eq] using Spells.object blanks_nil all

theorem spells_pretty {value : Json} (integers : value.NumbersIn Number.IsInteger)
    (level : Nat) : Spells (.value value) (prettyChars level value) := by
  induction value using parts_induction generalizing level with
  | null | bool | number | string => exact spells_leaf integers (by simp) (by simp)
  | array items ih =>
      cases items with
      | nil => exact .noItems
      | cons item rest =>
          have all := spells_items (blanks_newLine (level + 1)) (blanks_newLine level) item rest
            fun one member => ih one member (numbersIn_array.1 integers one member) (level + 1)
          simpa [prettyChars, prettyItems_eq] using Spells.array (blanks_newLine (level + 1)) all
  | object fields ih =>
      cases fields with
      | nil => exact .noFields
      | cons field rest =>
          have blank : Blanks [' '] := by simp [Blanks, Reader.isSpace]
          have values := numbersIn_object.1 integers
          have all := spells_fields (blanks_newLine (level + 1)) blank (blanks_newLine level)
            field rest fun one member =>
              ih one.1 one.2 member (values one.1 one.2 member) (level + 1)
          simpa [prettyChars, prettyFields_eq] using Spells.object (blanks_newLine (level + 1)) all

/-- A text of a value is read as the value, also with blanks behind it. -/
theorem readTree?_of_spells {value : Json} {text after : List Char}
    (spelled : Spells (.value value) text) (shallow : value.nesting ≤ maxNesting)
    (blanks : Blanks after) : readTree? (String.ofList (text ++ after)) = some value := by
  have follows : MayFollow after := by
    intro c isHead
    have isSpace := blanks c (List.mem_of_mem_head? isHead)
    simp only [Reader.isSpace, Bool.or_eq_true, beq_iff_eq] at isSpace
    simp only [List.mem_cons]
    tauto
  have enough : text.length < 2 * (text ++ after).length + 2 := by
    rw [List.length_append]
    omega
  have read := Reader.reads_of_spells spelled shallow enough follows
    (Reader.skipSpace_of_spells blanks_nil spelled after)
  have noRest : Reader.skipSpace after = [] := List.dropWhile_eq_nil_iff.2 blanks
  rw [Reader.Reads, List.nil_append] at read
  rw [readTree?, String.toList_ofList, read]
  simp [noRest]

theorem readTree?_pretty_line {value : Json} (integers : value.NumbersIn Number.IsInteger)
    (shallow : value.nesting ≤ maxNesting) : readTree? (value.pretty ++ "\n") = some value := by
  have chars : value.pretty ++ "\n" = String.ofList (prettyChars 0 value ++ ['\n']) := by
    rw [pretty, ← String.toList_inj]
    simp
  rw [chars]
  exact readTree?_of_spells (spells_pretty integers 0) shallow (by simp [Blanks, Reader.isSpace])

theorem readTree?_pretty {value : Json} (integers : value.NumbersIn Number.IsInteger)
    (shallow : value.nesting ≤ maxNesting) : readTree? value.pretty = some value := by
  rw [pretty, ← List.append_nil (prettyChars 0 value)]
  exact readTree?_of_spells (spells_pretty integers 0) shallow blanks_nil

theorem readTree?_compact {value : Json} (integers : value.NumbersIn Number.IsInteger)
    (shallow : value.nesting ≤ maxNesting) : readTree? value.compact = some value := by
  rw [compact, ← List.append_nil (compactChars value)]
  exact readTree?_of_spells (spells_compact integers) shallow blanks_nil

theorem read?_compact {value : Json} (integers : value.NumbersIn Number.IsInteger)
    (shallow : value.nesting ≤ maxNesting) (distinct : value.DistinctNames) :
    read? value.compact = some value := by
  rw [read?, readTree?_compact integers shallow, Option.map_some, merged_eq_self distinct]

theorem nestingItems_le {items : List Json} {bound : Nat} :
    nestingItems items ≤ bound ↔ ∀ item ∈ items, item.nesting ≤ bound := by
  induction items with
  | nil => simp [nestingItems]
  | cons item rest ih => simp [nestingItems, ih]

theorem nestingFields_le {fields : List (String × Json)} {bound : Nat} :
    nestingFields fields ≤ bound ↔ ∀ field ∈ fields, field.2.nesting ≤ bound := by
  induction fields with
  | nil => simp [nestingFields]
  | cons field rest ih => simp [nestingFields, ih]

end Json

/-! ### Whole maps of collections -/

/-- What is asked of a record so that its text can be read back: names are distinct at
every level, as in every object, the numbers are allowed, and no field value nests a
hundred levels deep. -/
structure Record.Exchangeable (allowed : Number → Prop) (record : Record) : Prop where
  distinct : (Json.object record).DistinctNames
  numbers : (Json.object record).NumbersIn allowed
  nesting : ∀ field ∈ record, field.2.nesting < 100

namespace Collections

theorem recordsOfJson?_map_object (records : List Record) :
    recordsOfJson? (records.map .object) = some records := by
  induction records with
  | nil => rfl
  | cons record rest ih => rw [List.map_cons, recordsOfJson?, ih, Option.map_some]

/-- Entries in increasing order of their names are appended one after the other. -/
theorem ofJson?_go_eq (done : Collections) {rest : List (String × List Record)}
    (increasing : (done.entries ++ rest).Pairwise (fun a b => a.1 < b.1)) :
    ofJson?.go done (rest.map fun (name, records) => (name, .array (records.map .object))) =
      some ⟨done.entries ++ rest, increasing⟩ := by
  induction rest generalizing done with
  | nil => simp [ofJson?.go]
  | cons entry rest ih =>
      obtain ⟨name, records⟩ := entry
      have appended : (done.insert name records).entries = done.entries ++ [(name, records)] :=
        SortedMap.place_of_forall_lt (SortedMap.forall_lt_of_increasing increasing)
      have increasingRest : ((done.insert name records).entries ++ rest).Pairwise
          (fun a b => a.1 < b.1) := by
        rw [appended, List.append_assoc]
        exact increasing
      rw [List.map_cons, ofJson?.go, recordsOfJson?_map_object]
      simpa [appended] using ih _ increasingRest

theorem ofJson?_toJson (collections : Collections) :
    ofJson? collections.toJson = some collections :=
  ofJson?_go_eq .empty collections.increasing

section Records

variable {records : List Record}
  (exchangeable : ∀ record ∈ records, record.Exchangeable Number.IsInteger)
include exchangeable

theorem numbersIn_records : (Json.array (records.map .object)).NumbersIn Number.IsInteger :=
  Json.numbersIn_list fun record stored => (exchangeable record stored).numbers

theorem distinctNames_records : (Json.array (records.map .object)).DistinctNames := by
  refine Json.distinctNames_array.2 fun item isItem => ?_
  obtain ⟨record, stored, rfl⟩ := List.mem_map.1 isItem
  exact (exchangeable record stored).distinct

/-- Two levels lie around the field values: a collection and a record. -/
theorem nesting_records : (Json.array (records.map .object)).nesting ≤ 101 := by
  refine Nat.succ_le_succ (Json.nestingItems_le.2 fun item isItem => ?_)
  obtain ⟨record, stored, rfl⟩ := List.mem_map.1 isItem
  refine Nat.succ_le_succ (Json.nestingFields_le.2 fun field inRecord => ?_)
  exact Nat.le_of_lt_succ ((exchangeable record stored).nesting field inRecord)

end Records

section Text

variable {collections : Collections}
  (exchangeable : ∀ entry ∈ collections.entries, ∀ record ∈ entry.2,
    record.Exchangeable Number.IsInteger)
include exchangeable

theorem numbersIn_toJson : collections.toJson.NumbersIn Number.IsInteger := by
  refine Json.numbersIn_object.2 fun name value member => ?_
  obtain ⟨entry, among, same⟩ := List.mem_map.1 member
  obtain ⟨rfl, rfl⟩ := Prod.mk.inj same
  exact numbersIn_records (exchangeable entry among)

theorem distinctNames_toJson (name : String) (value : Json)
    (member : (name, value) ∈ collections.entries.map fun (name, records) =>
      (name, Json.array (records.map .object))) : value.DistinctNames := by
  obtain ⟨entry, among, same⟩ := List.mem_map.1 member
  obtain ⟨rfl, rfl⟩ := Prod.mk.inj same
  exact distinctNames_records (exchangeable entry among)

/-- Three levels lie around the field values: the map, a collection and a record. -/
theorem nesting_toJson : collections.toJson.nesting ≤ 102 := by
  refine Nat.succ_le_succ (Json.nestingFields_le.2 fun field isField => ?_)
  obtain ⟨entry, among, rfl⟩ := List.mem_map.1 isField
  exact nesting_records (exchangeable entry among)

end Text

end Collections

/-- A map of collections is read back from its JSON text as it was: the collections with
their records in order, the fields of every object in order, and every integer. -/
theorem ExchangeFormat.read_json_write (collections : Collections)
    (exchangeable : ∀ entry ∈ collections.entries, ∀ record ∈ entry.2,
      record.Exchangeable Number.IsInteger) :
    ExchangeFormat.json.read (ExchangeFormat.json.write collections) = .ok collections := by
  have tree : Json.readTree? collections.toJson.pretty = some collections.toJson :=
    Json.readTree?_pretty (Collections.numbersIn_toJson exchangeable)
      (le_trans (Collections.nesting_toJson exchangeable) (by decide))
  have unchanged := Json.mergedFields_eq_self fun name value member =>
    Json.merged_eq_self (Collections.distinctNames_toJson exchangeable name value member)
  have regained : Collections.readJson? collections.toJson.pretty = some collections := by
    rw [Collections.readJson?, tree, Collections.toJson, Option.bind_eq_bind, Option.bind_some]
    simp only [unchanged]
    exact Collections.ofJson?_toJson collections
  simp only [read, write, regained]

/-- Escapes, empty collections, arrays and objects, and the outermost integers. -/
def oddities : Collections where
  entries := [
    ("", []),
    ("a \"b\"\n", [
      [],
      [("\\", .string "\x01\x1f /\t\u2028\x7f"),
        ("k", .array [.array [], .object [], .null, .bool true,
          .number (.int ⟨-9223372036854775808, by decide⟩),
          .object [("k", .number (.int ⟨18446744073709551615, by decide⟩)),
            ("", .bool false)]])],
      [("k", .null)]])]
  increasing := by decide

theorem ExchangeFormat.read_oddities :
    (∀ entry ∈ oddities.entries, ∀ record ∈ entry.2, record.Exchangeable Number.IsInteger) ∧
      ExchangeFormat.json.read (ExchangeFormat.json.write oddities) = .ok oddities := by
  have exchangeable : ∀ entry ∈ oddities.entries, ∀ record ∈ entry.2,
      record.Exchangeable Number.IsInteger := by
    intro entry among record stored
    simp only [oddities, List.mem_cons, List.not_mem_nil, or_false] at among
    rcases among with rfl | rfl
    · exact absurd stored List.not_mem_nil
    · simp only [List.mem_cons, List.not_mem_nil, or_false] at stored
      rcases stored with rfl | rfl | rfl
      all_goals
        constructor
        · simp [Json.DistinctNames, Json.DistinctNames.DistinctNamesItems,
            Json.DistinctNames.DistinctNamesFields]
        · simp [Json.NumbersIn, Json.NumbersIn.NumbersInItems, Json.NumbersIn.NumbersInFields,
            Number.IsInteger]
        · simp [Json.nesting, Json.nestingItems, Json.nestingFields]
  exact ⟨exchangeable, read_json_write oddities exchangeable⟩

end DocStore
