import DocStore.Failure
import DocStore.Record

/-!
# Tables

The contents of a database.  One table has a row for every key that was saved, the other
one a row for every collection under a key, with the records as JSON text.  The time of a
save stands in a column that nothing reads, and is left out.
-/

namespace DocStore

/-- A row of the table of collections. -/
structure CollectionRow where
  key : String
  name : String
  records : String
  deriving DecidableEq

/-- Whether two rows have one primary key. -/
abbrev CollectionRow.Clashes (row other : CollectionRow) : Prop :=
  row.key = other.key ∧ row.name = other.name

/-- The rows of the two tables, each of which has a primary key. -/
structure Tables where
  keys : List String
  rows : List CollectionRow
  distinctKeys : keys.Nodup
  distinctRows : rows.Pairwise fun row other => ¬ row.Clashes other

namespace Tables

instance : BEq Tables := ⟨fun a b => a.keys == b.keys && a.rows == b.rows⟩

def empty : Tables := ⟨[], [], .nil, .nil⟩

/-- Writes the row of a key in place of the one that it has. -/
def replaceKey (tables : Tables) (key : String) : Tables where
  keys := tables.keys.filter (· ≠ key) ++ [key]
  rows := tables.rows
  distinctKeys := by
    refine List.pairwise_append.2 ⟨tables.distinctKeys.filter _, List.pairwise_singleton .., ?_⟩
    intro other isOther _ same
    have differs : other ≠ key := by simpa using (List.mem_filter.1 isOther).2
    exact List.mem_singleton.1 same ▸ differs
  distinctRows := tables.distinctRows

def deleteKey (tables : Tables) (key : String) : Tables where
  keys := tables.keys.filter (· ≠ key)
  rows := tables.rows
  distinctKeys := tables.distinctKeys.filter _
  distinctRows := tables.distinctRows

def deleteRows (tables : Tables) (key : String) : Tables where
  keys := tables.keys
  rows := tables.rows.filter (·.key ≠ key)
  distinctKeys := tables.distinctKeys
  distinctRows := tables.distinctRows.filter _

/-- Inserts a row, which is refused if its primary key is there. -/
def insertRow (tables : Tables) (row : CollectionRow) : Except DatabaseProblem Tables :=
  if clash : ∃ other ∈ tables.rows, other.Clashes row then .error .repeatedRow
  else .ok {
    tables with
    rows := tables.rows ++ [row]
    distinctRows := by
      refine List.pairwise_append.2 ⟨tables.distinctRows, List.pairwise_singleton .., ?_⟩
      intro other isOther last isLast clashes
      exact clash ⟨other, isOther, List.mem_singleton.1 isLast ▸ clashes⟩ }

def textOfRecords (records : List Record) : String :=
  (Json.array (records.map .object)).compact

def recordsOfText? (text : String) : Option (List Record) :=
  match Json.read? text with
  | some (.array items) => Collections.recordsOfJson? items
  | _ => none

/-- Inserts a row for each of some collections under a key. -/
def insertAll (tables : Tables) (key : String) (entries : List (String × List Record)) :
    Except DatabaseProblem Tables :=
  entries.foldlM (fun tables (name, records) => tables.insertRow ⟨key, name, textOfRecords records⟩)
    tables

/-- Saves collections under a key: the row of the key, and in place of all rows under it
one for each collection.  All of it is one transaction. -/
def save (tables : Tables) (key : String) (collections : Collections) :
    Except DatabaseProblem Tables :=
  ((tables.replaceKey key).deleteRows key).insertAll key collections.entries

def remove (tables : Tables) (key : String) : Tables :=
  (tables.deleteRows key).deleteKey key

def deleteAllRows (tables : Tables) : Tables :=
  { tables with rows := [], distinctRows := .nil }

def deleteAllKeys (tables : Tables) : Tables :=
  { tables with keys := [], distinctKeys := .nil }

def clear (tables : Tables) : Tables :=
  tables.deleteAllRows.deleteAllKeys

def has (tables : Tables) (key : String) : Bool :=
  tables.keys.contains key

/-- The names of the collections under a key with the texts of their records. -/
def rowsOf (tables : Tables) (key : String) : List (String × String) :=
  (tables.rows.filter (·.key = key)).map fun row => (row.name, row.records)

/-- The collections of rows, or the name of the first one that cannot be read. -/
def collectionsOfRows : List (String × String) → Except String Collections
  | [] => .ok .empty
  | (name, text) :: rest => do
    match recordsOfText? text with
    | none => .error name
    | some records => return (← collectionsOfRows rest).insert name records

/-- The collections saved under a key, or the name of one that cannot be read. -/
def find (tables : Tables) (key : String) : Except String (Option Collections) :=
  if tables.has key then (collectionsOfRows (tables.rowsOf key)).map some else .ok none

/-- The first line of the text of tables. -/
def heading : String := "# Tables\n"

def jsonOfRow (row : CollectionRow) : Json :=
  .array [.string row.key, .string row.name, .string row.records]

def rowOfJson? : Json → Option CollectionRow
  | .array [.string key, .string name, .string records] => some ⟨key, name, records⟩
  | _ => none

/-- The tables as text, for files that hold nothing else. -/
def toText (tables : Tables) : String :=
  heading ++ (Json.array [
    .array (tables.keys.map .string), .array (tables.rows.map jsonOfRow)]).pretty

def ofText? (text : String) : Option Tables := do
  let .array [.array keys, .array rows] ← Json.read? (← afterStart? heading text) | none
  let keys ← keys.mapM fun
    | .string key => some key
    | _ => none
  let rows ← rows.mapM rowOfJson?
  (rows.foldlM insertRow (keys.foldl replaceKey empty)).toOption

end Tables

end DocStore
