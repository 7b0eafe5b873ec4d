import DocStore.Interchange.Rows
import DocStore.Record
import DocStore.Failure

/-!
# Collections as CSV

Every collection is a section: a row with the name of the collection behind a
marker, a row with the names of all fields of its records, and a row for each
record.  Cells lose the kind of their values, so reading gives them one again: the
words for truth values, numbers, and JSON text that begins with a brace or a
bracket stand for what they denote.  An empty cell stands for no field.
-/

namespace DocStore.Csv

/-- The start of the row that opens a collection's section. -/
def marker : String := "# Collection:"

def cellOf : Option Json → Rows.Cell
  | none | some .null => []
  | some (.string s) => s.toList
  | some value => value.compactChars

def valueOf (cell : Rows.Cell) : Json :=
  let text := String.ofList cell
  if text = "true" then .bool true
  else if text = "false" then .bool false
  else match Json.readNumber? text with
    | some n => .number n
    | none =>
      match cell with
      | '\x7b' :: _ | '[' :: _ => (Json.read? text).getD (.string text)
      | _ => .string text

/-- The names of all fields of some records, in the order of their first
appearance. -/
def header (records : List Record) : List String :=
  (records.flatMap Fields.names).eraseDups

def sectionRows (name : String) (records : List Record) : List (List Rows.Cell) :=
  [(marker ++ " " ++ name).toList] ::
    if records.isEmpty then []
    else
      let names := header records
      names.map String.toList ::
        records.map fun record => names.map fun name => cellOf (Fields.get? name record)

def rows (collections : Collections) : List (List Rows.Cell) :=
  collections.entries.flatMap fun (name, records) => sectionRows name records

def write (collections : Collections) : String :=
  String.ofList (Rows.write (rows collections))

/-- The collection that a row opens, if it is such a row. -/
def opens? : List Rows.Cell → Option String
  | [cell] => (afterStart? marker (String.ofList cell)).map trim
  | _ => none

/-- The record of a row under some field names.  A name that comes twice keeps its
first place and takes the last value. -/
def recordOf (names : List String) (row : List Rows.Cell) : Record :=
  Fields.ofList (((names.zip row).filter fun (_, cell) => !cell.isEmpty).map
    fun (name, cell) => (name, valueOf cell))

/-- Where a reader stands: in no section, behind the opening row of one, or behind
the names of its fields. -/
inductive Position where
  | outside
  | opened (collection : String)
  | inside (collection : String) (names : List String)

/-- Reads the rows from number `line` on into the collections read before. -/
def readRows (collections : Collections) (position : Position) (line : Nat) :
    List (List Rows.Cell) → Except Failure Collections
  | [] => .ok collections
  | row :: rest =>
    match opens? row with
    | some name =>
      readRows (collections.modify name [] id) (.opened name) (line + 1) rest
    | none =>
      match position with
      | .outside => .error (.noCollection line)
      | .opened name =>
        readRows collections (.inside name (row.map fun cell => trim (String.ofList cell)))
          (line + 1) rest
      | .inside name names =>
        readRows (collections.modify name [] (· ++ [recordOf names row]))
          (.inside name names) (line + 1) rest

def read (text : String) : Except Failure Collections :=
  readRows .empty .outside 1 (Rows.read text.toList)

end DocStore.Csv
