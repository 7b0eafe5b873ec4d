import DocStore.Json.Comparison
import DocStore.Json.Reader
import DocStore.SortedMap

/-!
# Records and collections

A record is addressed by the value of its field `id`.  A collection is a list of
records, and a store holds collections by name.
-/

namespace DocStore

def idField : String := "id"

abbrev Collections := SortedMap (List Record)

namespace Record

/-- The value of a field, unless it is absent or `null`. -/
def linked? (record : Record) (field : String) : Option Json :=
  match Fields.get? field record with
  | some .null => none
  | other => other

/-- The id, unless it is absent or `null`. -/
def id? (record : Record) : Option Json :=
  record.linked? idField

def hasId (record : Record) (id : Json) : Bool :=
  match record.id? with
  | some own => own.same id
  | none => false

/-- The record with `id` in front, in place of any it had. -/
def withId (record : Record) (id : Json) : Record :=
  (idField, id) :: Fields.erase idField record

/-- Whether a field is present and equal to `value`. -/
def holds (record : Record) (field : String) (value : Json) : Bool :=
  match Fields.get? field record with
  | some own => own.same value
  | none => false

end Record

namespace Collections

/-- The records of a collection; an unknown collection has none. -/
def records (collections : Collections) (name : String) : List Record :=
  (collections.get? name).getD []

def toJson (collections : Collections) : Json :=
  .object (collections.entries.map fun (name, records) =>
    (name, .array (records.map .object)))

def recordsOfJson? : List Json → Option (List Record)
  | [] => some []
  | .object fields :: rest => (recordsOfJson? rest).map (fields :: ·)
  | _ :: _ => none

/-- The map that a JSON object of arrays of objects stands for.  Every entry must
have that form, also one whose name comes again later. -/
def ofJson? : Json → Option Collections
  | .object fields => go .empty fields
  | _ => none
where
  go (collections : Collections) : List (String × Json) → Option Collections
    | [] => some collections
    | (name, .array items) :: rest => do
      go (collections.insert name (← recordsOfJson? items)) rest
    | _ :: _ => none

def readJson? (text : String) : Option Collections := do
  let .object fields ← Json.readTree? text | none
  ofJson? (.object (Json.mergedFields fields))

end Collections

end DocStore
