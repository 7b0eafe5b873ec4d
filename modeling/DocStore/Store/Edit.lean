import DocStore.Failure
import DocStore.Record

/-!
# Edits of collections

Adding, changing and removing records, by themselves: what an edit answers, and
the collections after it.  No edit gives two records of a collection the same id.
-/

namespace DocStore

def Number.whole? : Number → Option Int
  | .int n => some n.val
  | .double x => if x.isWhole then some x.truncate else none

def Json.whole? : Json → Option Int
  | .number n => n.whole?
  | _ => none

/-- An edit of collections: its answer, and the collections after it unless it
leaves them as they are. -/
abbrev Edit (α : Type) := Collections → Except Failure (α × Option Collections)

namespace Collections

def find? (collections : Collections) (name : String) (id : Json) : Option Record :=
  (collections.records name).find? (·.hasId id)

def holding (collections : Collections) (name field : String) (value : Json) : List Record :=
  (collections.records name).filter (·.holds field value)

/-- The largest whole number among ids, and at least `largest`. -/
def largestId (name : String) (largest : Int) : List Json → Except Failure Int
  | [] => .ok largest
  | id :: rest =>
    match id.whole? with
    | none => largestId name largest rest
    | some n =>
      if Integer.least ≤ n ∧ n ≤ Integer.signedMost then largestId name (max largest n) rest
      else .error (.idsExhausted name id)

/-- The id after all ids of some records: a signed word. -/
def nextId (name : String) (records : List Record) : Except Failure Json := do
  let largest ← largestId name 0 (records.filterMap Record.id?)
  if largest < Integer.signedMost then return .ofInt (largest + 1)
  else .error (.idsExhausted name (.ofInt largest))

/-- The record as it is added to others: with an id of its own. -/
def identified (name : String) (records : List Record) (record : Record) : Except Failure Record :=
  match record.id? with
  | some id =>
    if records.any (·.hasId id) then .error (.duplicateId name id) else .ok record
  | none => do return record.withId (← nextId name records)

def opened (collections : Collections) (name : String) : Collections :=
  if collections.has name then collections else collections.insert name []

/-- Makes sure that a collection is there; answers whether it is new. -/
def create (name : String) : Edit Bool := fun collections =>
  if collections.has name then .ok (false, none)
  else .ok (true, some (collections.insert name []))

def add (name : String) (record : Record) : Edit Record := fun collections => do
  let records := collections.records name
  let added ← identified name records record
  return (added, some (collections.insert name (records ++ [added])))

/-- Changes the record with an id in its place.  A new id must be free, and a
missing one is put back. -/
def amend (name : String) (id : Json) (change : Record → Record) : Edit (Option Record) :=
  fun collections =>
    let records := collections.records name
    let before := records.takeWhile (!·.hasId id)
    match records.dropWhile (!·.hasId id) with
    | [] => .ok (none, none)
    | record :: after =>
      let commit (changed : Record) : Except Failure (Option Record × Option Collections) :=
        .ok (some changed, some (collections.insert name (before ++ changed :: after)))
      let changed := change record
      match changed.id? with
      | none => commit (changed.withId id)
      | some newId =>
        if !newId.same id && (before ++ after).any (·.hasId newId) then
          .error (.duplicateId name newId)
        else commit changed

def update (name : String) (id : Json) (patch : Record) : Edit (Option Record) :=
  amend name id (·.putAll patch)

def replace (name : String) (id : Json) (record : Record) : Edit (Option Record) :=
  amend name id fun _ => record

/-- Removes the record with an id; answers whether there was one. -/
def remove (name : String) (id : Json) : Edit Bool := fun collections =>
  let records := collections.records name
  if records.any (·.hasId id) then
    .ok (true, some (collections.insert name (records.eraseP (·.hasId id))))
  else .ok (false, none)

/-- The first id that a record shares with one before it. -/
def repeatedId? (earlier : List Record) : List Record → Option Json
  | [] => none
  | record :: rest =>
    match record.id? with
    | some id =>
      if earlier.any (·.hasId id) then some id else repeatedId? (record :: earlier) rest
    | none => repeatedId? (record :: earlier) rest

def repetition? (collections : Collections) : Option (String × Json) :=
  collections.entries.findSome? fun (name, records) =>
    (repeatedId? [] records).map fun id => (name, id)

def swap (incoming : Collections) : Edit Unit := fun _ =>
  match incoming.repetition? with
  | some (name, id) => .error (.duplicateId name id)
  | none => .ok ((), some incoming)

end Collections

end DocStore
