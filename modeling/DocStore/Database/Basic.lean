import DocStore.Config
import DocStore.Interchange.Format
import DocStore.Query.Params
import DocStore.Reference.Deletion
import DocStore.Reference.Expansion
import DocStore.Reference.KeyChange
import DocStore.Validation.Preparation

/-!
# Databases

Schemas and a store together.  Records of a collection with a schema are prepared
and checked before they are stored, and deletions and changes of keys are followed
by the records that they concern.
-/

namespace DocStore

/-- A store under schemas.  The graph of references is kept together with the count
of changes at which it was made. -/
structure Database (A : Type) where
  root : Option String := none
  config : Config := {}
  registry : Registry
  store : Store A
  supply : Supply
  knownGraph : Option (UInt64 × ReferenceGraph) := none

/-- A stored record that its schema refuses. -/
structure RecordReport where
  collection : String
  id : Json
  issues : List Issue

def RecordReport.toJson (report : RecordReport) : Json :=
  .object [("collection", .string report.collection), ("id", report.id),
    ("errors", .array (report.issues.map Issue.toJson))]

namespace Database

variable {A : Type} [Adapter A]

/-- The graph of references, made anew when the schemas have changed. -/
def graph : Attempt (Database A) ReferenceGraph := do
  let db ← get
  match db.knownGraph with
  | some (generation, known) =>
    if generation = db.registry.generation then return known
  | none => pure ()
  let graph := ReferenceGraph.ofRegistry db.registry
  set { db with knownGraph := some (db.registry.generation, graph) }
  return graph

def rules : Attempt (Database A) ReferenceRules := do
  let graph ← graph
  return ⟨(← get).registry, graph⟩

def onStore {α : Type} (attempt : Attempt (Store A) α) : Attempt (Database A) α :=
  attempt.onPart store fun db store => { db with store }

/-- Runs an attempt of the store and the supply. -/
def onSpace {α : Type} (attempt : Attempt (Workspace A) α) : Attempt (Database A) α :=
  attempt.onPart (fun db => ⟨db.store, db.supply⟩)
    fun db space => { db with store := space.store, supply := space.supply }

/-- Makes an edit, and saves the collections if it changed them. -/
def commit {α : Type} (edit : Edit α) : Attempt (Database A) α :=
  onStore (Store.commit edit)

def changeSchemas (change : Registry → Registry) : Attempt (Database A) Unit :=
  modify fun db => { db with registry := change db.registry }

def find? (collection : String) (id : Json) : Attempt (Database A) (Option Record) := do
  return (← get).store.collections.find? collection id

def expand (collection : String) (record : Record) (depth : Nat) :
    Attempt (Database A) Record := do
  let graph ← graph
  return graph.expand (← get).store.collections depth collection record

/-- The record with a given id, its relations expanded to a depth. -/
def show? (collection : String) (id : Json) (depth : Nat) :
    Attempt (Database A) (Option Record) := do
  match ← find? collection id with
  | none => return none
  | some record => return some (← expand collection record depth)

def list (collection : String) (options : QueryOptions) : Attempt (Database A) QueryResult :=
  .reading fun db => db.store.query collection options

/-- A record as its collection's schema wants it, if there is a schema. -/
def prepare (collection : String) (isNew lenient : Bool) (record : Record) :
    Attempt (Database A) Record := do
  match (← get).registry.find? collection with
  | none => return record
  | some schema =>
    Attempt.onPart supply (fun db supply => { db with supply })
      (schema.validated isNew lenient record)

def create (collection : String) (record : Record) : Attempt (Database A) Record := do
  let prepared ← prepare collection true false record
  onStore (Store.add collection prepared)

/-- Stores the new version of a record.  Restrictions are checked before, and the
records that hold changed keys follow after, so that a record which points at
itself follows too. -/
def commitChange (collection : String) (id : Json) (existing updated : Record) :
    Attempt (Database A) (Option Record) := do
  match updated.id? with
  | some newId =>
    if !newId.same id && (← find? collection newId).isSome then
      throw (.duplicateId collection newId)
  | none => pure ()
  let rules ← rules
  onSpace (Workspace.checkKeyChanges rules collection existing updated)
  match ← commit (Collections.replace collection id updated) with
  | none => return none
  | some stored =>
    let count ← onSpace (Workspace.followKeyChanges rules collection existing stored)
    if count = 0 then return some stored
    match stored.id? with
    | some newId => find? collection newId
    | none => return none

/-- A body that replaces a record, with the id and the instant of creation that it
leaves out. -/
def completed (schema : Option Schema) (id : Json) (existing body : Record) : Record :=
  let body := if body.id?.isNone then Fields.put idField id body else body
  match schema, Fields.get? createdField existing with
  | some schema, some created =>
    if schema.timestamps && !Fields.has createdField body then
      Fields.put createdField created body
    else body
  | _, _ => body

def replace (collection : String) (id : Json) (body : Record) :
    Attempt (Database A) (Option Record) := do
  match ← find? collection id with
  | none => return none
  | some existing =>
    let schema := (← get).registry.find? collection
    let prepared ← prepare collection false false (completed schema id existing body)
    commitChange collection id existing prepared

/-- Puts the fields of a patch into a record.  Required fields may be absent. -/
def patch (collection : String) (id : Json) (patch : Record) :
    Attempt (Database A) (Option Record) := do
  match ← find? collection id with
  | none => return none
  | some existing =>
    let prepared ← prepare collection false true (existing.putAll patch)
    commitChange collection id existing prepared

/-- Deletes a record after the policies of all that points at it, within a bound;
answers whether it was there. -/
def deleteWithin (bound : Collections → Nat) (collection : String) (id : Json) :
    Attempt (Database A) Bool := do
  let rules ← rules
  onSpace (Workspace.deleteWithin rules bound collection id)

def delete (collection : String) (id : Json) : Attempt (Database A) Bool := do
  let rules ← rules
  onSpace (Workspace.delete rules collection id)

/-- Whether no restriction stands against the deletion of a record. -/
def canDelete (collection : String) (id : Json) : Attempt (Database A) Bool := do
  let graph ← graph
  return graph.canDelete (← get).store.collections collection id

/-- Applies the policies of all that points at a record, which stays, within a bound. -/
def applyDeletePoliciesWithin (bound : Collections → Nat) (collection : String) (id : Json) :
    Attempt (Database A) Unit := do
  let rules ← rules
  onSpace (Workspace.applyDeletePoliciesWithin rules bound collection id)

def applyDeletePolicies (collection : String) (id : Json) : Attempt (Database A) Unit := do
  let rules ← rules
  onSpace (Workspace.applyDeletePolicies rules collection id)

/-- Fails if a restriction stands against the change from one version of a record
to another. -/
def checkKeyChanges (collection : String) (old new : Record) :
    Attempt (Database A) Unit := do
  let rules ← rules
  onSpace (Workspace.checkKeyChanges rules collection old new)

def followKeyChanges (collection : String) (old new : Record) :
    Attempt (Database A) Nat := do
  let rules ← rules
  onSpace (Workspace.followKeyChanges rules collection old new)

def followIdChange (collection : String) (old new : Json) : Attempt (Database A) Nat := do
  let rules ← rules
  onSpace (Workspace.followIdChange rules collection old new)

def relationsOf (collection : String) : Attempt (Database A) (List Reference) := do
  return (← graph).relationsOf collection

def referencesTo (collection : String) : Attempt (Database A) (List Reference) := do
  return (← graph).referencesTo collection

/-- All that must follow when a record of a collection goes or changes a key. -/
def dependentsOf (collection : String) : Attempt (Database A) (List Dependent) := do
  return (← graph).dependentsOf collection

def reports (db : Database A) : List RecordReport :=
  db.registry.all.flatMap fun schema =>
    (db.store.collections.records schema.name).filterMap fun record =>
      match schema.issues record false with
      | [] => none
      | issues => some ⟨schema.name, .orNull (Fields.get? idField record), issues⟩

/-- Puts other collections in the place of all.  They are not checked. -/
def takeIn (collections : Collections) : Attempt (Database A) Unit :=
  commit (Collections.swap collections)

/-- Puts the collections of a text in the place of all. -/
def takeInText (format : ExchangeFormat) (text : String) : Attempt (Database A) Unit := do
  takeIn (← Attempt.ofResult (format.read text))

def exportText (db : Database A) (format : ExchangeFormat) : String :=
  format.write db.store.collections

def ofStore (registry : Registry) (supply : Supply) (store : Store A) : Database A :=
  { registry, supply, store }

end Database

end DocStore
