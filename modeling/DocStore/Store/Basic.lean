import DocStore.Query.Evaluate
import DocStore.Storage.Adapter
import DocStore.Store.Edit
import DocStore.Text.Quoted

/-!
# Stores

A store holds named collections and keeps storage in step with them.  An edit is
made in memory first and saved afterwards; if saving fails, the failure is reported
and the edit stays.
-/

namespace DocStore

/-- Collections and the storage that they are saved in, under a key. -/
structure Store (A : Type) where
  collections : Collections := .empty
  storage : A
  key : String

namespace Store

variable {A : Type} [Adapter A]

/-- A store with whatever its storage holds under the key. -/
def openAt (storage : A) (key : String) : Except Failure (Store A) :=
  match Adapter.load storage key with
  | .ok loaded => .ok { collections := loaded.getD .empty, storage, key }
  | .error failure => .error failure.asStorage

def onStorage {α : Type} (attempt : Attempt A α) : Attempt (Store A) α :=
  attempt.onPart storage fun store storage => { store with storage }

def persist : Attempt (Store A) Unit := do
  let store ← get
  (onStorage (Adapter.save store.key store.collections)).retold Failure.asStorage

/-- Makes an edit, and saves the collections if it changed them. -/
def commit {α : Type} (edit : Edit α) : Attempt (Store A) α := do
  let store ← get
  let (answer, after) ← Attempt.ofResult (edit store.collections)
  match after with
  | none => return answer
  | some collections =>
    set { store with collections }
    persist
    return answer

/-- Adds a record at the end of a collection.  The collection is made sure of before
the record is looked at. -/
def add (name : String) (record : Record) : Attempt (Store A) Record := do
  modify fun store => { store with collections := store.collections.opened name }
  commit (Collections.add name record)

def query (store : Store A) (name : String) (options : QueryOptions) :
    Except Failure QueryResult :=
  options.evaluate (store.collections.records name)

def description (store : Store A) : String :=
  "CollectionStore \x7b key: " ++ Quoted.ofText store.key ++
    ", adapter: " ++ Quoted.ofText (Adapter.name store.storage) ++
    ", collections: " ++ Quoted.ofTexts store.collections.names ++ " \x7d"

end Store

end DocStore
