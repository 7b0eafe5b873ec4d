import DocStore.Storage.Database
import DocStore.Storage.Folder
import DocStore.Storage.Memory
import DocStore.Proofs.Attempts
import DocStore.Proofs.DiskPlaces
import DocStore.Proofs.JsonRoundTrip

/-!
# Calls of a storage

What calls of a storage answer is told by the calls before them: a key holds what was
last saved under it, unless it was removed or all keys were cleared since.  A kind of
storage gives such answers if every single call does and brings what the storage holds
in step with the call.  Memory and the tables of a database are such kinds.
-/

namespace DocStore

/-- A call of a storage. -/
inductive StorageCall where
  | save (key : String) (collections : Collections)
  | load (key : String)
  | has (key : String)
  | remove (key : String)
  | clear

/-- What a call of a storage answers. -/
inductive StorageAnswer where
  | done (result : Except Failure Unit)
  | loaded (result : Except Failure (Option Collections))
  | told (result : Except Failure Bool)

/-- Collections that their JSON text gives back. -/
def Collections.Exchangeable (collections : Collections) : Prop :=
  ∀ entry ∈ collections.entries, ∀ record ∈ entry.2, record.Exchangeable Number.IsInteger

namespace StorageCall

section Run

variable {A : Type} [Adapter A]

/-- Makes a call: what it answers, and the storage after it. -/
def run (storage : A) : StorageCall → StorageAnswer × A
  | save key collections =>
    let (result, next) := (Adapter.save key collections).outcome storage
    (.done result, next)
  | load key => (.loaded (Adapter.load storage key), storage)
  | has key => (.told (Adapter.has storage key), storage)
  | remove key =>
    let (result, next) := (Adapter.remove key).outcome storage
    (.done result, next)
  | clear =>
    let (result, next) := Adapter.clear.outcome storage
    (.done result, next)

/-- Makes calls one after the other: what they answer, and the storage after them. -/
def runAll (storage : A) : List StorageCall → List StorageAnswer × A
  | [] => ([], storage)
  | call :: rest =>
    let (answer, next) := call.run storage
    let (answers, last) := runAll next rest
    (answer :: answers, last)

end Run

/-- The key that a call is about. -/
def key? : StorageCall → Option String
  | save key _ | load key | has key | remove key => some key
  | clear => none

/-- What was saved last under a key and neither removed nor cleared since, in a history
with the latest call first. -/
def lastSaved (key : String) : List StorageCall → Option Collections
  | [] => none
  | save other collections :: earlier =>
    if other = key then some collections else lastSaved key earlier
  | remove other :: earlier => if other = key then none else lastSaved key earlier
  | clear :: _ => none
  | load _ :: earlier | has _ :: earlier => lastSaved key earlier

/-- The answer that a call gives after a history. -/
def answer (earlier : List StorageCall) : StorageCall → StorageAnswer
  | load key => .loaded (.ok (lastSaved key earlier))
  | has key => .told (.ok (lastSaved key earlier).isSome)
  | save _ _ | remove _ | clear => .done (.ok ())

/-- The answers that calls give after a history. -/
def answers (earlier : List StorageCall) : List StorageCall → List StorageAnswer
  | [] => []
  | call :: rest => call.answer earlier :: answers (call :: earlier) rest

section Simulation

variable {A : Type} [Adapter A] {holds : A → List StorageCall → Prop}
  {fits : StorageCall → Prop}

end Simulation

/-- Whether storage answers calls as the calls before them tell, and no call but one that
clears all keys changes what another key holds. -/
structure AnswersAsSaved {A : Type} [Adapter A] (storage : A) (calls : List StorageCall) :
    Prop where
  answers_eq : (runAll storage calls).1 = answers [] calls
  others_stay : ∀ before call after key, calls = before ++ call :: after → call ≠ clear →
    call.key? ≠ some key → FolderStorage.isKey key = true →
      Adapter.load (runAll storage (before ++ [call])).2 key =
          Adapter.load (runAll storage before).2 key ∧
        Adapter.has (runAll storage (before ++ [call])).2 key =
          Adapter.has (runAll storage before).2 key

theorem AnswersAsSaved.first {A : Type} [Adapter A] {storage : A} {call : StorageCall}
    {rest : List StorageCall} (answered : AnswersAsSaved storage (call :: rest)) :
    (call.run storage).1 = call.answer [] := by
  have all := answered.answers_eq
  rw [runAll, answers] at all
  exact (List.cons.inj all).1

end StorageCall

open StorageCall

/-! ### Memory -/

namespace Memory

/-- Whether memory holds what a history tells. -/
def Holds (memory : Memory) (history : List StorageCall) : Prop :=
  ∀ key, memory.saved.get? key = lastSaved key history

end Memory

/-! ### Tables -/

namespace Tables

theorem recordsOfText?_textOfRecords {records : List Record}
    (exchangeable : ∀ record ∈ records, record.Exchangeable Number.IsInteger) :
    recordsOfText? (textOfRecords records) = some records := by
  have read := Json.read?_compact (Collections.numbersIn_records exchangeable)
    ((Collections.nesting_records exchangeable).trans (by decide))
    (Collections.distinctNames_records exchangeable)
  rw [recordsOfText?, textOfRecords, read]
  exact Collections.recordsOfJson?_map_object records

/-- The rows of collections are read back as the collections, none lost and none new. -/
theorem collectionsOfRows_map {entries : List (String × List Record)}
    (increasing : entries.Pairwise (fun a b => a.1 < b.1))
    (exchangeable : ∀ entry ∈ entries, ∀ record ∈ entry.2,
      record.Exchangeable Number.IsInteger) :
    collectionsOfRows (entries.map fun (name, records) => (name, textOfRecords records)) =
      .ok ⟨entries, increasing⟩ := by
  induction entries with
  | nil => rfl
  | cons entry rest ih =>
      obtain ⟨name, records⟩ := entry
      obtain ⟨first, restIncreasing⟩ := List.pairwise_cons.1 increasing
      obtain ⟨ofRecords, ofRest⟩ := List.forall_mem_cons.1 exchangeable
      rw [List.map_cons, collectionsOfRows, recordsOfText?_textOfRecords ofRecords,
        ih restIncreasing ofRest]
      refine congrArg Except.ok ?_
      simp only [SortedMap.insert, SortedMap.place_of_lt_forall first]

variable {tables : Tables} {history : List StorageCall} {key : String}

@[simp]
theorem has_replaceKey (tables : Tables) (key other : String) :
    (tables.replaceKey key).has other = (decide (key = other) || tables.has other) := by
  by_cases same : key = other
  · simp [has, replaceKey, same]
  · simp [has, replaceKey, same, Ne.symm same]

@[simp]
theorem rowsOf_replaceKey (tables : Tables) (key other : String) :
    (tables.replaceKey key).rowsOf other = tables.rowsOf other :=
  rfl

@[simp]
theorem has_deleteKey (tables : Tables) (key other : String) :
    (tables.deleteKey key).has other = (!decide (key = other) && tables.has other) := by
  by_cases same : key = other
  · simp [has, deleteKey, same]
  · simp [has, deleteKey, same, Ne.symm same]

@[simp]
theorem rowsOf_deleteKey (tables : Tables) (key other : String) :
    (tables.deleteKey key).rowsOf other = tables.rowsOf other :=
  rfl

@[simp]
theorem has_deleteRows (tables : Tables) (key other : String) :
    (tables.deleteRows key).has other = tables.has other :=
  rfl

@[simp]
theorem rowsOf_deleteRows (tables : Tables) (key other : String) :
    (tables.deleteRows key).rowsOf other = if key = other then [] else tables.rowsOf other := by
  rw [rowsOf, rowsOf, deleteRows, List.filter_filter]
  split_ifs with same
  · have none : ∀ row ∈ tables.rows, ¬ (decide (row.key = other) && decide (row.key ≠ key)) := by
      simp [same]
    rw [List.filter_eq_nil_iff.2 none, List.map_nil]
  · congr 1
    refine List.filter_congr fun row _ => ?_
    by_cases isOther : row.key = other <;> simp [isOther, Ne.symm same]

/-- A row is inserted behind the others if its name is new under its key. -/
theorem insertRow_ok (row : CollectionRow)
    (free : row.name ∉ (tables.rowsOf row.key).map Prod.fst) :
    ∃ inserted, tables.insertRow row = .ok inserted ∧ inserted.keys = tables.keys ∧
      ∀ other, inserted.rowsOf other =
        tables.rowsOf other ++ if row.key = other then [(row.name, row.records)] else [] := by
  have noClash : ¬ ∃ other ∈ tables.rows, other.Clashes row := by
    rintro ⟨other, isRow, sameKey, sameName⟩
    refine free (List.mem_map.2 ⟨(other.name, other.records), ?_, sameName⟩)
    exact List.mem_map.2 ⟨other, List.mem_filter.2 ⟨isRow, by simpa using sameKey⟩, rfl⟩
  refine ⟨_, dif_neg noClash, rfl, fun other => ?_⟩
  rw [rowsOf, rowsOf, List.filter_append, List.map_append]
  split_ifs with same <;> simp [same]

/-- Rows with names of their own are inserted one after the other, and none is refused. -/
theorem insertAll_ok (tables : Tables) (key : String) {entries : List (String × List Record)}
    (distinct : (entries.map Prod.fst).Nodup)
    (free : ∀ entry ∈ entries, entry.1 ∉ (tables.rowsOf key).map Prod.fst) :
    ∃ inserted, tables.insertAll key entries = .ok inserted ∧ inserted.keys = tables.keys ∧
      ∀ other, inserted.rowsOf other = tables.rowsOf other ++
        if key = other then entries.map fun (name, records) => (name, textOfRecords records)
        else [] := by
  induction entries generalizing tables with
  | nil => exact ⟨tables, rfl, rfl, by simp⟩
  | cons entry rest ih =>
      obtain ⟨name, records⟩ := entry
      obtain ⟨fresh, restDistinct⟩ := List.nodup_cons.1 distinct
      obtain ⟨nameFree, restFree⟩ := List.forall_mem_cons.1 free
      obtain ⟨next, inserted, keys, rows⟩ :=
        insertRow_ok ⟨key, name, textOfRecords records⟩ nameFree
      have nextFree : ∀ entry ∈ rest, entry.1 ∉ (next.rowsOf key).map Prod.fst := by
        intro entry among
        rw [rows, if_pos rfl, List.map_append, List.mem_append, List.map_singleton,
          List.mem_singleton]
        rintro (old | isName)
        · exact restFree entry among old
        · exact fresh (isName ▸ List.mem_map_of_mem among)
      obtain ⟨last, insertedRest, lastKeys, lastRows⟩ := ih _ restDistinct nextFree
      refine ⟨last, ?_, lastKeys.trans keys, fun other => ?_⟩
      · rw [insertAll, List.foldlM_cons]
        simp only [inserted]
        exact insertedRest
      · rw [lastRows, rows, List.append_assoc]
        split_ifs <;> simp

/-- A save is never refused.  It leaves one row for each saved collection under its key, none
of an earlier save, and all other keys alone. -/
theorem save_ok (tables : Tables) (key : String) (collections : Collections) :
    ∃ saved, tables.save key collections = .ok saved ∧
      (∀ other, saved.has other = (decide (key = other) || tables.has other)) ∧
      ∀ other, saved.rowsOf other =
        if key = other then
          collections.entries.map fun (name, records) => (name, textOfRecords records)
        else tables.rowsOf other := by
  have distinct : (collections.entries.map Prod.fst).Nodup :=
    List.pairwise_map.2 (collections.increasing.imp fun less => String.ne_of_lt less)
  obtain ⟨saved, inserted, keys, rows⟩ :=
    insertAll_ok ((tables.replaceKey key).deleteRows key) key distinct (by simp)
  refine ⟨saved, inserted, fun other => ?_, fun other => ?_⟩
  · rw [has, keys]
    exact has_replaceKey tables key other
  · rw [rows]
    split_ifs with same <;> simp [same]

/-- Whether tables hold what a history tells: a row for every key that has something saved,
and under it a row for each of its collections and no other row, in a form that can be
read. -/
structure Holds (tables : Tables) (history : List StorageCall) : Prop where
  has_eq : ∀ key, tables.has key = (lastSaved key history).isSome
  rows : ∀ key, tables.rowsOf key = ((lastSaved key history).getD .empty).entries.map
    fun (name, records) => (name, textOfRecords records)
  readable : ∀ key collections, lastSaved key history = some collections →
    collections.Exchangeable

theorem holds_empty (nothing : ∀ key, lastSaved key history = none) :
    Holds .empty history where
  has_eq key := by rw [nothing]; rfl
  rows key := by rw [nothing]; rfl
  readable key _ found := by cases (nothing key).symm.trans found

namespace Holds

theorem congr (held : tables.Holds history) {other : List StorageCall}
    (same : ∀ key, lastSaved key other = lastSaved key history) : tables.Holds other where
  has_eq key := by rw [held.has_eq, same]
  rows key := by rw [held.rows, same]
  readable key collections found := held.readable key collections (same key ▸ found)

theorem save (held : tables.Holds history) {collections : Collections}
    (exchangeable : collections.Exchangeable) (key : String) :
    ∃ saved, tables.save key collections = .ok saved ∧
      saved.Holds (.save key collections :: history) := by
  obtain ⟨saved, isSaved, has, rows⟩ := save_ok tables key collections
  refine ⟨saved, isSaved, fun other => ?_, fun other => ?_, fun other found isFound => ?_⟩
  · rw [has, lastSaved, held.has_eq]
    split_ifs with same <;> simp [same]
  · rw [rows, lastSaved, held.rows]
    split_ifs <;> rfl
  · rw [lastSaved] at isFound
    split_ifs at isFound
    · exact Option.some.inj isFound ▸ exchangeable
    · exact held.readable other found isFound

theorem remove (held : tables.Holds history) (key : String) :
    (tables.remove key).Holds (.remove key :: history) := by
  refine ⟨fun other => ?_, fun other => ?_, fun other found isFound => ?_⟩
  · rw [Tables.remove, has_deleteKey, has_deleteRows, lastSaved, held.has_eq]
    split_ifs with same <;> simp [same]
  · rw [Tables.remove, rowsOf_deleteKey, rowsOf_deleteRows, lastSaved, held.rows]
    split_ifs <;> rfl
  · rw [lastSaved] at isFound
    split_ifs at isFound
    exact held.readable other found isFound

/-- Of tables that are cleared no row is left, whatever they held. -/
theorem clear (tables : Tables) (history : List StorageCall) :
    tables.clear.Holds (.clear :: history) :=
  holds_empty fun _ => rfl

theorem load_eq (held : tables.Holds history) (key : String) :
    tables.load key = .ok (lastSaved key history) := by
  rw [Tables.load, find, held.has_eq, held.rows]
  cases saved : lastSaved key history with
  | none => rfl
  | some collections =>
      have read := collectionsOfRows_map collections.increasing (held.readable key _ saved)
      simp only [Option.isSome_some, if_true, Option.getD_some, read]
      rfl

end Holds

end Tables

/-! ### Databases -/

namespace VolatileTables

/-- Whether a database in memory holds what a history tells. -/
def Holds (storage : VolatileTables) (history : List StorageCall) : Prop :=
  storage.tables.Holds history

end VolatileTables

namespace DatabaseFile

variable {file : DatabaseFile} {tables : Tables} {history : List StorageCall}

/-- Whether a file has tables in it. -/
def Has (file : DatabaseFile) (tables : Tables) : Prop :=
  file.disk.find file.path = .ok (.tables tables)

/-- Whether a database in a file holds what a history tells. -/
def Holds (file : DatabaseFile) (history : List StorageCall) : Prop :=
  ∃ tables, file.Has tables ∧ tables.Holds history

end DatabaseFile

end DocStore
