import DocStore.Cli.Run
import DocStore.Proofs.SoleRecords
import DocStore.Proofs.TypedIds

/-!
# Records addressed by typed ids

The first record of a collection without a schema has the id that was typed as its field.  The
commands on a record look it up by what the same text stands for as an id, so that they come to
the record exactly where the text is read alike both times.
-/

namespace DocStore

namespace Cli.Command

/-- The commands on a record that is named by its id. -/
inductive OnRecord (collection text : String) : Command → Prop where
  | find (depth : Nat) : OnRecord collection text (.find collection text depth)
  | update (fields : Typed) : OnRecord collection text (.update collection text fields)
  | replace (fields : Typed) : OnRecord collection text (.replace collection text fields)
  | delete (dryRun : Bool) : OnRecord collection text (.delete collection text dryRun)

variable {db after : Database Medium} {collection text cwd : String} {record : Record}

/-- Whether an attempt shows a value, unless the storage fails, and leaves a collection with some
records. -/
def Leaves (attempt : Attempt (Database Medium) Shown) (db : Database Medium) (shown : Json)
    (collection : String) (records : List Record) : Prop :=
  Answers (.value shown) (attempt.outcome db).1 ∧
    (attempt.outcome db).2.store.collections = db.store.collections.insert collection records

/-- Whether an attempt shows a record as the new and only one of a collection. -/
def Changes (attempt : Attempt (Database Medium) Shown) (db : Database Medium)
    (collection : String) (stored : Record) : Prop :=
  Leaves attempt db (.object stored) collection [stored]

/-- What the changing commands do. -/
def changing (collection text : String) (change : RecordChange) : Attempt (Database Medium) Shown :=
  change.run collection (Json.readId text) >>= present collection text

/-- What is told of a trial of a deletion. -/
def trial (collection text : String) (record : Record) (dependents : List Dependent)
    (allowed : Bool) : Json :=
  .object [("dry_run", .bool true),
    ("would_delete", .object [("collection", .string collection), ("id", Json.readId text)]),
    ("allowed", .bool allowed), ("record", .object record),
    ("dependents", .array (dependents.map dependentJson))]

/-- What is told of a deletion. -/
def deletion (collection text : String) (found : Bool) : Attempt (Database Medium) Shown := do
  if found then
    return .value (.object [("ok", .bool true), ("deleted", Json.readId text)])
  else throw (.notFound collection text)

theorem run_update (fields : Typed) :
    (Command.update collection text fields).run cwd =
      changing collection text (.patch (recordOfTyped fields)) :=
  rfl

theorem run_replace (fields : Typed) :
    (Command.replace collection text fields).run cwd =
      changing collection text (.body (recordOfTyped fields)) :=
  rfl

theorem run_delete :
    (Command.delete collection text false).run cwd =
      Database.delete collection (Json.readId text) >>= deletion collection text :=
  rfl

section Missed

variable (missing : db.store.collections.find? collection (Json.readId text) = none)
include missing

theorem changing_missed (change : RecordChange) :
    (changing collection text change).outcome db = (.error (.notFound collection text), db) := by
  rw [changing, Attempt.bind_outcome, RecordChange.run_absent missing]
  rfl

theorem delete_missed :
    ∃ known, (Database.delete (A := Medium) collection (Json.readId text)).outcome db =
      (.ok false, db.keeping known) := by
  obtain ⟨known, ruled⟩ := Database.byRules_outcome
    (fun rules => Workspace.delete (A := Medium) rules collection (Json.readId text)) db
  refine ⟨known, ?_⟩
  obtain ⟨depth, isDepth⟩ := exists_cascadeDepth db.store.collections
  have deleted := Cascade.deleteWithin_missing ⟨db.registry, db.graphInUse⟩ depth
    ⟨⟨db.store, db.supply⟩, []⟩ missing
  rw [← isDepth] at deleted
  rw [Database.delete, ruled, Database.onSpace_outcome, Workspace.delete_outcome]
  have same : (Cascade.deleteWithin (A := Medium) ⟨db.registry, db.graphInUse⟩
      (db.keeping known).store.collections.cascadeDepth collection (Json.readId text)).outcome
        ⟨⟨(db.keeping known).store, (db.keeping known).supply⟩, []⟩ = _ := deleted
  rw [same]
  rfl

/-- Where no record has the id, no command does anything, and each says so. -/
theorem run_missed {command : Command} (onRecord : OnRecord collection text command) (cwd : String) :
    ∃ known, (command.run cwd).outcome db =
      (.error (.notFound collection text), db.keeping known) := by
  cases onRecord with
  | find depth =>
      refine ⟨db.knownGraph, ?_⟩
      rw [run, Attempt.bind_outcome, Database.show?, Attempt.bind_outcome, Database.find?_outcome,
        missing]
      rfl
  | update fields =>
      refine ⟨db.knownGraph, ?_⟩
      rw [run_update]
      exact changing_missed missing _
  | replace fields =>
      refine ⟨db.knownGraph, ?_⟩
      rw [run_replace]
      exact changing_missed missing _
  | delete dryRun =>
      cases dryRun with
      | true =>
          refine ⟨db.knownGraph, ?_⟩
          simp only [run]
          rw [Attempt.bind_outcome, Database.find?_outcome, missing]
          rfl
      | false =>
          obtain ⟨known, deleted⟩ := delete_missed missing
          refine ⟨known, ?_⟩
          rw [run_delete, Attempt.bind_outcome, deleted]
          rfl

end Missed

section Found

variable (found : db.store.collections.find? collection (Json.readId text) = some record)
include found

theorem show?_found (depth : Nat) :
    (Database.show? (A := Medium) collection (Json.readId text) depth).outcome db =
      (.ok (some (db.graphInUse.expand db.store.collections depth collection record)),
        db.keeping (some (db.registry.generation, db.graphInUse))) := by
  rw [Database.show?, Attempt.bind_outcome, Database.find?_outcome, found]
  simp only
  rw [Attempt.bind_outcome, Database.expand, Attempt.bind_outcome, Database.graph_outcome]
  rfl

theorem run_trial (cwd : String) :
    ∃ allowed known, ((Command.delete collection text true).run cwd).outcome db =
      (.ok (.value (trial collection text record (db.graphInUse.dependentsOf collection) allowed)),
        db.keeping known) := by
  let kept := db.keeping (some (db.registry.generation, db.graphInUse))
  refine ⟨kept.graphInUse.canDelete db.store.collections collection (Json.readId text),
    some (db.registry.generation, kept.graphInUse), ?_⟩
  simp only [run]
  rw [Attempt.bind_outcome, Database.find?_outcome, found]
  simp only
  rw [Attempt.bind_outcome, Database.dependentsOf_outcome]
  simp only
  rw [Attempt.bind_outcome, Database.canDelete, Attempt.bind_outcome, Database.graph_outcome kept]
  rfl

end Found

/-- Whether a text addresses a record: the record is found, shown and named in a trial of its
deletion.  Where nothing depends on the collection, it is also what is changed and deleted. -/
structure Addresses (db : Database Medium) (collection text : String) (record : Record) : Prop where
  found : db.store.collections.find? collection (Json.readId text) = some record
  shown : ∀ cwd, ∃ known, ((Command.find collection text 0).run cwd).outcome db =
    (.ok (.value (.object record)), db.keeping known)
  tried : ∀ cwd, ∃ allowed known, ((Command.delete collection text true).run cwd).outcome db =
    (.ok (.value (trial collection text record (db.graphInUse.dependentsOf collection) allowed)),
      db.keeping known)
  updated : db.graphInUse.dependentsOf collection = [] → ∀ cwd fields,
    Changes ((Command.update collection text fields).run cwd) db collection
      ((RecordChange.patch (recordOfTyped fields)).versionOf (Json.readId text) record)
  replaced : db.graphInUse.dependentsOf collection = [] → ∀ cwd fields,
    Changes ((Command.replace collection text fields).run cwd) db collection
      ((RecordChange.body (recordOfTyped fields)).versionOf (Json.readId text) record)
  deleted : db.graphInUse.dependentsOf collection = [] → ∀ cwd,
    Leaves ((Command.delete collection text false).run cwd) db
      (.object [("ok", .bool true), ("deleted", Json.readId text)]) collection []

/-- Whether a text addresses nothing: every command on it says so and leaves the store alone. -/
def Misses (db : Database Medium) (collection text : String) : Prop :=
  ∀ command, OnRecord collection text command → ∀ cwd, ∃ known,
    (command.run cwd).outcome db = (.error (.notFound collection text), db.keeping known)

section Sole

variable {own : Json} (sole : db.store.collections.records collection = [record])
  (isId : record.id? = some own)
include sole isId

theorem misses_sole (other : (Json.readId text).same own = false) : Misses db collection text := by
  have missing : record.hasId (Json.readId text) = false := by
    rw [← Bool.not_eq_true, Record.hasId_iff]
    rintro ⟨_, isOwn, same⟩
    obtain rfl := Option.some.inj (isId.symm.trans isOwn)
    rw [Json.same_readId_comm, other] at same
    cases same
  exact fun command onRecord cwd =>
    run_missed (Collections.find?_sole_eq_none sole missing) onRecord cwd

section Same

variable (same : (Json.readId text).same own = true)
include same

theorem changing_sole (unregistered : db.registry.find? collection = none)
    (alone : db.graphInUse.dependentsOf collection = []) (change : RecordChange) :
    Changes (changing collection text change) db collection
      (change.versionOf (Json.readId text) record) := by
  have ownSame := (Json.same_readId_comm text own).trans same
  obtain ⟨answers, leaves⟩ := Database.change_sole sole isId ownSame alone
    (fun _ => Json.same_readId_of_same same) unregistered change
  have told (stored : Record) (middle : Database Medium) :
      (present collection text (some stored)).outcome middle =
        (.ok (.value (.object stored)), middle) := rfl
  obtain ⟨shown, sameAfter⟩ := answers.bind (told _)
  exact ⟨shown, (congrArg (·.store.collections) sameAfter).trans leaves⟩

theorem deletion_sole (alone : db.graphInUse.dependentsOf collection = []) :
    Leaves (Database.delete collection (Json.readId text) >>= deletion collection text) db
      (.object [("ok", .bool true), ("deleted", Json.readId text)]) collection [] := by
  have ownSame := (Json.same_readId_comm text own).trans same
  obtain ⟨answers, leaves⟩ := Database.delete_sole sole isId ownSame alone
  have told (middle : Database Medium) : (deletion collection text true).outcome middle =
      (.ok (.value (.object [("ok", .bool true), ("deleted", Json.readId text)])), middle) := rfl
  obtain ⟨shown, sameAfter⟩ := answers.bind told
  exact ⟨shown, (congrArg (·.store.collections) sameAfter).trans leaves⟩

theorem addresses_sole (unregistered : db.registry.find? collection = none) :
    Addresses db collection text record := by
  have ownSame := (Json.same_readId_comm text own).trans same
  have found := Collections.find?_sole sole (Record.hasId_iff.2 ⟨own, isId, ownSame⟩)
  constructor
  case found => exact found
  case shown =>
    intro cwd
    refine ⟨some (db.registry.generation, db.graphInUse), ?_⟩
    rw [run, Attempt.bind_outcome, show?_found found]
    rfl
  case tried => exact run_trial found
  case updated =>
    intro alone cwd fields
    rw [run_update]
    exact changing_sole sole isId same unregistered alone _
  case replaced =>
    intro alone cwd fields
    rw [run_replace]
    exact changing_sole sole isId same unregistered alone _
  case deleted =>
    intro alone cwd
    rw [run_delete]
    exact deletion_sole sole isId same alone

end Same

end Sole

/-- The id of a first record is the one that was typed, and a one where `null` was. -/
theorem id?_of_first (source : (record = [(idField, Json.ofTyped text)] ∧
      ∃ id, Record.id? [(idField, Json.ofTyped text)] = some id) ∨
    ∃ id, Record.id? [(idField, Json.ofTyped text)] = none ∧
      Collections.nextId collection [] = .ok id ∧
      record = Record.withId [(idField, Json.ofTyped text)] id) :
    ∃ own, record.id? = some own ∧
      ((Json.readId text).same own = true ↔ Json.ReadAlike text) := by
  by_cases isNull : Json.ofTyped text = .null
  · obtain ⟨-, id, own⟩ | ⟨id, -, next, rfl⟩ := source
    · rw [isNull] at own
      cases own
    · obtain rfl : Json.ofInt 1 = id := Except.ok.inj next
      have read := Json.read?_of_ofTyped_null isNull
      refine ⟨.ofInt 1, Record.id?_withId (by simp [Json.ofInt]), ?_⟩
      rw [Json.readId_of_null read, Json.ReadAlike, read]
      simp [Json.ofInt, Json.same, Json.sameBy]
  · have own : Record.id? [(idField, Json.ofTyped text)] = some (Json.ofTyped text) :=
      Record.linked?_eq_some.2 ⟨rfl, isNull⟩
    obtain ⟨rfl, -⟩ | ⟨id, noId, -⟩ := source
    · exact ⟨_, own, Json.same_ofTyped_iff text⟩
    · rw [own] at noId
      cases noId

/-- What an insertion into an empty collection without a schema leaves. -/
theorem insert_ok (unregistered : db.registry.find? collection = none)
    (empty : db.store.collections.records collection = [])
    (inserted : ((Command.insert collection [(idField, text)]).run cwd).outcome db =
      (.ok (.value (.object record)), after)) :
    after.registry = db.registry ∧ after.store.collections.records collection = [record] ∧
      ∃ own, record.id? = some own ∧
        ((Json.readId text).same own = true ↔ Json.ReadAlike text) := by
  rw [run] at inserted
  obtain ⟨created, final, creation, shown⟩ := Attempt.bind_ok_iff.1 inserted
  simp only [Attempt.pure_outcome, Prod.mk.injEq, Except.ok.injEq, Shown.value.injEq,
    Json.object.injEq] at shown
  obtain ⟨rfl, rfl⟩ := shown
  obtain ⟨sameRegistry, added, source⟩ := Database.create_unregistered unregistered creation
  have typed : recordOfTyped [(idField, text)] = [(idField, Json.ofTyped text)] := rfl
  rw [typed, empty] at source
  rw [empty, List.nil_append] at added
  refine ⟨sameRegistry, ?_, id?_of_first source⟩
  rw [added, Collections.records_insert_self]

/-- The first record of a collection without a schema is addressed by the text of its id exactly
where that text is read alike as a field and as an id, which all integers are and all short
decimals. -/
theorem insert_then_addressed_iff (unregistered : db.registry.find? collection = none)
    (empty : db.store.collections.records collection = [])
    (inserted : ((Command.insert collection [(idField, text)]).run cwd).outcome db =
      (.ok (.value (.object record)), after)) :
    after.store.collections.records collection = [record] ∧
      (∃ own, record.id? = some own ∧
        ((Json.readId text).same own = true ↔ Json.ReadAlike text)) ∧
      (Json.ReadAlike text → Addresses after collection text record) ∧
      (¬ Json.ReadAlike text → Misses after collection text) ∧
      ∀ number digits, Json.read? text = some (.number number) →
        Json.spelling? text = some digits → (∃ m, number = .int m) ∨ digits.Short →
          Json.ReadAlike text := by
  obtain ⟨sameRegistry, sole, own, isId, alike⟩ := insert_ok unregistered empty inserted
  refine ⟨sole, ⟨own, isId, alike⟩, fun isAlike => ?_, fun notAlike => ?_, fun _ _ =>
    Json.readAlike_of_number⟩
  · rw [← sameRegistry] at unregistered
    exact addresses_sole sole isId (alike.2 isAlike) unregistered
  · apply misses_sole sole isId
    rw [← Bool.not_eq_true]
    exact fun same => notAlike (alike.1 same)

/-- A database in memory without schemas and collections. -/
def blankDatabase : Database Medium :=
  .ofStore {} (.start 0 0) { storage := { disk := {}, home := .memory {} }, key := "data" }

/-- A padded integer is a JSON text, and an id once it is trimmed. -/
theorem insert_then_addressed_padded :
    ∃ created after,
      ((Command.insert "books" [(idField, " 5 ")]).run "").outcome blankDatabase =
        (.ok (.value (.object created)), after) ∧ Addresses after "books" " 5 " created := by
  obtain ⟨created, after, inserted⟩ : ∃ created after,
      ((Command.insert "books" [(idField, " 5 ")]).run "").outcome blankDatabase =
        (.ok (.value (.object created)), after) := ⟨_, _, rfl⟩
  obtain ⟨-, -, addressed, -, plain⟩ := insert_then_addressed_iff rfl rfl inserted
  obtain ⟨five, read⟩ : ∃ m, Json.read? " 5 " = some (.number (.int m)) := ⟨_, rfl⟩
  have alike : Json.ReadAlike " 5 " := plain _ _ read rfl (.inl ⟨five, rfl⟩)
  exact ⟨created, after, inserted, addressed alike⟩

/-- A quoted text loses its quotes where it is typed as a field and keeps them where it is typed
as an id. -/
theorem insert_quoted_missed :
    blankDatabase.registry.find? "books" = none ∧
      blankDatabase.store.collections.records "books" = [] ∧
      ∃ after, ((Command.insert "books" [(idField, "\"ada\"")]).run "").outcome blankDatabase =
          (.ok (.value (.object [(idField, .string "ada")])), after) ∧
        (Json.readId "\"ada\"").same (.string "ada") = false ∧
        Misses after "books" "\"ada\"" := by
  have other : (Json.readId "\"ada\"").same (.string "ada") = false := rfl
  refine ⟨rfl, rfl, _, rfl, other, ?_⟩
  exact misses_sole rfl rfl other

end Cli.Command

end DocStore
