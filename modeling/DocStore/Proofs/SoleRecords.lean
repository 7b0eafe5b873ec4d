import DocStore.Proofs.ChangeRefusal
import DocStore.Proofs.CreatedRecords
import DocStore.Proofs.DeletionReach

/-!
# Collections of one record

The only record of a collection without a schema, on which nothing depends, can be changed in
any way and deleted by every id that is equal to its own.  Nothing but the storage can fail.
-/

namespace DocStore

/-- Whether a result is an answer unless the storage fails. -/
def Answers {α : Type} (answer : α) (result : Except Failure α) : Prop :=
  result = .ok answer ∨ ∃ problem, result = .error (.storage problem)

theorem Answers.bind {σ α β : Type} {first : Attempt σ α} {next : α → Attempt σ β} {state : σ}
    {answer : α} {final : β} (answers : Answers answer (first.outcome state).1)
    (tells : ∀ middle, (next answer).outcome middle = (.ok final, middle)) :
    Answers final ((first >>= next).outcome state).1 ∧
      ((first >>= next).outcome state).2 = (first.outcome state).2 := by
  rw [Attempt.bind_outcome]
  rcases ran : first.outcome state with ⟨result, middle⟩
  rw [ran] at answers
  rcases answers with rfl | ⟨problem, rfl⟩
  · simp only [tells, and_true]
    exact .inl rfl
  · exact ⟨.inr ⟨problem, rfl⟩, rfl⟩

namespace Collections

variable {collections : Collections} {name : String} {id : Json} {record : Record}

theorem find?_sole (sole : collections.records name = [record]) (found : record.hasId id = true) :
    collections.find? name id = some record := by
  simp [find?, sole, found]

theorem find?_sole_eq_none (sole : collections.records name = [record])
    (other : record.hasId id = false) : collections.find? name id = none := by
  simp [find?, sole, other]

/-- The only record of a collection is replaced whatever the id of the new one. -/
theorem replace_sole (sole : collections.records name = [record]) (found : record.hasId id = true)
    (updated : Record) :
    replace name id updated collections =
      .ok (some (updated.identifiedBy id),
        some (collections.insert name [updated.identifiedBy id])) := by
  have outcome := amend_outcome collections name id fun _ => updated
  have alone {before after : List Record} {other : Record}
      (split : collections.records name = before ++ other :: after) :
      before = [] ∧ after = [] := by
    have length := congrArg List.length (sole.symm.trans split)
    simp only [List.length_append, List.length_cons, List.length_nil] at length
    exact ⟨List.eq_nil_of_length_eq_zero (by omega), List.eq_nil_of_length_eq_zero (by omega)⟩
  unfold replace
  generalize amend name id (fun _ => updated) collections = result at outcome
  cases outcome with
  | missing absent =>
      rw [absent record (by simp [sole])] at found
      cases found
  | taken split _ _ other member =>
      obtain ⟨rfl, rfl⟩ := alone split
      cases member
  | changed split =>
      obtain ⟨rfl, rfl⟩ := alone split
      rfl

end Collections

theorem Store.commit_answers {A α : Type} [Adapter A] {edit : Edit α} {store : Store A}
    {answer : α} {changed : Collections}
    (made : edit store.collections = .ok (answer, some changed)) :
    Answers answer ((commit edit).outcome store).1 ∧
      ((commit edit).outcome store).2.collections = changed := by
  refine ⟨?_, by rw [commit_collections, Edit.applied, made]⟩
  rw [commit_made made]
  cases saved : (persist.outcome { store with collections := changed }).1 with
  | ok _ => exact .inl rfl
  | error failure =>
      obtain ⟨problem, rfl⟩ := persist_error (Prod.ext saved rfl)
      exact .inr ⟨problem, rfl⟩

theorem exists_cascadeDepth (collections : Collections) :
    ∃ depth, collections.cascadeDepth = depth + 1 := by
  apply Nat.exists_eq_add_one.2
  unfold Collections.cascadeDepth
  omega

theorem Cascade.deleteWithin_missing {A : Type} [Adapter A] (rules : ReferenceRules) (depth : Nat)
    (cascade : Cascade A) {collection : String} {id : Json}
    (missing : cascade.held.find? collection id = none) :
    (deleteWithin rules (depth + 1) collection id).outcome cascade = (.ok false, cascade) := by
  have reads : (collections (A := A)).outcome cascade = (.ok cascade.held, cascade) := rfl
  rw [deleteWithin, Attempt.bind_outcome, reads]
  simp only [missing]
  rfl

/-- Where nothing depends on a collection, its only record goes at any depth. -/
theorem Cascade.deleteWithin_sole {A : Type} [Adapter A] (rules : ReferenceRules) (depth : Nat)
    (space : Workspace A) {collection : String} {id : Json} {record : Record}
    (alone : rules.graph.dependentsOf collection = [])
    (sole : space.store.collections.records collection = [record])
    (holds : record.hasId id = true) :
    Answers true ((deleteWithin rules (depth + 1) collection id).outcome ⟨space, []⟩).1 ∧
      ((deleteWithin rules (depth + 1) collection id).outcome ⟨space, []⟩).2.held =
        space.store.collections.insert collection [] := by
  have removed : Collections.remove collection id space.store.collections =
      .ok (true, some (space.store.collections.insert collection [])) := by
    simp [Collections.remove, sole, holds]
  have outcome := deleteWithin_outcome rules depth collection id ⟨space, []⟩
  generalize (deleteWithin rules (depth + 1) collection id).outcome ⟨space, []⟩ = result
    at outcome ⊢
  cases outcome with
  | missing absent => cases absent.symm.trans (Collections.find?_sole sole holds)
  | again visited => cases visited
  | restricted _ _ blocks =>
      rw [ReferenceGraph.restricting, alone] at blocks
      cases blocks
  | followed _ _ _ =>
      rw [applyPolicies, alone]
      exact Store.commit_answers removed

/-- The new version of a record that no schema wants otherwise. -/
def RecordChange.unprepared (id : Json) (existing : Record) : RecordChange → Record
  | .body record => Database.completed none id existing record
  | .patch fields => existing.putAll fields

/-- The new version as it is stored. -/
def RecordChange.versionOf (change : RecordChange) (id : Json) (existing : Record) : Record :=
  (change.unprepared id existing).identifiedBy id

namespace Database

variable {A : Type} [Adapter A] {db : Database A} {collection : String} {id : Json}
  {record : Record}

/-- Where nothing depends on a collection, a new version of a record is stored and no more. -/
theorem commitFree_alone (alone : db.graphInUse.dependentsOf collection = []) (id : Json)
    (existing updated : Record) :
    ∃ known, (commitFree collection id existing updated).outcome db =
      (commit (Collections.replace collection id updated)).outcome (db.keeping known) := by
  have unchanged (old new : Record) : db.graphInUse.keyChanges collection old new = [] := by
    simp [ReferenceGraph.keyChanges, alone]
  have checks (present : Database A) : (onSpace (Workspace.checkKeyChanges
      ⟨db.registry, db.graphInUse⟩ collection existing updated)).outcome present =
        (.ok (), present) := by
    unfold Workspace.checkKeyChanges
    simp only [unchanged]
    rfl
  have follows (stored : Record) (present : Database A) : (onSpace (Workspace.followKeyChanges
      ⟨db.registry, db.graphInUse⟩ collection existing stored)).outcome present =
        (.ok 0, present) := by
    unfold Workspace.followKeyChanges
    simp only [unchanged]
    rfl
  obtain ⟨known, ruled⟩ := rules_outcome db
  refine ⟨known, ?_⟩
  rw [commitFree, Attempt.bind_outcome, ruled]
  simp only
  rw [Attempt.bind_outcome, checks]
  simp only
  rw [Attempt.bind_outcome]
  rcases (commit (Collections.replace collection id updated)).outcome (db.keeping known) with
    ⟨failure | stored, after⟩
  · rfl
  · cases stored with
    | none => rfl
    | some stored =>
        simp only
        rw [Attempt.bind_outcome, follows]
        rfl

omit [Adapter A] in
theorem prepare_unregistered (unregistered : db.registry.find? collection = none)
    (isNew lenient : Bool) (version : Record) :
    (prepare collection isNew lenient version).outcome db = (.ok version, db) := by
  rw [prepare, Attempt.get_bind_outcome]
  simp only [unregistered]
  rfl

section Sole

variable {own : Json} (sole : db.store.collections.records collection = [record])
  (isId : record.id? = some own) (same : own.same id = true)
  (alone : db.graphInUse.dependentsOf collection = [])
include sole isId same alone

theorem commitChange_sole (kind : ∀ other, own.same other = true → other.same id = true)
    (updated : Record) :
    Answers (some (updated.identifiedBy id))
        ((commitChange collection id record updated).outcome db).1 ∧
      ((commitChange collection id record updated).outcome db).2.store.collections =
        db.store.collections.insert collection [updated.identifiedBy id] := by
  have found : record.hasId id = true := Record.hasId_iff.2 ⟨own, isId, same⟩
  rcases commitChange_outcome collection id record updated db with
    ⟨newId, ⟨-, differs, taken⟩, -⟩ | free
  · -- The record itself is the only one that could have the new id.
    exfalso
    obtain ⟨other, isFound⟩ := Option.isSome_iff_exists.1 taken
    obtain ⟨member, holds⟩ := Collections.mem_of_find? isFound
    rw [sole, List.mem_singleton] at member
    subst member
    obtain ⟨_, isOwn, sameNew⟩ := Record.hasId_iff.1 holds
    obtain rfl := Option.some.inj (isId.symm.trans isOwn)
    rw [kind newId sameNew] at differs
    cases differs
  · obtain ⟨known, committed⟩ := commitFree_alone alone id record updated
    rw [free, committed]
    exact Store.commit_answers (Collections.replace_sole sole found updated)

/-- The only record of a collection without a schema can be changed in any way. -/
theorem change_sole (kind : ∀ other, own.same other = true → other.same id = true)
    (unregistered : db.registry.find? collection = none) (change : RecordChange) :
    Answers (some (change.versionOf id record)) ((change.run collection id).outcome db).1 ∧
      ((change.run collection id).outcome db).2.store.collections =
        db.store.collections.insert collection [change.versionOf id record] := by
  have found : record.hasId id = true := Record.hasId_iff.2 ⟨own, isId, same⟩
  have prepared : change.prepared collection id record db =
      (.ok (change.unprepared id record), db) := by
    cases change with
    | body body =>
        rw [RecordChange.prepared, unregistered]
        exact prepare_unregistered unregistered _ _ _
    | patch fields => exact prepare_unregistered unregistered _ _ _
  rw [RecordChange.run_found (Collections.find?_sole sole found), prepared]
  exact commitChange_sole sole isId same alone kind (change.unprepared id record)

theorem delete_sole :
    Answers true ((Database.delete collection id).outcome db).1 ∧
      ((Database.delete collection id).outcome db).2.store.collections =
        db.store.collections.insert collection [] := by
  have holds : record.hasId id = true := Record.hasId_iff.2 ⟨own, isId, same⟩
  obtain ⟨known, ruled⟩ := byRules_outcome (fun rules => Workspace.delete rules collection id) db
  obtain ⟨depth, isDepth⟩ := exists_cascadeDepth db.store.collections
  have deleted := Cascade.deleteWithin_sole ⟨db.registry, db.graphInUse⟩ depth
    ⟨db.store, db.supply⟩ alone sole holds
  rw [← isDepth] at deleted
  rw [Database.delete, ruled, onSpace_outcome, Workspace.delete_outcome]
  exact deleted

end Sole

theorem create_unregistered {after : Database A} {created : Record}
    (unregistered : db.registry.find? collection = none)
    (creation : (create collection record).outcome db = (.ok created, after)) :
    after.registry = db.registry ∧
      after.store.collections = db.store.collections.insert collection
        (db.store.collections.records collection ++ [created]) ∧
      ((created = record ∧ ∃ id, record.id? = some id) ∨
        ∃ id, record.id? = none ∧
          Collections.nextId collection (db.store.collections.records collection) = .ok id ∧
          created = record.withId id) := by
  rw [create, Attempt.bind_outcome, prepare_unregistered unregistered] at creation
  exact onStore_add_ok creation

end Database

end DocStore
