import DocStore.Proofs.DatabaseParts
import DocStore.Proofs.RefusedFollowing
import DocStore.Storage.Memory

/-!
# Refused changes

A change of a stored record that is invalid, or that a restriction stands against,
is refused before anything is stored, with one exception: a new version that itself
holds a key which it gives up.  No stored record need stand against such a change
beforehand, and the restriction is met after the new version is stored.
-/

namespace DocStore

namespace Database

variable {A : Type} [Adapter A]

/-- What is left of storing a new version once its id is found to be free. -/
def commitFree (collection : String) (id : Json) (existing updated : Record) :
    Attempt (Database A) (Option Record) := do
  let rules ← rules
  onSpace (Workspace.checkKeyChanges rules collection existing updated)
  match ← commit (Collections.replace collection id updated) with
  | none => return none
  | some stored =>
    let count ← onSpace (Workspace.followKeyChanges rules collection existing stored)
    if count = 0 then return some stored
    match stored.id? with
    | some newId => find? collection newId
    | none => return none

/-- Either the new id is taken, or the rest is done. -/
theorem commitChange_outcome (collection : String) (id : Json) (existing updated : Record)
    (db : Database A) :
    (∃ newId, (updated.id? = some newId ∧ newId.same id = false ∧
          (db.store.collections.find? collection newId).isSome = true) ∧
        (commitChange collection id existing updated).outcome db =
          (.error (.duplicateId collection newId), db)) ∨
      (commitChange collection id existing updated).outcome db =
        (commitFree collection id existing updated).outcome db := by
  unfold commitChange
  simp only
  split
  · rename_i newId own
    rw [Attempt.bind_outcome, find?_outcome]
    simp only
    split_ifs with taken
    · simp only [Bool.and_eq_true, Bool.not_eq_true'] at taken
      exact .inl ⟨newId, ⟨own, taken⟩, rfl⟩
    · exact .inr rfl
  · exact .inr rfl

theorem commitChange_refused {collection : String} {id : Json} {existing updated : Record}
    {db after : Database A} {failure : Failure}
    (failed : (commitChange collection id existing updated).outcome db = (.error failure, after))
    (refusal : failure.IsRefusal) :
    (commitFree collection id existing updated).outcome db = (.error failure, after) := by
  rcases commitChange_outcome collection id existing updated db with ⟨newId, -, taken⟩ | free
  · rw [taken] at failed
    obtain rfl := Except.error.inj (Prod.mk.inj failed).1
    exact refusal.elim
  · exact free.symm.trans failed

/-- A refusal comes from the check, or from the plan after the new version is stored. -/
theorem commitFree_refused {collection : String} {id : Json} {existing updated : Record}
    {db after : Database A} {failure : Failure}
    (failed : (commitFree collection id existing updated).outcome db = (.error failure, after))
    (refusal : failure.IsRefusal) :
    ((∃ change, KeyChange.Forbidden db.store.collections
        (db.graphInUse.keyChanges collection existing updated) change) ∧
      after.store = db.store) ∨
    ((∀ change, ¬ KeyChange.Forbidden db.store.collections
        (db.graphInUse.keyChanges collection existing updated) change) ∧
      ∃ stored changed,
        Collections.replace collection id updated db.store.collections =
          .ok (some stored, changed) ∧
        after.store.collections = changed.getD db.store.collections ∧
        ∃ change, KeyChange.Forbidden after.store.collections
          (db.graphInUse.keyChanges collection existing stored) change) := by
  obtain ⟨known, ruled⟩ := rules_outcome db
  unfold commitFree at failed
  rw [Attempt.bind_outcome, ruled] at failed
  simp only at failed
  rw [Attempt.bind_outcome, onSpace_outcome] at failed
  rcases Workspace.checkKeyChanges_outcome ⟨db.registry, db.graphInUse⟩ collection existing updated
    ⟨db.store, db.supply⟩ with ⟨forbidden, reason, checked⟩ | ⟨allowed, checked⟩
  · left
    refine ⟨forbidden, ?_⟩
    simp only [keeping, checked] at failed
    rw [← (Prod.mk.inj failed).2]
  · right
    refine ⟨allowed, ?_⟩
    simp only [keeping, checked] at failed
    rcases Attempt.bind_error_iff.1 failed with commitFailed | ⟨answer, middle, committed, failed⟩
    · rw [commit, onStore, Attempt.onPart_outcome, Prod.mk.injEq] at commitFailed
      exact absurd refusal (Workspace.commit_fails (fun _ _ => Collections.replace_error) _ _ _
        (Prod.ext commitFailed.1 rfl))
    · rw [commit, onStore, Attempt.onPart_outcome, Prod.mk.injEq] at committed
      obtain ⟨changed, replaced, kept⟩ := Store.commit_ok (Prod.ext committed.1 rfl)
      have middleKept : middle.store.collections = changed.getD db.store.collections := by
        rw [← committed.2]
        exact kept
      cases answer with
      | none => cases failed
      | some stored =>
          refine ⟨stored, changed, replaced, ?_⟩
          rcases Attempt.bind_error_iff.1 failed with followFailed | ⟨count, last, -, failed⟩
          · rw [onSpace_outcome, Prod.mk.injEq] at followFailed
            obtain ⟨forbidden, stays⟩ :=
              Workspace.followChanges_refused (Prod.ext followFailed.1 rfl) refusal
            have same : after.store = middle.store := by
              rw [← followFailed.2]
              exact congrArg Workspace.store stays
            rw [same]
            exact ⟨middleKept, forbidden⟩
          · exfalso
            split_ifs at failed
            · cases failed
            · split at failed <;> cases failed

end Database

/-- A change of a stored record: a body in its place, or a patch put into it. -/
inductive RecordChange where
  | body (record : Record)
  | patch (fields : Record)

namespace RecordChange

variable {A : Type}

/-- The new version of the record, as the schema of its collection wants it. -/
def prepared (change : RecordChange) (collection : String) (id : Json) (existing : Record)
    (db : Database A) : Except Failure Record × Database A :=
  match change with
  | body record =>
    (Database.prepare collection false false
      (Database.completed (db.registry.find? collection) id existing record)).outcome db
  | patch fields =>
    (Database.prepare collection false true (Fields.putAll existing fields)).outcome db

/-- Whether the new version of a record holds a key that it gives up, where a
restriction decides that no stored record stood against. -/
def MeetsItself (change : RecordChange) (collection : String) (id : Json)
    (db : Database A) : Prop :=
  ∃ existing updated,
    db.store.collections.find? collection id = some existing ∧
    (change.prepared collection id existing db).1 = .ok updated ∧
    (∀ early, ¬ KeyChange.Forbidden db.store.collections
      (db.graphInUse.keyChanges collection existing updated) early) ∧
    ∃ late, KeyChange.Decides
        (db.graphInUse.keyChanges collection existing (updated.identifiedBy id)) late ∧
      late.dependent.onUpdate = some .restrict ∧
      late.dependent.collection = collection ∧
      (updated.identifiedBy id).holds late.dependent.field late.old = true

theorem prepared_db (change : RecordChange) (collection : String) (id : Json)
    (existing : Record) (db : Database A) :
    ∃ supply, (change.prepared collection id existing db).2 = { db with supply } := by
  cases change with
  | body record => exact Database.prepare_outcome ..
  | patch fields => exact Database.prepare_outcome ..

variable [Adapter A]

/-- Makes the change. -/
def run (change : RecordChange) (collection : String) (id : Json) :
    Attempt (Database A) (Option Record) :=
  match change with
  | body record => Database.replace collection id record
  | patch fields => Database.patch collection id fields

theorem run_absent {change : RecordChange} {collection : String} {id : Json} {db : Database A}
    (absent : db.store.collections.find? collection id = none) :
    (change.run collection id).outcome db = (.ok none, db) := by
  have searched : (Database.find? (A := A) collection id).outcome db = (.ok none, db) := by
    rw [Database.find?_outcome, absent]
  cases change with
  | body record =>
      rw [run, Database.replace, Attempt.bind_outcome, searched]
      rfl
  | patch fields =>
      rw [run, Database.patch, Attempt.bind_outcome, searched]
      rfl

theorem run_found {change : RecordChange} {collection : String} {id : Json} {db : Database A}
    {existing : Record} (found : db.store.collections.find? collection id = some existing) :
    (change.run collection id).outcome db =
      match change.prepared collection id existing db with
      | (.ok updated, middle) =>
        (Database.commitChange collection id existing updated).outcome middle
      | (.error failure, middle) => (.error failure, middle) := by
  have searched : (Database.find? (A := A) collection id).outcome db =
      (.ok (some existing), db) := by
    rw [Database.find?_outcome, found]
  cases change with
  | body record =>
      rw [run, Database.replace, Attempt.bind_outcome, searched]
      simp only [Attempt.get_bind_outcome]
      rw [Attempt.bind_outcome, prepared]
      rcases (Database.prepare collection false false (Database.completed
        (db.registry.find? collection) id existing record)).outcome db with
        ⟨failure | updated, middle⟩ <;> rfl
  | patch fields =>
      rw [run, Database.patch, Attempt.bind_outcome, searched]
      simp only
      rw [Attempt.bind_outcome, prepared]
      rcases (Database.prepare collection false true (Fields.putAll existing fields)).outcome db
        with ⟨failure | updated, middle⟩ <;> rfl

/-- A refused change found its record, and was refused either while its new version
was prepared or while it was stored. -/
theorem run_refused {change : RecordChange} {collection : String} {id : Json}
    {db after : Database A} {failure : Failure}
    (failed : (change.run collection id).outcome db = (.error failure, after)) :
    ∃ existing, db.store.collections.find? collection id = some existing ∧
      (change.prepared collection id existing db = (.error failure, after) ∨
        ∃ updated middle, change.prepared collection id existing db = (.ok updated, middle) ∧
          (Database.commitChange collection id existing updated).outcome middle =
            (.error failure, after)) := by
  cases found : db.store.collections.find? collection id with
  | none =>
      rw [run_absent found] at failed
      cases failed
  | some existing =>
      refine ⟨existing, rfl, ?_⟩
      rw [run_found found] at failed
      rcases prepared : change.prepared collection id existing db with ⟨reason | updated, middle⟩
      · rw [prepared] at failed
        obtain ⟨same, rfl⟩ := Prod.mk.inj failed
        obtain rfl := Except.error.inj same
        exact .inl rfl
      · rw [prepared] at failed
        exact .inr ⟨updated, middle, rfl, failed⟩

/-- A change that only restricts once its new version is stored is met by that version
itself. -/
theorem meets_of_forbidden {graph : ReferenceGraph} {collections : Collections}
    {collection : String} {id : Json} {existing updated : Record} {before after : List Record}
    (split : collections.records collection = before ++ existing :: after)
    (found : existing.hasId id = true)
    (allowed : ∀ early, ¬ KeyChange.Forbidden collections
      (graph.keyChanges collection existing updated) early)
    {late : KeyChange}
    (forbidden : KeyChange.Forbidden
      (collections.insert collection (before ++ updated.identifiedBy id :: after))
      (graph.keyChanges collection existing (updated.identifiedBy id)) late) :
    late.dependent.collection = collection ∧
      (updated.identifiedBy id).holds late.dependent.field late.old = true := by
  have early : KeyChange.Decides (graph.keyChanges collection existing updated) late := by
    have decides := forbidden.decides
    unfold Record.identifiedBy at decides
    split at decides
    · exact decides
    · rw [graph.keyChanges_withId collection found] at decides
      exact KeyChange.decides_of_filter decides
  have free : ∀ record ∈ collections.records late.dependent.collection,
      record.holds late.dependent.field late.old = false := by
    intro record member
    refine Bool.eq_false_iff.2 fun holds => allowed late ⟨early, forbidden.restricts, ?_⟩
    exact List.ne_nil_of_mem (Collections.mem_holding.2 ⟨member, holds⟩)
  obtain ⟨record, isHolder⟩ := List.exists_mem_of_ne_nil _ forbidden.held
  obtain ⟨member, holds⟩ := Collections.mem_holding.1 isHolder
  by_cases same : collection = late.dependent.collection
  · refine ⟨same.symm, ?_⟩
    rw [← same, Collections.records_insert_self] at member
    rw [← same, split] at free
    rcases List.mem_append.1 member with inBefore | inRest
    · rw [free record (List.mem_append_left _ inBefore)] at holds
      cases holds
    · rcases List.mem_cons.1 inRest with rfl | inAfter
      · exact holds
      · rw [free record (List.mem_append_right _ (List.mem_cons_of_mem _ inAfter))] at holds
        cases holds
  · rw [Collections.records_insert_of_ne same] at member
    rw [free record member] at holds
    cases holds

/-- A change that is refused as invalid or for the references to it leaves the store
as it was, and is not saved, exactly if its new version does not itself hold a key
that it gives up under a restriction. -/
theorem store_eq_of_refused_iff {change : RecordChange} {collection : String} {id : Json}
    {db after : Database A} {failure : Failure}
    (distinct : ∀ record ∈ db.store.collections.records collection,
      (Json.object record).DistinctNames)
    (failed : (change.run collection id).outcome db = (.error failure, after))
    (refusal : failure.IsRefusal) :
    after.store = db.store ↔ ¬ change.MeetsItself collection id db := by
  obtain ⟨existing, found, preparing | ⟨updated, middle, preparing, storing⟩⟩ :=
    run_refused failed
  · obtain ⟨supply, same⟩ := change.prepared_db collection id existing db
    rw [preparing] at same
    refine iff_of_true (by rw [show after = _ from same]) ?_
    rintro ⟨other, updated, otherFound, prepared, -⟩
    obtain rfl : existing = other := by simpa [found] using otherFound
    simp [preparing] at prepared
  · obtain ⟨supply, same⟩ := change.prepared_db collection id existing db
    rw [preparing] at same
    obtain rfl : middle = { db with supply } := same
    rcases Database.commitFree_refused (Database.commitChange_refused storing refusal) refusal with
      ⟨⟨early, forbidden⟩, stays⟩ | ⟨allowed, stored, changed, replaced, kept, late, forbidden⟩
    · refine iff_of_true stays ?_
      rintro ⟨other, prepared, otherFound, isPrepared, allowed, -⟩
      obtain rfl : existing = other := by simpa [found] using otherFound
      obtain rfl : updated = prepared := by simpa [preparing] using isPrepared
      exact allowed early forbidden
    · have outcome := Collections.amend_outcome db.store.collections collection id
        fun _ => updated
      unfold Collections.replace at replaced
      rw [replaced] at outcome
      cases outcome with
      | @changed before rest record split first isRecord free =>
          obtain rfl : existing = record := by
            simpa [found] using Collections.find?_of_split split first isRecord
          simp only [Option.getD_some] at kept
          rw [kept] at forbidden
          refine iff_of_false (fun stays => ?_) (not_not.2 ?_)
          · have unchanged : before ++ updated.identifiedBy id :: rest =
                before ++ existing :: rest := by
              rw [← split, ← stays, kept, Collections.records_insert_self]
            have sameRecord := (List.cons.inj (List.append_cancel_left unchanged)).1
            have existingDistinct : (Json.object existing).DistinctNames :=
              distinct existing (by rw [split]; simp)
            rw [sameRecord, ReferenceGraph.keyChanges_self _ _ existingDistinct] at forbidden
            cases forbidden.decides.mem
          · obtain ⟨inside, holds⟩ := meets_of_forbidden split isRecord allowed forbidden
            refine ⟨existing, updated, found, by simp [preparing], allowed, late, ?_⟩
            exact ⟨forbidden.decides, forbidden.restricts, inside, holds⟩

/-- A staff of one, who may be led by any member whose id does not change. -/
def ledStaff : Database Memory :=
  .ofStore
    (Registry.register {} {
      name := "staff"
      fields := [("lead", (Field.ofTypes [.number]).withRules fun rules =>
        { rules with
          relation := some { Relation.manyToOne "staff" with onUpdate := some .restrict } })] })
    (.start 0 0)
    { collections := SortedMap.insert .empty "staff" [[(idField, .ofInt 1)]]
      storage := {}
      key := "library" }

/-- Whether a change of the only member is refused. -/
def refuses (change : RecordChange) : Bool :=
  match ((change.run "staff" (.ofInt 1)).outcome ledStaff).1 with
  | .error (.invalid _) => true
  | .error (.referenced _) => true
  | _ => false

theorem outcome_of_refuses (change : RecordChange) (refused : refuses change = true) :
    ∃ failure after,
      (change.run "staff" (.ofInt 1)).outcome ledStaff = (.error failure, after) ∧
        failure.IsRefusal := by
  unfold refuses at refused
  split at refused
  · rename_i issues failed
    exact ⟨.invalid issues, _, Prod.ext failed rfl, trivial⟩
  · rename_i problem failed
    exact ⟨.referenced problem, _, Prod.ext failed rfl, trivial⟩
  · cases refused

/-- A text as the lead is refused, and the store stays. -/
theorem store_eq_of_lead_text :
    ∃ failure after, ((patch [("lead", .string "x")]).run "staff" (.ofInt 1)).outcome ledStaff =
      (.error failure, after) ∧ after.store = ledStaff.store := by
  obtain ⟨failure, after, failed, refusal⟩ := outcome_of_refuses
    (patch [("lead", .string "x")]) (by decide +kernel)
  refine ⟨failure, after, failed, ?_⟩
  refine (store_eq_of_refused_iff ?_ failed refusal).2 ?_
  · intro record member
    obtain rfl := List.mem_singleton.1 member
    exact ⟨by simp, trivial, trivial⟩
  · rintro ⟨existing, updated, found, prepared, -⟩
    obtain rfl := List.mem_singleton.1 (Collections.mem_of_find? found).1
    have refused : ((patch [("lead", .string "x")]).prepared "staff" (.ofInt 1)
      [(idField, .ofInt 1)] ledStaff).1.isOk = false := by decide +kernel
    rw [prepared] at refused
    cases refused

/-- The member who takes another id and the old one as the lead is refused after the
new version is stored. -/
theorem store_ne_of_own_lead :
    ∃ failure after,
      ((patch [(idField, .ofInt 2), ("lead", .ofInt 1)]).run "staff" (.ofInt 1)).outcome
        ledStaff = (.error failure, after) ∧
      failure.IsRefusal ∧ after.store.collections ≠ ledStaff.store.collections := by
  obtain ⟨failure, after, failed, refusal⟩ := outcome_of_refuses
    (patch [(idField, .ofInt 2), ("lead", .ofInt 1)]) (by decide +kernel)
  refine ⟨failure, after, failed, refusal, fun same => ?_⟩
  have renamed : (((patch [(idField, .ofInt 2), ("lead", .ofInt 1)]).run "staff"
      (.ofInt 1)).outcome ledStaff).2.store.collections.find? "staff" (.ofInt 1) |>.isNone := by
    decide +kernel
  rw [failed, same] at renamed
  exact absurd renamed (by decide +kernel)

end RecordChange

end DocStore
