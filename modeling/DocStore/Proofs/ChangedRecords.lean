import DocStore.Proofs.LawfulUpkeep
import DocStore.Proofs.PreparedNames
import DocStore.Proofs.StoredIds
import DocStore.Proofs.StoreUpkeep

/-!
# Answers of changes

A change of a stored record answers the record that is stored under its new id in the end,
after all records have followed the change, the changed one itself among them.  It answers
that there is none exactly where there was none before, with one exception: an update policy
that writes the ids of the collection itself may give the record another id once more, and
then nothing is found under the one that it is looked up by.
-/

namespace DocStore

namespace Collections

variable {collections : Collections} {name field : String} {record : Record}
  {id own value : Json}

/-- A field of one record is given a value; the records that an id finds are still there, if
the value is no new id for one of them. -/
theorem Lawful.exists_hasId_update (lawful : collections.Lawful) (idDistinct : id.DistinctNames)
    (keeps : (field ≠ idField ∨ value = .null) ∨ id.same own = false)
    (known : ∃ record ∈ collections.records name, record.hasId own = true) :
    ∃ record ∈ (Edit.applied (update name id [(field, value)]) collections).records name,
      record.hasId own = true := by
  have outcome := amend_outcome collections name id (·.putAll [(field, value)])
  unfold Edit.applied update
  generalize amend name id (·.putAll [(field, value)]) collections = result at outcome
  cases outcome with
  | missing => exact known
  | taken => exact known
  | @changed before after found split first holds free =>
      obtain ⟨record, member, holdsOwn⟩ := known
      simp only [records_insert_self]
      rw [split, List.mem_append, List.mem_cons] at member
      rcases member with inBefore | rfl | inAfter
      · exact ⟨record, by simp [inBefore], holdsOwn⟩
      · -- The record itself: its id stays, or becomes the equal one that it was found by.
        obtain ⟨held, isHeld, same⟩ := Record.hasId_iff.1 holds
        obtain ⟨heldAgain, isHeldAgain, sameOwn⟩ := Record.hasId_iff.1 holdsOwn
        obtain rfl : held = heldAgain := Option.some.inj (isHeld.symm.trans isHeldAgain)
        have heldDistinct := Record.distinctNames_id?
          (lawful.distinctNames name record (by simp [split])) isHeld
        have shared : id.same own = true :=
          Json.same_trans (Json.same_symm heldDistinct idDistinct same) sameOwn
        rcases keeps with keeps | differs
        · refine ⟨_, List.mem_append_right _ List.mem_cons_self, ?_⟩
          rcases Record.id?_given holds keeps with stays | asked
          · exact (Record.hasId_congr stays own).trans holdsOwn
          · exact Record.hasId_iff.2 ⟨id, asked, shared⟩
        · rw [shared] at differs
          cases differs
      · exact ⟨record, by simp [inAfter], holdsOwn⟩

theorem update_missing {changed : Option Collections} {patch : Record}
    (missing : update name id patch collections = .ok (none, changed)) : changed = none := by
  have outcome := amend_outcome collections name id (·.putAll patch)
  unfold update at missing
  rw [missing] at outcome
  cases outcome
  rfl

end Collections

/-- Whether an update policy writes a new id in the place of a given one: its change decides, it
puts values into the ids of the collection, and the given id is the key that is given up. -/
structure KeyChange.Rewrites (changes : List KeyChange) (collection : String) (own : Json)
    (change : KeyChange) : Prop where
  decides : Decides changes change
  policy : change.dependent.onUpdate = some .cascade ∨
    change.dependent.onUpdate = some .setDefault
  inside : change.dependent.collection = collection
  ofIds : change.dependent.field = idField
  gaveUp : own.same change.old = true

namespace Workspace

variable {A : Type}

/-- Whether an attempt that goes on with a count leaves the collections as they were, unless
it adds to the count. -/
def CountsFrom (start : Nat) (attempt : Attempt (Workspace A) Nat) : Prop :=
  ∀ space count after, attempt.outcome space = (.ok count, after) →
    start ≤ count ∧ (count = start → after.store.collections = space.store.collections)

namespace CountsFrom

theorem foldlM {ι : Type} {each : Nat → ι → Attempt (Workspace A) Nat} (items : List ι)
    (counts : ∀ item count, CountsFrom count (each count item)) (start : Nat) :
    CountsFrom start (items.foldlM each start) := by
  induction items generalizing start with
  | nil =>
      intro space count after ran
      obtain ⟨same, rfl⟩ := Prod.mk.inj ran
      obtain rfl := Except.ok.inj same
      exact ⟨le_rfl, fun _ => rfl⟩
  | cons item items ih =>
      intro space count after ran
      rw [List.foldlM_cons] at ran
      obtain ⟨next, middle, ranFirst, ranRest⟩ := Attempt.bind_ok_iff.1 ran
      obtain ⟨up, stays⟩ := counts item start _ _ _ ranFirst
      obtain ⟨upRest, staysRest⟩ := ih next _ _ _ ranRest
      refine ⟨up.trans upRest, fun none => ?_⟩
      have isStart : next = start := by omega
      rw [staysRest (none.trans isStart.symm), stays isStart]

theorem add {attempt : Attempt (Workspace A) Nat} (counts : CountsFrom 0 attempt) (start : Nat) :
    CountsFrom start (do return start + (← attempt)) := by
  intro space count after ran
  obtain ⟨more, middle, ranFirst, ranRest⟩ := Attempt.bind_ok_iff.1 ran
  obtain ⟨same, rfl⟩ := Prod.mk.inj ranRest
  obtain rfl := Except.ok.inj same
  obtain ⟨-, stays⟩ := counts _ _ _ ranFirst
  exact ⟨Nat.le_add_right start more, fun none => stays (by omega)⟩

end CountsFrom

variable (rules : ReferenceRules) (group : Followers) (id : Json)

theorem followingValue_collections (change : KeyChange) (action : ReferenceAction)
    (space : Workspace A) :
    ((followingValue rules change action).outcome space).2.store.collections =
      space.store.collections :=
  @followingValue_keeps A (·.collections = space.store.collections) rules change action space rfl

variable [Adapter A]

theorem setField_idle {dependent : Dependent} {value : Json} {space after : Workspace A}
    (missing : (setField dependent id value).outcome space = (.ok false, after)) :
    after.store.collections = space.store.collections := by
  obtain ⟨answer, middle, committed, ran⟩ := Attempt.bind_ok_iff.1 missing
  obtain ⟨isNone, rfl⟩ := Prod.mk.inj ran
  rw [onStore, Attempt.onPart_outcome, Prod.mk.injEq] at committed
  obtain ⟨changed, updated, kept⟩ := Store.commit_ok (Prod.ext committed.1 rfl)
  obtain rfl : answer = none := by simpa using isNone
  rw [Collections.update_missing updated] at kept
  rw [← committed.2]
  exact kept

theorem followOne_countsFrom : CountsFrom 0 (A := A) (followOne rules group id) := by
  intro space count after ran
  refine ⟨Nat.zero_le count, fun none => ?_⟩
  subst none
  obtain ⟨given, middle, made, ran⟩ := Attempt.bind_ok_iff.1 ran
  have sameCollections := followingValue_collections rules group.change group.action space
  rw [made] at sameCollections
  cases given with
  | none =>
      obtain rfl : middle = after := congrArg Prod.snd ran
      exact sameCollections
  | some value =>
      obtain ⟨changed, last, gave, ran⟩ := Attempt.bind_ok_iff.1 ran
      obtain ⟨isZero, rfl⟩ := Prod.mk.inj ran
      cases changed with
      | true => simp at isZero
      | false => exact (setField_idle id gave).trans sameCollections

/-- To follow changes and to change nothing is to find nothing that follows. -/
theorem followChanges_idle {changes : List KeyChange} {space after : Workspace A}
    (ran : (followChanges rules changes).outcome space = (.ok 0, after)) :
    after.store.collections = space.store.collections := by
  unfold followChanges at ran
  rw [Attempt.get_bind_outcome] at ran
  obtain ⟨groups, middle, planned, ran⟩ := Attempt.bind_ok_iff.1 ran
  obtain rfl : space = middle := congrArg Prod.snd planned
  have counts : CountsFrom 0 (A := A) (followAll rules groups) :=
    .foldlM groups (fun group => .foldlM _ fun id => .add (followOne_countsFrom rules group id)) 0
  exact (counts _ _ _ ran).2 rfl

/-- A record that follows a change stays, or its field is given a value. -/
theorem followOne_collections (space : Workspace A) :
    ((followOne rules group id).outcome space).2.store.collections = space.store.collections ∨
      ∃ value, (group.action = .setNull → value = .null) ∧ group.action ≠ .restrict ∧
        ((followOne rules group id).outcome space).2.store.collections =
          Edit.applied (Collections.update group.change.dependent.collection id
            [(group.change.dependent.field, value)]) space.store.collections := by
  have sameCollections := followingValue_collections rules group.change group.action space
  rw [followOne, Attempt.bind_outcome]
  rcases made : (followingValue rules group.change group.action).outcome space with
    ⟨failure | given, middle⟩
  · rw [made] at sameCollections
    exact .inl sameCollections
  · rw [made] at sameCollections
    cases given with
    | none => exact .inl sameCollections
    | some value =>
        have nulls : group.action = .setNull → value = .null := by
          intro action
          rw [action] at made
          exact (Option.some.inj (Except.ok.inj (congrArg Prod.fst made))).symm
        have acts : group.action ≠ .restrict := by
          intro action
          rw [action] at made
          cases Except.ok.inj (congrArg Prod.fst made)
        refine .inr ⟨value, nulls, acts, ?_⟩
        have gave := setField_collections group.change.dependent id value middle
        simp only [Attempt.bind_outcome]
        rw [← sameCollections, ← gave]
        rcases (setField group.change.dependent id value).outcome middle with
          ⟨failure | changed, last⟩ <;> rfl

/-- Whether a workspace is lawful, and holds a record of a collection that an id finds. -/
structure Finds (collection : String) (own : Json) (space : Workspace A) : Prop where
  lawful : space.Lawful
  found : ∃ record ∈ space.store.collections.records collection, record.hasId own = true

variable {rules group id} {collection : String} {own : Json}

theorem followOne_keeps_finds (defaults : rules.DefaultsDistinct)
    (newDistinct : group.change.new.DistinctNames) (idDistinct : id.DistinctNames)
    (differs : group.action = .cascade ∨ group.action = .setDefault →
      group.change.dependent.collection = collection →
        group.change.dependent.field = idField → id.same own = false) :
    (followOne (A := A) rules group id).Keeps (Finds collection own) := by
  intro space finds
  refine ⟨followOne_keeps_lawful defaults newDistinct idDistinct space finds.lawful, ?_⟩
  rcases followOne_collections rules group id space with stays | ⟨value, nulls, acts, given⟩
  · rw [stays]
    exact finds.found
  · rw [given]
    by_cases inside : group.change.dependent.collection = collection
    · subst inside
      apply Collections.Lawful.exists_hasId_update finds.lawful idDistinct ?_ finds.found
      by_cases ofIds : group.change.dependent.field = idField
      · cases action : group.action with
        | cascade => exact .inr (differs (.inl action) rfl ofIds)
        | setDefault => exact .inr (differs (.inr action) rfl ofIds)
        | setNull => exact .inl (.inr (nulls action))
        | restrict => exact absurd action acts
      · exact .inl (.inl ofIds)
    · rw [Collections.records_applied_update_of_ne inside]
      exact finds.found

/-- A record is still found by its id after others have followed, and it has itself, unless an
update policy writes another id in the place of this one. -/
theorem followChanges_keeps_finds (defaults : rules.DefaultsDistinct)
    {changes : List KeyChange} (newDistinct : ∀ change ∈ changes, change.new.DistinctNames)
    (ownDistinct : own.DistinctNames)
    (stays : ∀ change, ¬ KeyChange.Rewrites changes collection own change) :
    (followChanges (A := A) rules changes).Keeps (Finds collection own) := by
  refine Attempt.keeps_get_bind fun space finds => ?_
  cases planned : KeyChange.plan space.store.collections [] changes with
  | error failure => exact finds
  | ok groups =>
      refine Attempt.keeps_foldlM groups _ 0 (fun group member count => ?_) space finds
      obtain ⟨-, decides, declared, matching⟩ := KeyChange.mem_plan planned member
      refine Attempt.keeps_foldlM _ _ count fun id isId total => ?_
      obtain ⟨follower, isHolder, isId⟩ := List.mem_filterMap.1 isId
      rw [matching] at isHolder
      obtain ⟨isStored, holds⟩ := Collections.mem_holding.1 isHolder
      have idDistinct := Record.distinctNames_id?
        (finds.lawful.distinctNames _ follower isStored) isId
      have differs : group.action = .cascade ∨ group.action = .setDefault →
          group.change.dependent.collection = collection →
            group.change.dependent.field = idField → id.same own = false := by
        intro policy inside ofIds
        refine Bool.eq_false_iff.2 fun same => stays group.change ⟨decides, ?_, inside, ofIds, ?_⟩
        · rwa [declared, Option.some.injEq, Option.some.injEq]
        · rw [ofIds] at holds
          obtain ⟨held, isHeld, sameOld⟩ := Record.holds_iff.1 holds
          obtain rfl : held = id :=
            Option.some.inj (isHeld.symm.trans (Record.linked?_eq_some.1 isId).1)
          exact Json.same_trans (Json.same_symm idDistinct ownDistinct same) sameOld
      exact (followOne_keeps_finds defaults (newDistinct _ decides.mem) idDistinct differs).bind
        fun _ _ _ _ _ => Attempt.keeps_of_stays fun _ => rfl

end Workspace

namespace Collections

variable {collections : Collections} {name : String} {existing record : Record} {id : Json}

/-- A record that is found is replaced in its place. -/
theorem replace_found (found : collections.find? name id = some existing)
    {answer : Option Record} {changed : Option Collections}
    (replaced : replace name id record collections = .ok (answer, changed)) :
    ∃ before after, answer = some (record.identifiedBy id) ∧
      changed = some (collections.insert name (before ++ record.identifiedBy id :: after)) := by
  have outcome := amend_outcome collections name id fun _ => record
  unfold replace at replaced
  rw [replaced] at outcome
  cases outcome with
  | missing absent =>
      rw [find?_eq_none.2 absent] at found
      cases found
  | changed => exact ⟨_, _, rfl, rfl⟩

end Collections

namespace Database

variable {A : Type} [Adapter A] {db after : Database A} {collection : String} {id : Json}
  {existing updated : Record} {answer : Option Record}

/-- A new version of a record is stored, the records that follow it do so, and if there were
any, the record is looked up once more. -/
theorem commitFree_ok (found : db.store.collections.find? collection id = some existing)
    (committed : (commitFree collection id existing updated).outcome db = (.ok answer, after)) :
    ∃ middle last : Workspace A, ∃ count,
      middle.store.collections =
        Edit.applied (Collections.replace collection id updated) db.store.collections ∧
      updated.identifiedBy id ∈ middle.store.collections.records collection ∧
      (Workspace.followKeyChanges ⟨db.registry, db.graphInUse⟩ collection existing
        (updated.identifiedBy id)).outcome middle = (.ok count, last) ∧
      after.store = last.store ∧
      answer = if count = 0 then some (updated.identifiedBy id)
        else last.store.collections.find? collection (updated.id?.getD id) := by
  obtain ⟨known, ruled⟩ := rules_outcome db
  unfold commitFree at committed
  rw [Attempt.bind_outcome, ruled] at committed
  obtain ⟨_, checked, ranCheck, committed⟩ := Attempt.bind_ok_iff.1 committed
  obtain rfl : db.keeping known = checked := by
    rw [onSpace_outcome] at ranCheck
    rcases Workspace.checkKeyChanges_outcome ⟨db.registry, db.graphInUse⟩ collection existing
      updated ⟨db.store, db.supply⟩ with ⟨-, problem, refused⟩ | ⟨-, allowed⟩
    · cases (congrArg Prod.fst refused).symm.trans (Prod.mk.inj ranCheck).1
    · simp only [keeping, allowed] at ranCheck
      exact (Prod.mk.inj ranCheck).2
  obtain ⟨stored, replaced, ranCommit, committed⟩ := Attempt.bind_ok_iff.1 committed
  rw [commit, onStore, Attempt.onPart_outcome, Prod.mk.injEq] at ranCommit
  obtain ⟨changed, isReplaced, kept⟩ := Store.commit_ok (Prod.ext ranCommit.1 rfl)
  obtain ⟨before, rest, rfl, rfl⟩ := Collections.replace_found found isReplaced
  obtain ⟨count, last, followed, committed⟩ := Attempt.bind_ok_iff.1 committed
  rw [onSpace_outcome, Prod.mk.injEq] at followed
  have isApplied : replaced.store.collections =
      Edit.applied (Collections.replace collection id updated) db.store.collections := by
    change Collections.replace collection id updated db.store.collections = _ at isReplaced
    rw [← ranCommit.2, Edit.applied, isReplaced]
    exact kept
  have isId := Record.id?_identifiedBy updated
    (Record.ne_null_of_hasId (Collections.mem_of_find? found).2)
  have ends : after.store = last.store ∧
      answer = if count = 0 then some (updated.identifiedBy id)
        else last.store.collections.find? collection (updated.id?.getD id) := by
    by_cases none : count = 0
    · rw [if_pos none] at committed ⊢
      obtain ⟨answered, rfl⟩ := Prod.mk.inj committed
      exact ⟨rfl, (Except.ok.inj answered).symm⟩
    · simp only [if_neg none, isId] at committed ⊢
      obtain ⟨answered, rfl⟩ := Prod.mk.inj committed
      exact ⟨rfl, (Except.ok.inj answered).symm⟩
  rw [← followed.2] at ends
  refine ⟨⟨replaced.store, replaced.supply⟩, _, count, isApplied, ?_, Prod.ext followed.1 rfl,
    ends⟩
  change Collections.replace collection id updated db.store.collections = _ at isReplaced
  rw [isApplied, Edit.applied, isReplaced]
  simp

/-- What is answered is what the new id finds in the end. -/
theorem commitFree_answers
    (committed : (commitFree collection id existing updated).outcome db = (.ok answer, after))
    (found : db.store.collections.find? collection id = some existing)
    (lawful : db.store.collections.Lawful)
    (defaults : ReferenceRules.DefaultsDistinct ⟨db.registry, db.graphInUse⟩)
    (distinct : (Json.object updated).DistinctNames) (idDistinct : id.DistinctNames) :
    after.store.collections.Lawful ∧
      answer = after.store.collections.find? collection (updated.id?.getD id) ∧
      ((∀ late, ¬ KeyChange.Rewrites
        (db.graphInUse.keyChanges collection existing (updated.identifiedBy id)) collection
        (updated.id?.getD id) late) → answer.isSome = true) := by
  obtain ⟨middle, last, count, isApplied, member, followed, sameStore, answers⟩ :=
    commitFree_ok found committed
  have isId := Record.id?_identifiedBy updated
    (Record.ne_null_of_hasId (Collections.mem_of_find? found).2)
  have storedDistinct := Record.distinctNames_identifiedBy distinct idDistinct
  have middleLawful : middle.Lawful := by
    rw [Workspace.Lawful, isApplied]
    exact Collections.lawful_replace lawful collection idDistinct distinct
  have lastLawful := Workspace.followKeyChanges_keeps_lawful defaults collection existing
    storedDistinct middle middleLawful
  rw [followed] at lastLawful
  have isAnswer : answer = last.store.collections.find? collection (updated.id?.getD id) := by
    rw [answers]
    split_ifs with none
    · subst none
      rw [Workspace.followChanges_idle _ followed]
      exact (middleLawful.find?_of_mem member isId).symm
    · rfl
  refine ⟨sameStore ▸ lastLawful, sameStore ▸ isAnswer, fun stays => ?_⟩
  have ownDistinct := Record.distinctNames_id? storedDistinct isId
  have finds : Workspace.Finds collection (updated.id?.getD id) middle :=
    ⟨middleLawful, _, member, Record.hasId_iff.2 ⟨_, isId, Json.same_refl _ ownDistinct⟩⟩
  have still := Workspace.followChanges_keeps_finds defaults
    (fun _ => ReferenceGraph.distinctNames_keyChanges storedDistinct) ownDistinct stays middle finds
  change Workspace.Finds _ _ ((Workspace.followKeyChanges _ _ _ _).outcome middle).2 at still
  rw [followed] at still
  rw [isAnswer]
  exact List.find?_isSome.2 still.found

end Database

namespace RecordChange

variable {A : Type} {change : RecordChange} {collection : String} {id : Json}
  {db after : Database A}

/-- Whether the names of every object in a change are distinct, as in every JSON value that a
program holds. -/
def DistinctNames : RecordChange → Prop
  | body record => (Json.object record).DistinctNames
  | patch fields => (Json.object fields).DistinctNames

/-- Whether an update policy writes another id in the place of the new one of the record that
is changed. -/
def RenamesItself (change : RecordChange) (collection : String) (id : Json)
    (db : Database A) : Prop :=
  ∃ existing updated,
    db.store.collections.find? collection id = some existing ∧
    (change.prepared collection id existing db).1 = .ok updated ∧
    ∃ late, KeyChange.Rewrites
      (db.graphInUse.keyChanges collection existing (updated.identifiedBy id)) collection
      (updated.id?.getD id) late

/-- Where no dependent lies at the ids of its own collection, no record renames itself. -/
theorem not_renamesItself (declared : ∀ dependent ∈ db.graphInUse.dependentsOf collection,
    dependent.collection = collection → dependent.field ≠ idField) :
    ¬ change.RenamesItself collection id db := by
  rintro ⟨existing, updated, -, -, late, rewrites⟩
  have isDependent := (ReferenceGraph.mem_keyChanges rewrites.decides.mem).1
  exact declared _ isDependent rewrites.inside rewrites.ofIds

theorem distinctNames_prepared (transforms : db.registry.TransformsDistinct)
    (distinct : change.DistinctNames) (idDistinct : id.DistinctNames) {existing updated : Record}
    (existingDistinct : (Json.object existing).DistinctNames)
    (prepared : change.prepared collection id existing db = (.ok updated, after)) :
    (Json.object updated).DistinctNames := by
  cases change with
  | body record =>
      exact Database.distinctNames_prepare transforms
        (Database.distinctNames_completed _ idDistinct existingDistinct distinct) prepared
  | patch fields =>
      apply Database.distinctNames_prepare transforms ?_ prepared
      exact existingDistinct.putAll fun name value member =>
        (Json.distinctNames_object.1 distinct).2 name value member

theorem run_ok [Adapter A] {existing : Record} {answer : Option Record}
    (found : db.store.collections.find? collection id = some existing)
    (ran : (change.run collection id).outcome db = (.ok answer, after)) :
    ∃ updated supply,
      change.prepared collection id existing db = (.ok updated, { db with supply }) ∧
      (Database.commitFree collection id existing updated).outcome { db with supply } =
        (.ok answer, after) := by
  obtain ⟨supply, same⟩ := change.prepared_db collection id existing db
  rw [run_found found] at ran
  rcases prepared : change.prepared collection id existing db with ⟨failure | updated, middle⟩
  · rw [prepared] at ran
    cases congrArg Prod.fst ran
  · rw [prepared] at ran same
    obtain rfl : middle = { db with supply } := same
    refine ⟨updated, supply, rfl, ?_⟩
    rcases Database.commitChange_outcome collection id existing updated { db with supply } with
      ⟨newId, -, taken⟩ | free
    · cases congrArg Prod.fst (taken.symm.trans ran)
    · exact free.symm.trans ran

variable [Adapter A]

/-- A change answers the record that its new id finds in the end, which is stored so under its
own id.  Where there was no record before, it answers so and leaves the database as it was, and
it answers so nowhere else, unless an update policy gives the changed record another id once
more. -/
theorem run_answers_stored (lawful : db.store.collections.Lawful)
    (defaults : ReferenceRules.DefaultsDistinct ⟨db.registry, db.graphInUse⟩)
    (transforms : db.registry.TransformsDistinct)
    (distinct : change.DistinctNames) (idDistinct : id.DistinctNames) :
    (db.store.collections.find? collection id = none →
      (change.run collection id).outcome db = (.ok none, db)) ∧
    ∀ answer after, (change.run collection id).outcome db = (.ok answer, after) →
      (∀ record, answer = some record → ∃ own, record.id? = some own ∧
        after.store.collections.find? collection own = some record) ∧
      (∀ existing updated, db.store.collections.find? collection id = some existing →
        (change.prepared collection id existing db).1 = .ok updated →
          answer = after.store.collections.find? collection (updated.id?.getD id)) ∧
      (¬ change.RenamesItself collection id db →
        (answer = none ↔ db.store.collections.find? collection id = none)) := by
  refine ⟨run_absent, fun answer after ran => ?_⟩
  cases found : db.store.collections.find? collection id with
  | none =>
      rw [run_absent found] at ran
      obtain rfl := Except.ok.inj (Prod.mk.inj ran).1
      simp
  | some existing =>
      obtain ⟨updated, supply, prepared, committed⟩ := run_ok found ran
      have existingDistinct := lawful.distinctNames collection existing
        (Collections.mem_of_find? found).1
      have updatedDistinct := distinctNames_prepared transforms distinct idDistinct
        existingDistinct prepared
      obtain ⟨afterLawful, isAnswer, stays⟩ := Database.commitFree_answers committed found lawful
        defaults updatedDistinct idDistinct
      refine ⟨fun record isRecord => ?_, fun other version isFound isPrepared => ?_,
        fun keeps => ?_⟩
      · obtain ⟨member, holds⟩ := Collections.mem_of_find? (isAnswer.symm.trans isRecord)
        obtain ⟨own, isOwn, -⟩ := Record.hasId_iff.1 holds
        exact ⟨own, isOwn, afterLawful.find?_of_mem member isOwn⟩
      · obtain rfl := Option.some.inj isFound
        rw [prepared] at isPrepared
        obtain rfl := Except.ok.inj isPrepared
        exact isAnswer
      · have isSome := stays fun late rewrites =>
          keeps ⟨existing, updated, found, by rw [prepared], late, rewrites⟩
        rw [Option.isSome_iff_ne_none] at isSome
        simp [isSome]

/-- A staff of one, who leads the staff; the leads follow when an id changes. -/
def ledByItself : Database Memory :=
  .ofStore
    (Registry.register {} {
      name := "staff"
      fields := [("lead", (Field.ofTypes [.number]).withRules fun rules =>
        { rules with
          relation := some { Relation.manyToOne "staff" with onUpdate := some .cascade } })] })
    (.start 0 0)
    { collections := SortedMap.insert .empty "staff" [[(idField, .ofInt 1), ("lead", .ofInt 1)]]
      storage := {}
      key := "library" }

theorem ledByItself_lawful : ledByItself.store.collections.Lawful := by
  apply Collections.lawful_empty.insert (List.pairwise_singleton _ _)
  simp [Json.DistinctNames, Json.DistinctNames.DistinctNamesFields, idField, Json.ofInt]

/-- The only member gets another id, and leads itself under it in the record that is answered. -/
theorem run_answers_new_lead :
    ¬ (patch [(idField, .ofInt 10)]).RenamesItself "staff" (.ofInt 1) ledByItself ∧
    ∃ record after, ((patch [(idField, .ofInt 10)]).run "staff" (.ofInt 1)).outcome ledByItself =
        (.ok (some record), after) ∧ record.holds "lead" (.ofInt 10) = true ∧
      ∃ own, record.id? = some own ∧
        after.store.collections.find? "staff" own = some record := by
  have known : (ledByItself.store.collections.find? "staff" (.ofInt 1)).isSome = true := by
    decide +kernel
  have keeps : ¬ (patch [(idField, .ofInt 10)]).RenamesItself "staff" (.ofInt 1) ledByItself :=
    not_renamesItself (by decide +kernel)
  have leads : (((patch [(idField, .ofInt 10)]).run "staff" (.ofInt 1)).outcome
      ledByItself).1.toOption.map (·.all fun record => record.holds "lead" (.ofInt 10)) =
        some true := by decide +kernel
  have plain : ∀ entry ∈ ledByItself.registry.schemas.entries, ∀ field ∈ entry.2.fields,
      field.2.rules.transform.isNone = true ∧ field.2.properties.isNone = true ∧
        field.2.items.isNone = true := by decide +kernel
  have defaults : ReferenceRules.DefaultsDistinct ⟨ledByItself.registry, ledByItself.graphInUse⟩ :=
    ReferenceRules.defaultsDistinct_of_none (by decide +kernel)
  have distinct : DistinctNames (patch [(idField, .ofInt 10)]) := by
    simp [DistinctNames, Json.DistinctNames, Json.DistinctNames.DistinctNamesFields, Json.ofInt]
  have idDistinct : (Json.ofInt 1).DistinctNames := trivial
  refine ⟨keeps, ?_⟩
  rcases ran : ((patch [(idField, .ofInt 10)]).run "staff" (.ofInt 1)).outcome ledByItself with
    ⟨failure | answer, after⟩
  · simp [ran, Except.toOption] at leads
  · obtain ⟨stored, -, found⟩ := (run_answers_stored ledByItself_lawful defaults
      (Registry.transformsDistinct_of_none plain) distinct idDistinct).2 answer after ran
    cases answer with
    | none =>
        rw [(found keeps).1 rfl] at known
        cases known
    | some record =>
        refine ⟨record, after, rfl, ?_, stored record rfl⟩
        simpa [ran, Except.toOption] using leads

/-- A staff of one, whose members take the code of a member as their id. -/
def namedByCode : Database Memory :=
  .ofStore
    (Registry.register {} {
      name := "staff"
      fields := [
        (idField, (Field.ofTypes [.any]).withRules fun rules =>
          { rules with
            relation := some { Relation.manyToOne "staff" with
              field := "code", onUpdate := some .cascade } }),
        ("code", Field.ofTypes [.string])] })
    (.start 0 0)
    { collections :=
        SortedMap.insert .empty "staff" [[(idField, .string "a"), ("code", .string "a")]]
      storage := {}
      key := "library" }

/-- The only member gets another code, and with it another id, under which nothing looks for
it: the change answers that there was no such member. -/
theorem run_loses_new_code :
    namedByCode.store.collections.Lawful ∧
    (namedByCode.store.collections.find? "staff" (.string "a")).isSome = true ∧
    ∃ after, ((patch [("code", .string "b")]).run "staff" (.string "a")).outcome namedByCode =
        (.ok none, after) ∧
      (after.store.collections.find? "staff" (.string "b")).isSome = true := by
  refine ⟨?_, by decide +kernel, ?_⟩
  · apply Collections.lawful_empty.insert (List.pairwise_singleton _ _)
    simp [Json.DistinctNames, Json.DistinctNames.DistinctNamesFields, idField]
  · have loses : (((patch [("code", .string "b")]).run "staff" (.string "a")).outcome
        namedByCode).1.toOption.map Option.isNone = some true := by decide +kernel
    have keeps : ((((patch [("code", .string "b")]).run "staff" (.string "a")).outcome
        namedByCode).2.store.collections.find? "staff" (.string "b")).isSome = true := by
      decide +kernel
    rcases ran : ((patch [("code", .string "b")]).run "staff" (.string "a")).outcome namedByCode
      with ⟨failure | answer, after⟩
    · simp [ran, Except.toOption] at loses
    · rw [ran] at keeps
      obtain rfl : answer = none := by simpa [ran, Except.toOption] using loses
      exact ⟨after, rfl, keeps⟩

end RecordChange

end DocStore
