import DocStore.Proofs.Attempts
import DocStore.Proofs.CollectionLookup
import DocStore.Store.Basic
import Mathlib.Data.List.TakeWhile

/-!
# What edits do

The outcome of every edit, case by case, and of committing one: the collections in
memory are those that the edit makes, whether or not they can be saved.
-/

namespace DocStore

/-- The collections after an edit; a refused one changes nothing. -/
def Edit.applied {α : Type} (edit : Edit α) (collections : Collections) : Collections :=
  match edit collections with
  | .ok (_, some changed) => changed
  | _ => collections

namespace Record

/-- The record with an id, its own if it has one. -/
def identifiedBy (record : Record) (id : Json) : Record :=
  match record.id? with
  | some _ => record
  | none => record.withId id

theorem id?_identifiedBy (record : Record) {id : Json} (notNull : id ≠ .null) :
    (record.identifiedBy id).id? = some (record.id?.getD id) := by
  unfold identifiedBy
  cases found : record.id? with
  | some own => simp [found]
  | none => simpa using id?_withId notNull

theorem get?_identifiedBy_of_ne {field : String} (different : idField ≠ field)
    (record : Record) (id : Json) :
    Fields.get? field (record.identifiedBy id) = Fields.get? field record := by
  unfold identifiedBy
  split
  · rfl
  · exact get?_withId_of_ne different

theorem distinctNames_identifiedBy {record : Record} {id : Json}
    (distinct : (Json.object record).DistinctNames) (idDistinct : id.DistinctNames) :
    (Json.object (record.identifiedBy id)).DistinctNames := by
  unfold identifiedBy
  split
  · exact distinct
  · exact distinctNames_withId distinct idDistinct

end Record

namespace Collections

variable {collections : Collections} {name : String} {id : Json}

/-- How a change of the record with an id comes out: there is no such record, or
its new id is taken, or it stands changed in its place. -/
inductive AmendOutcome (collections : Collections) (name : String) (id : Json)
    (change : Record → Record) : Except Failure (Option Record × Option Collections) → Prop where
  | missing (absent : ∀ record ∈ collections.records name, record.hasId id = false) :
      AmendOutcome collections name id change (.ok (none, none))
  | taken {before after : List Record} {record : Record} {newId : Json}
      (split : collections.records name = before ++ record :: after)
      (renamed : (change record).id? = some newId) (differs : newId.same id = false)
      (other : Record) (member : other ∈ before ++ after) (holds : other.hasId newId = true) :
      AmendOutcome collections name id change (.error (.duplicateId name newId))
  | changed {before after : List Record} {record : Record}
      (split : collections.records name = before ++ record :: after)
      (first : ∀ other ∈ before, other.hasId id = false) (found : record.hasId id = true)
      (free : ∀ newId, (change record).id? = some newId → newId.same id = true ∨
        ∀ other ∈ before ++ after, other.hasId newId = false) :
      AmendOutcome collections name id change
        (.ok (some ((change record).identifiedBy id),
          some (collections.insert name
            (before ++ (change record).identifiedBy id :: after))))

theorem amend_outcome (collections : Collections) (name : String) (id : Json)
    (change : Record → Record) :
    AmendOutcome collections name id change (amend name id change collections) := by
  have parts := List.takeWhile_append_dropWhile
    (p := fun record : Record => !record.hasId id) (l := collections.records name)
  have first : ∀ other ∈ (collections.records name).takeWhile (!·.hasId id),
      other.hasId id = false := by
    intro other member
    simpa using List.mem_takeWhile_imp member
  simp only [amend]
  cases rest : (collections.records name).dropWhile (!·.hasId id) with
  | nil =>
      refine AmendOutcome.missing fun record member => ?_
      rw [← parts, rest, List.append_nil] at member
      exact first record member
  | cons record after =>
      have found : record.hasId id = true := by
        have head := List.head?_dropWhile_not (fun record : Record => !record.hasId id)
          (collections.records name)
        simpa [rest] using head
      rw [rest] at parts
      cases own : (change record).id? with
      | none =>
          have free : ∀ newId, (change record).id? = some newId → newId.same id = true ∨
              ∀ other ∈ (collections.records name).takeWhile (!·.hasId id) ++ after,
                other.hasId newId = false := by
            simp [own]
          have changed := AmendOutcome.changed parts.symm first found free
          simpa only [Record.identifiedBy, own] using changed
      | some newId =>
          by_cases isTaken : (!newId.same id && ((collections.records name).takeWhile
              (!·.hasId id) ++ after).any (·.hasId newId)) = true
          · simp only [own, isTaken, if_true]
            simp only [Bool.and_eq_true, Bool.not_eq_true', List.any_eq_true] at isTaken
            obtain ⟨differs, other, member, holds⟩ := isTaken
            exact .taken parts.symm own differs other member holds
          · have free : ∀ other, (change record).id? = some other → other.same id = true ∨
                ∀ stored ∈ (collections.records name).takeWhile (!·.hasId id) ++ after,
                  stored.hasId other = false := by
              intro other isOther
              obtain rfl := Option.some.inj (own.symm.trans isOther)
              cases same : newId.same id
              · right
                intro stored member
                have notAny : ¬ ((collections.records name).takeWhile (!·.hasId id) ++
                    after).any (·.hasId newId) = true := by
                  simpa only [same, Bool.not_false, Bool.true_and] using isTaken
                exact Bool.eq_false_iff.2 fun holds =>
                  notAny (List.any_eq_true.2 ⟨stored, member, holds⟩)
              · exact .inl rfl
            have changed := AmendOutcome.changed parts.symm first found free
            simpa only [Record.identifiedBy, own, isTaken, Bool.false_eq_true, if_false]
              using changed

/-- What adding a record comes to: a free id, its own or a generated one, or a
generated one that is there already, or a refusal. -/
theorem add_ok {record added : Record} {after : Option Collections}
    (made : add name record collections = .ok (added, after)) :
    after = some (collections.insert name (collections.records name ++ [added])) ∧
      ((added = record ∧ ∃ id, record.id? = some id ∧
          ∀ other ∈ collections.records name, other.hasId id = false) ∨
        ∃ id, record.id? = none ∧ nextId name (collections.records name) = .ok id ∧
          added = record.withId id) := by
  unfold add at made
  cases given : identified name (collections.records name) record with
  | error failure => simp [given, bind, Except.bind] at made
  | ok identifiedRecord =>
      obtain ⟨rfl, rfl⟩ : identifiedRecord = added ∧
          some (collections.insert name (collections.records name ++ [identifiedRecord])) =
            after := by
        simpa [given, bind, Except.bind, pure, Except.pure] using made
      refine ⟨rfl, ?_⟩
      unfold identified at given
      cases own : record.id? with
      | some id =>
          left
          simp only [own] at given
          split_ifs at given with taken
          obtain rfl := Except.ok.inj given
          exact ⟨rfl, id, rfl, by simpa using taken⟩
      | none =>
          right
          cases next : nextId name (collections.records name) with
          | error failure => simp [own, next, bind, Except.bind] at given
          | ok id =>
              refine ⟨id, rfl, rfl, ?_⟩
              simpa [own, next, bind, Except.bind, pure, Except.pure, eq_comm] using given

theorem records_of_has_eq_false (absent : collections.has name = false) :
    collections.records name = [] := by
  have missing : collections.get? name = none := by simpa [SortedMap.has] using absent
  simp [records, missing]

theorem records_opened (collections : Collections) (name : String) :
    (collections.opened name).records name = collections.records name := by
  unfold opened
  split_ifs with there
  · rfl
  · rw [records_insert_self, records_of_has_eq_false (Bool.eq_false_iff.2 there)]

theorem insert_opened (collections : Collections) (name : String) (records : List Record) :
    (collections.opened name).insert name records = collections.insert name records := by
  unfold opened
  split_ifs
  · rfl
  · exact SortedMap.insert_insert _ _ _ _

/-- A record is added the same way if its collection is made sure of first. -/
theorem add_opened (collections : Collections) (name : String) (record : Record) :
    add name record (collections.opened name) = add name record collections := by
  simp only [add, records_opened, insert_opened]

theorem identified_nil (name : String) (record : Record) :
    ∃ added, identified name [] record = .ok added := by
  unfold identified
  cases record.id? with
  | some id => exact ⟨record, rfl⟩
  | none => exact ⟨record.withId (.ofInt 1), rfl⟩

theorem has_of_add_refused {record : Record} {failure : Failure}
    (refused : add name record collections = .error failure) : collections.has name = true := by
  by_contra absent
  obtain ⟨added, given⟩ := identified_nil name record
  have noRecords := records_of_has_eq_false (Bool.eq_false_iff.2 absent)
  simp only [add, noRecords, given] at refused
  cases refused

/-- An addition is refused only by a collection that is there, so making sure of it
first would not change the collections. -/
theorem opened_of_add_refused {record : Record} {failure : Failure}
    (refused : add name record collections = .error failure) :
    collections.opened name = collections :=
  if_pos (has_of_add_refused refused)

end Collections

namespace Store

variable {A : Type} [Adapter A] {α : Type}

theorem persist_collections (store : Store A) :
    ((persist (A := A)).outcome store).2.collections = store.collections :=
  rfl

theorem asStorage_eq (failure : Failure) :
    ∃ problem, failure.asStorage = .storage problem := by
  cases failure <;> exact ⟨_, rfl⟩

theorem persist_error {store after : Store A} {failure : Failure}
    (failed : (persist (A := A)).outcome store = (.error failure, after)) :
    ∃ problem, failure = .storage problem := by
  unfold persist onStorage at failed
  rw [Attempt.get_bind_outcome, Attempt.retold_outcome, Attempt.onPart_outcome,
    Prod.mk.injEq] at failed
  cases saved : ((Adapter.save store.key store.collections).outcome store.storage).1 with
  | ok value => simp [saved, Except.mapError] at failed
  | error reason =>
      simp only [saved, Except.mapError, Except.error.injEq] at failed
      rw [← failed.1]
      exact asStorage_eq reason

/-- An edit that changes nothing is not saved; one that changes something is made
before it is saved. -/
theorem commit_outcome (edit : Edit α) (store : Store A) :
    (commit edit).outcome store =
      match edit store.collections with
      | .error failure => (.error failure, store)
      | .ok (answer, none) => (.ok answer, store)
      | .ok (answer, some collections) =>
        match persist.outcome { store with collections } with
        | (.ok _, saved) => (.ok answer, saved)
        | (.error failure, saved) => (.error failure, saved) := by
  unfold commit
  rw [Attempt.get_bind_outcome, Attempt.bind_outcome, Attempt.ofResult_outcome]
  rcases edit store.collections with failure | ⟨answer, _ | collections⟩
  · rfl
  · rfl
  · simp only
    rw [Attempt.set_bind_outcome, Attempt.bind_outcome]
    rcases persist.outcome { store with collections } with ⟨failure | value, saved⟩ <;> rfl

theorem commit_refused {edit : Edit α} {store : Store A} {failure : Failure}
    (refused : edit store.collections = .error failure) :
    (commit edit).outcome store = (.error failure, store) := by
  rw [commit_outcome, refused]

theorem commit_idle {edit : Edit α} {store : Store A} {answer : α}
    (idle : edit store.collections = .ok (answer, none)) :
    (commit edit).outcome store = (.ok answer, store) := by
  rw [commit_outcome, idle]

theorem commit_made {edit : Edit α} {store : Store A} {answer : α} {changed : Collections}
    (made : edit store.collections = .ok (answer, some changed)) :
    (commit edit).outcome store =
      ((persist.outcome { store with collections := changed }).1.map fun _ => answer,
        (persist.outcome { store with collections := changed }).2) := by
  rw [commit_outcome, made]
  simp only
  rcases persist.outcome { store with collections := changed } with ⟨failure | _, after⟩ <;> rfl

/-- Committing an edit leaves in memory what the edit makes, also when saving
fails. -/
theorem commit_collections (edit : Edit α) (store : Store A) :
    ((commit edit).outcome store).2.collections = Edit.applied edit store.collections := by
  rcases made : edit store.collections with failure | ⟨answer, _ | changed⟩
  · rw [commit_refused made, Edit.applied, made]
  · rw [commit_idle made, Edit.applied, made]
  · rw [commit_made made, Edit.applied, made]
    exact persist_collections _

theorem commit_ok {edit : Edit α} {store final : Store A} {answer : α}
    (committed : (commit edit).outcome store = (.ok answer, final)) :
    ∃ changed, edit store.collections = .ok (answer, changed) ∧
      final.collections = changed.getD store.collections := by
  rcases made : edit store.collections with failure | ⟨given, _ | changed⟩
  · rw [commit_refused made] at committed
    cases committed
  · rw [commit_idle made] at committed
    cases committed
    exact ⟨none, rfl, rfl⟩
  · rw [commit_made made, Prod.mk.injEq] at committed
    obtain ⟨answered, rfl⟩ := committed
    refine ⟨some changed, ?_, persist_collections _⟩
    cases saved : (persist.outcome { store with collections := changed }).1 with
    | ok _ =>
        rw [saved] at answered
        have same : given = answer := Except.ok.inj answered
        rw [same]
    | error failure =>
        rw [saved] at answered
        cases answered

theorem commit_error {edit : Edit α} {store final : Store A} {failure : Failure}
    (failed : (commit edit).outcome store = (.error failure, final)) :
    (edit store.collections = .error failure ∧ final = store) ∨
      ∃ problem, failure = .storage problem := by
  rcases made : edit store.collections with reason | ⟨given, _ | changed⟩
  · rw [commit_refused made] at failed
    cases failed
    exact .inl ⟨rfl, rfl⟩
  · rw [commit_idle made] at failed
    cases failed
  · rw [commit_made made, Prod.mk.injEq] at failed
    right
    cases saved : (persist.outcome { store with collections := changed }).1 with
    | ok _ =>
        rw [saved] at failed
        cases failed.1
    | error reason =>
        rw [saved] at failed
        rw [← Except.error.inj failed.1]
        exact persist_error (Prod.ext saved rfl)

/-- Making sure of the collection first is not seen: an addition is refused only by a
collection that is there. -/
theorem add_eq_commit (name : String) (record : Record) :
    (add name record : Attempt (Store A) Record) = commit (Collections.add name record) := by
  funext store
  have started : (add name record).outcome store = (commit (Collections.add name record)).outcome
      { store with collections := store.collections.opened name } := rfl
  have same := Collections.add_opened store.collections name record
  change (add name record).outcome store = (commit (Collections.add name record)).outcome store
  rw [started]
  rcases made : Collections.add name record store.collections with failure | ⟨added, _ | changed⟩
  · rw [Collections.opened_of_add_refused made]
  · cases (Collections.add_ok made).1
  · rw [commit_made made, commit_made (same.trans made)]

end Store

end DocStore
