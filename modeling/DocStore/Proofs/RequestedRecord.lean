import DocStore.Proofs.DeletionDepth
import DocStore.Proofs.KeyChangeVerdict
import DocStore.Proofs.LawfulUpkeep

/-!
# The record that a deletion is asked for

While a deletion follows its policies, the record that it was asked for stays open: it is
noted as come to, so no step inside removes it.  A refusal from any depth therefore finds
it still stored.  A deletion that succeeds answers that it removed the record, provided
that it was asked for it by an id with the mark of the stored one.
-/

namespace DocStore

namespace Cascade

variable {A : Type} {rules : ReferenceRules} {origin : Collections} {name : String} {own : Json}

/-- The invariant of the policies of a record of an original map of collections: it is
stored among none but original ids of its collection, and noted as come to if it could go
along with another one. -/
structure StillOpen (graph : ReferenceGraph) (origin : Collections) (name : String)
    (own : Json) (cascade : Cascade A) : Prop where
  within : ∀ id, cascade.held.Stores name id → origin.Stores name id
  stored : cascade.held.Stores name own
  noted : graph.TakesFrom name → visitMark name own ∈ cascade.visited

variable [Adapter A]

theorem stillOpen_keptBySteps (keeps : rules.graph.KeepsIds name) (unique : origin.IdsUnique)
    (stored : origin.Stores name own) :
    KeptBySteps rules (fun other id => other = name → origin.Stores name id)
      (fun other id => other = name → origin.Stores name id ∧ rules.graph.TakesFrom name)
      (StillOpen (A := A) rules.graph origin name own) where
  stored still isStored same := still.within _ (same ▸ isStored)
  takes takesFrom isKnown same := ⟨isKnown same, same ▸ takesFrom⟩
  visits still _ _ :=
    ⟨still.within, still.stored, fun takes => List.mem_cons_of_mem _ (still.noted takes)⟩
  draws _ still := ⟨still.within, still.stored, still.noted⟩
  sets {dependent id value} gives isKnown cascade still := by
    obtain ⟨held, visited⟩ := setField_outcome dependent id value cascade
    by_cases same : dependent.collection = name
    · have keepsId := gives.keepsId (same ▸ keeps)
      rw [same] at held
      refine ⟨fun other isStored => ?_, ?_, visited ▸ still.noted⟩
      · rw [held] at isStored
        rcases isStored.of_update keepsId with earlier | ⟨-, rfl⟩
        · exact still.within _ earlier
        · exact isKnown same
      · rw [held]
        -- Among original ids equal ones are the same, so the record found keeps its own.
        refine still.stored.update keepsId fun other isOther equal => ?_
        exact unique.eq_of_same (still.within _ isOther) (isKnown same) equal
    · have records : (((onSpace (Workspace.setField dependent id value)).outcome
          cascade).2.held).records name = cascade.held.records name := by
        rw [held, Collections.records_applied_update_of_ne same]
      refine ⟨fun other isStored => still.within _ ?_, ?_, visited ▸ still.noted⟩
      · simpa only [Collections.Stores, records] using isStored
      · simpa only [Collections.Stores, records] using still.stored
  removes {earlier other id} stillEarlier isTaken fresh cascade still := by
    obtain ⟨held, visited⟩ := removal_outcome other id cascade
    refine ⟨fun own isStored => ?_, ?_, visited ▸ still.noted⟩
    · rw [held] at isStored
      exact still.within _ isStored.of_remove
    · -- What goes was not noted before, and the open record was.
      rw [held]
      refine still.stored.remove fun same => Bool.eq_false_iff.2 fun equal => ?_
      subst same
      obtain ⟨isOriginal, takes⟩ := isTaken rfl
      rw [unique.eq_of_same stored isOriginal equal] at stillEarlier
      exact fresh (stillEarlier.noted takes)

theorem applyPolicies_keeps_stillOpen (keeps : rules.graph.KeepsIds name)
    (unique : origin.IdsUnique) (stored : origin.Stores name own) (depth : Nat)
    (record : Record) :
    (applyPolicies rules (deleteWithin rules depth) name record).Keeps
      (StillOpen (A := A) rules.graph origin name own) :=
  have steps := stillOpen_keptBySteps keeps unique stored
  steps.applyPolicies (steps.deleteWithin depth) name record

/-- The last step of a deletion answers whether the record was still there. -/
theorem removal_ok {id : Json} {cascade last : Cascade A} {answer : Bool}
    (removed : (removal name id).outcome cascade = (.ok answer, last)) :
    answer = (cascade.held.find? name id).isSome := by
  obtain ⟨changed, made, -, -⟩ := remove_ok removed
  rw [Collections.find?, List.isSome_find?]
  simp only [Collections.remove] at made
  split_ifs at made with known
  · rw [known]
    exact (congrArg Prod.fst (Except.ok.inj made)).symm
  · rw [Bool.eq_false_iff.2 known]
    exact (congrArg Prod.fst (Except.ok.inj made)).symm

section FromTheStart

variable {space : Workspace A} {id : Json} {record : Record}

omit [Adapter A] in
/-- A deletion asked for by an id with the mark of the stored one has its record open when
it comes to the policies. -/
theorem stillOpen_at_start {graph : ReferenceGraph}
    (stored : space.store.collections.Stores name own)
    (marked : graph.TakesFrom name → visitMark name own = visitMark name id) :
    StillOpen graph space.store.collections name own
      (opened ⟨space, []⟩ (visitMark name id)) :=
  ⟨fun _ isStored => isStored, stored, fun takes => by simp [opened, marked takes]⟩

/-- A deletion that succeeds finds nothing, or follows the policies and then removes. -/
theorem deleteWithin_ok {depth : Nat} {answer : Bool} {last : Cascade A}
    (deleted : (deleteWithin rules depth name id).outcome ⟨space, []⟩ = (.ok answer, last)) :
    (space.store.collections.find? name id = none ∧ answer = false ∧ last = ⟨space, []⟩) ∨
      ∃ within record middle, space.store.collections.find? name id = some record ∧
        (applyPolicies rules (deleteWithin rules within) name record).outcome
          (opened ⟨space, []⟩ (visitMark name id)) = (.ok (), middle) ∧
        (removal name id).outcome middle = (.ok answer, last) := by
  cases depth with
  | zero => cases congrArg Prod.fst deleted
  | succ depth =>
      have outcome := deleteWithin_outcome rules depth name id ⟨space, []⟩
      generalize (deleteWithin rules (depth + 1) name id).outcome ⟨space, []⟩ = out
        at outcome deleted
      cases outcome with
      | missing absent =>
          obtain ⟨answered, rfl⟩ := Prod.mk.inj deleted
          exact .inl ⟨absent, (Except.ok.inj answered).symm, rfl⟩
      | again visited => cases visited
      | restricted => cases congrArg Prod.fst deleted
      | followed found =>
          obtain ⟨_, middle, followed, removed⟩ := Attempt.bind_ok_iff.1 deleted
          exact .inr ⟨depth, _, middle, found, followed, removed⟩

/-- A deletion of a stored record that is refused for references leaves it stored. -/
theorem deleteWithin_refused (keeps : rules.graph.KeepsIds name)
    (unique : space.store.collections.IdsUnique) (stored : space.store.collections.Stores name id)
    {depth : Nat} {problem : ReferenceProblem} {last : Cascade A}
    (refused : (deleteWithin rules depth name id).outcome ⟨space, []⟩ =
      (.error (.referenced problem), last)) :
    last.held.Stores name id := by
  cases depth with
  | zero => cases congrArg Prod.fst refused
  | succ depth =>
      have outcome := deleteWithin_outcome rules depth name id ⟨space, []⟩
      generalize (deleteWithin rules (depth + 1) name id).outcome ⟨space, []⟩ = out
        at outcome refused
      cases outcome with
      | missing => cases congrArg Prod.fst refused
      | again => cases congrArg Prod.fst refused
      | restricted =>
          obtain ⟨-, rfl⟩ := Prod.mk.inj refused
          exact stored
      | @followed record _ _ _ =>
          rcases Attempt.bind_error_iff.1 refused with inside | ⟨_, middle, -, atLast⟩
          · have still := applyPolicies_keeps_stillOpen keeps unique stored depth record
              _ (stillOpen_at_start stored fun _ => rfl)
            rw [inside] at still
            exact still.stored
          · obtain ⟨storage, isStorage⟩ := removal_error atLast
            cases isStorage

end FromTheStart

end Cascade

namespace Workspace

variable {A : Type} [Adapter A] {rules : ReferenceRules} {collection : String} {id : Json}
  {space after : Workspace A}

omit [Adapter A] in
theorem cascading_outcome {α : Type} (visited : List String) (attempt : Attempt (Cascade A) α)
    (space : Workspace A) :
    (cascading visited attempt).outcome space =
      ((attempt.outcome ⟨space, visited⟩).1, (attempt.outcome ⟨space, visited⟩).2.space) :=
  rfl

/-- A deletion of any depth that succeeds leaves nothing to find by its id, and answers
that there was a record only if there was one.  If there was one, it does answer so,
unless a policy gives defaults to the ids of the collection, or records of the collection
go along with others and the id has another mark than the one that is stored. -/
theorem delete_answers_found (lawful : space.Lawful) (defaults : rules.DefaultsDistinct)
    (distinct : id.DistinctNames) {depth : Nat} {answer : Bool}
    (deleted : (cascading [] (Cascade.deleteWithin rules depth collection id)).outcome space =
      (.ok answer, after)) :
    after.store.collections.find? collection id = none ∧
      (answer = true → (space.store.collections.find? collection id).isSome = true) ∧
      (rules.graph.KeepsIds collection →
        (rules.graph.TakesFrom collection → ∀ record own,
          space.store.collections.find? collection id = some record →
            record.id? = some own → visitMark collection own = visitMark collection id) →
        answer = (space.store.collections.find? collection id).isSome) := by
  rcases ran : (Cascade.deleteWithin rules depth collection id).outcome ⟨space, []⟩ with
    ⟨result, last⟩
  rw [cascading_outcome, ran] at deleted
  obtain ⟨rfl, rfl⟩ := Prod.mk.inj deleted
  rcases Cascade.deleteWithin_ok ran with
    ⟨absent, rfl, rfl⟩ | ⟨within, record, middle, found, followed, removed⟩
  · exact ⟨absent, by simp, fun _ _ => by rw [absent]; rfl⟩
  · refine ⟨?_, fun _ => by rw [found]; rfl, fun keeps marked => ?_⟩
    · have middleLawful : middle.held.Lawful := by
        have steps := Cascade.lawful_keptBySteps (A := A) defaults
        have kept := steps.applyPolicies (steps.deleteWithin within) collection record
          (Cascade.opened ⟨space, []⟩ (visitMark collection id)) lawful
        rwa [followed] at kept
      obtain ⟨held, -⟩ := Cascade.removal_outcome collection id middle
      rw [removed] at held
      exact (congrArg (Collections.find? · collection id) held).trans
        (middleLawful.find?_applied_remove distinct)
    · obtain ⟨member, holds⟩ := Collections.mem_of_find? found
      obtain ⟨own, isOwn, same⟩ := Record.hasId_iff.1 holds
      have stored : space.store.collections.Stores collection own := ⟨record, member, isOwn⟩
      have still := Cascade.applyPolicies_keeps_stillOpen keeps lawful.idsUnique stored within
        record _ (Cascade.stillOpen_at_start stored
          fun takes => marked takes record own found isOwn)
      rw [followed] at still
      obtain ⟨kept, isKept, isId⟩ := still.stored
      rw [Cascade.removal_ok removed, found, Option.isSome_some]
      exact List.find?_isSome.2 ⟨kept, isKept, Record.hasId_iff.2 ⟨own, isId, same⟩⟩

theorem ofTasks_lawful {tasks : List Record} (apart : tasks.Pairwise Record.Apart)
    (distinct : ∀ task ∈ tasks, (Json.object task).DistinctNames) : (ofTasks tasks).Lawful :=
  Collections.lawful_empty.insert apart distinct "tasks"

theorem taskRules_defaultsDistinct : taskRules.DefaultsDistinct :=
  ReferenceRules.defaultsDistinct_of_none (by decide +kernel)

theorem taskRing_lawful : taskRing.Lawful := by
  refine ofTasks_lawful (by decide +kernel) ?_
  simp [Json.DistinctNames, Json.DistinctNames.DistinctNamesFields, idField, Json.ofInt]

/-- A task of a ring goes, although the task that it takes along would take it in turn. -/
theorem delete_answers_taskRing :
    ∃ after, (cascading [] (Cascade.deleteWithin taskRules 4 "tasks" (.ofInt 1))).outcome
        taskRing = (.ok true, after) ∧
      after.store.collections.find? "tasks" (.ofInt 1) = none ∧
      (taskRing.store.collections.find? "tasks" (.ofInt 1)).isSome = true := by
  have answers : ((cascading [] (Cascade.deleteWithin taskRules 4 "tasks"
      (.ofInt 1))).outcome taskRing).1.toOption = some true := by decide +kernel
  obtain ⟨after, deleted⟩ := Attempt.exists_of_toOption answers
  have distinct : (Json.ofInt 1).DistinctNames := trivial
  obtain ⟨gone, wasThere, -⟩ :=
    delete_answers_found taskRing_lawful taskRules_defaultsDistinct distinct deleted
  exact ⟨after, deleted, gone, wasThere rfl⟩

/-- A task that is its own parent. -/
def taskOfItself : Workspace Memory :=
  ofTasks [[(idField, .ofInt 0), ("parent", .ofInt 0)]]

/-- Asked for by the other zero, the task goes as a dependent of itself, and the deletion
answers that there was none. -/
theorem delete_of_other_zero :
    taskOfItself.Lawful ∧ taskRules.DefaultsDistinct ∧
      (taskOfItself.store.collections.find? "tasks" (.number (.double (.zero true)))).isSome =
        true ∧
      ∃ after, (delete taskRules "tasks" (.number (.double (.zero true)))).outcome
        taskOfItself = (.ok false, after) := by
  have answers : ((delete taskRules "tasks" (.number (.double (.zero true)))).outcome
      taskOfItself).1.toOption = some false := by decide +kernel
  refine ⟨ofTasks_lawful (List.pairwise_singleton _ _) ?_, taskRules_defaultsDistinct,
    by decide +kernel, Attempt.exists_of_toOption answers⟩
  simp [Json.DistinctNames, Json.DistinctNames.DistinctNamesFields, idField, Json.ofInt]

/-- A deletion of a stored record that may not be deleted is refused, and leaves the whole
workspace as it was: storage is not asked to save, or it could have noted it.  Whenever a
deletion is refused for references, also deep inside, its record is still stored. -/
theorem delete_refused (keeps : rules.graph.KeepsIds collection)
    (unique : space.store.collections.IdsUnique)
    (stored : space.store.collections.Stores collection id) (distinct : id.DistinctNames) :
    (rules.graph.canDelete space.store.collections collection id = false →
      (delete rules collection id).Referenced space ∧
        ((delete rules collection id).outcome space).2 = space) ∧
    ((delete rules collection id).Referenced space →
      ((delete rules collection id).outcome space).2.store.collections.Stores collection id) := by
  constructor
  · intro forbidden
    have isStored := stored.isSome_find? distinct
    have outcome := Cascade.deleteWithin_outcome rules
      (space.store.collections.recordCount + 1001) collection id ⟨space, []⟩
    unfold Attempt.Referenced
    rw [delete_outcome]
    change Cascade.DeleteOutcome _ _ _ _ _
      ((Cascade.deleteWithin rules space.store.collections.cascadeDepth collection id).outcome
        ⟨space, []⟩) at outcome
    generalize (Cascade.deleteWithin rules space.store.collections.cascadeDepth
      collection id).outcome ⟨space, []⟩ = out at outcome
    cases outcome with
    | missing absent =>
        rw [show space.store.collections.find? collection id = none from absent] at isStored
        cases isStored
    | again visited => cases visited
    | restricted => exact ⟨⟨_, rfl⟩, rfl⟩
    | followed found fresh free =>
        rw [ReferenceGraph.canDelete, show space.store.collections.find? collection id = _ from
          found, Option.getD_some, show rules.graph.restricting space.store.collections _ _ = _
          from free] at forbidden
        cases forbidden
  · rintro ⟨problem, refused⟩
    rw [delete_outcome] at refused ⊢
    exact Cascade.deleteWithin_refused keeps unique stored (Prod.ext refused rfl)

/-- A task with a part that another task comes after. -/
def taskWithPart : Workspace Memory :=
  ofTasks [[(idField, .ofInt 1)], [(idField, .ofInt 2), ("parent", .ofInt 1)],
    [(idField, .ofInt 3), ("after", .ofInt 2)]]

/-- The part may not be deleted, and the task may not because of it. -/
theorem delete_refused_taskWithPart :
    (delete taskRules "tasks" (.ofInt 2)).Referenced taskWithPart ∧
      ((delete taskRules "tasks" (.ofInt 2)).outcome taskWithPart).2 = taskWithPart ∧
      taskRules.graph.canDelete taskWithPart.store.collections "tasks" (.ofInt 1) = true ∧
      ((delete taskRules "tasks" (.ofInt 1)).outcome taskWithPart).2.store.collections.Stores
        "tasks" (.ofInt 1) := by
  have unique : taskWithPart.store.collections.IdsUnique := by
    refine (ofTasks_lawful (by decide +kernel) ?_).idsUnique
    simp [Json.DistinctNames, Json.DistinctNames.DistinctNamesFields, idField, Json.ofInt]
  have ofPart := delete_refused (taskRules_keepsIds "tasks") unique
    ⟨[(idField, .ofInt 2), ("parent", .ofInt 1)], by simp [taskWithPart, ofTasks], rfl⟩ trivial
  have ofTask := delete_refused (taskRules_keepsIds "tasks") unique
    ⟨[(idField, .ofInt 1)], by simp [taskWithPart, ofTasks], rfl⟩ trivial
  have forbidden : taskRules.graph.canDelete taskWithPart.store.collections "tasks"
      (.ofInt 2) = false := by decide +kernel
  have refused : (delete taskRules "tasks" (.ofInt 1)).Referenced taskWithPart := by
    decide +kernel
  exact ⟨(ofPart.1 forbidden).1, (ofPart.1 forbidden).2, by decide +kernel, ofTask.2 refused⟩

end Workspace

end DocStore
