import DocStore.Proofs.DeletionReach
import DocStore.Proofs.StoredIds
import Mathlib.Data.List.Perm.Subperm

/-!
# The depth of a deletion

A deletion with more room for its depth comes out the same, unless it had too little.  It
has too little only after it has come to as many records, one inside the other, as it has
room for.  Since all of them but the first are stored ones, and none twice, room for two
more than are stored is always enough.
-/

namespace DocStore

namespace Attempt

variable {σ α β : Type}

/-- Whether an attempt comes out like a deeper one, unless it finds a cascade too deep. -/
def AgreesUnlessTooDeep (attempt deeper : Attempt σ α) : Prop :=
  ∀ state, (attempt.outcome state).1 ≠ .error .cascadeTooDeep →
    deeper.outcome state = attempt.outcome state

namespace AgreesUnlessTooDeep

theorem refl (attempt : Attempt σ α) : attempt.AgreesUnlessTooDeep attempt :=
  fun _ _ => rfl

theorem bind {first deeper : Attempt σ α} {next deeperNext : α → Attempt σ β}
    (agrees : first.AgreesUnlessTooDeep deeper)
    (nextAgrees : ∀ value, (next value).AgreesUnlessTooDeep (deeperNext value)) :
    (first >>= next).AgreesUnlessTooDeep (deeper >>= deeperNext) := by
  intro state ends
  have same := agrees state
  rw [bind_outcome] at ends ⊢
  rw [bind_outcome]
  rcases ran : first.outcome state with ⟨failure | value, middle⟩
  · simp only [ran] at ends same ⊢
    rw [same (by simpa using ends)]
  · simp only [ran] at ends same ⊢
    rw [same (by simp)]
    exact nextAgrees value middle ends

theorem forM {each deeper : α → Attempt σ PUnit} (items : List α)
    (agrees : ∀ item, (each item).AgreesUnlessTooDeep (deeper item)) :
    (items.forM each).AgreesUnlessTooDeep (items.forM deeper) := by
  induction items with
  | nil => exact refl _
  | cons item items ih => exact (agrees item).bind fun _ => ih

end AgreesUnlessTooDeep

end Attempt

theorem Collections.update_error {collections : Collections} {name : String} {id : Json}
    {patch : Record} {failure : Failure}
    (failed : update name id patch collections = .error failure) :
    ∃ newId, failure = .duplicateId name newId := by
  have outcome := amend_outcome collections name id (·.putAll patch)
  unfold update at failed
  rw [failed] at outcome
  cases outcome
  exact ⟨_, rfl⟩

theorem Store.commit_failsOnly {A α : Type} [Adapter A] {edit : Edit α}
    (editFails : ∀ collections failure, edit collections = .error failure →
      failure ≠ .cascadeTooDeep) : (commit (A := A) edit).FailsOnly (· ≠ .cascadeTooDeep) := by
  intro store failure after failed
  rcases commit_error failed with ⟨refused, -⟩ | ⟨problem, rfl⟩
  · exact editFails _ _ refused
  · simp

namespace Cascade

open Attempt

variable {A : Type} {rules : ReferenceRules} {name : String} {id : Json}

section MoreDepth

variable [Adapter A] {delete deeper : String → Json → Attempt (Cascade A) Bool}

theorem applyPolicies_agrees
    (agrees : ∀ name id, (delete name id).AgreesUnlessTooDeep (deeper name id))
    (name : String) (record : Record) :
    (applyPolicies rules delete name record).AgreesUnlessTooDeep
      (applyPolicies rules deeper name record) := by
  refine AgreesUnlessTooDeep.forM _ fun dependent => ?_
  unfold applyDependent
  split
  · refine (AgreesUnlessTooDeep.refl collections).bind fun _ =>
      AgreesUnlessTooDeep.forM _ fun id => ?_
    rename_i action _ _ _ _
    cases action with
    | cascade => exact (agrees _ id).bind fun _ => .refl _
    | _ => exact .refl _
  · exact .refl _

theorem deleteWithin_agrees (rules : ReferenceRules) (depth : Nat) (name : String)
    (id : Json) : (deleteWithin (A := A) rules depth name id).AgreesUnlessTooDeep
      (deleteWithin rules (depth + 1) name id) := by
  induction depth generalizing name id with
  | zero => exact fun _ ends => absurd rfl ends
  | succ depth ih =>
      rw [deleteWithin, deleteWithin]
      refine (AgreesUnlessTooDeep.refl collections).bind fun _ => ?_
      split
      · exact .refl _
      · refine (AgreesUnlessTooDeep.refl get).bind fun _ => ?_
        split_ifs
        · exact .refl _
        · refine (AgreesUnlessTooDeep.refl _).bind fun _ =>
            (AgreesUnlessTooDeep.refl collections).bind fun _ => ?_
          split
          · exact .refl _
          · exact (applyPolicies_agrees ih name _).bind fun _ => .refl _

/-- A deletion that its depth was enough for comes out the same with more. -/
theorem deleteWithin_eq_of_le {depth more : Nat} (le : depth ≤ more) {cascade : Cascade A}
    (ends : ((deleteWithin rules depth name id).outcome cascade).1 ≠ .error .cascadeTooDeep) :
    (deleteWithin rules more name id).outcome cascade =
      (deleteWithin rules depth name id).outcome cascade := by
  induction le with
  | refl => rfl
  | step _ ih =>
      rw [deleteWithin_agrees rules _ name id cascade (by rwa [ih]), ih]

end MoreDepth

section TooDeep

variable {α β : Type}

/-- Whether an attempt takes no note back, and gives up as too deep only after it has
noted `depth` records. -/
def GivesUpPast (depth : Nat) (attempt : Attempt (Cascade A) α) : Prop :=
  ∀ cascade, cascade.visited.length ≤ (attempt.outcome cascade).2.visited.length ∧
    ((attempt.outcome cascade).1 = .error .cascadeTooDeep →
      cascade.visited.length + depth ≤ (attempt.outcome cascade).2.visited.length)

variable {depth : Nat}

theorem givesUpPast_of_fails {attempt : Attempt (Cascade A) α}
    (noted : ∀ cascade, (attempt.outcome cascade).2.visited = cascade.visited)
    (fails : attempt.FailsOnly (· ≠ .cascadeTooDeep)) : GivesUpPast depth attempt := by
  refine fun cascade => ⟨by rw [noted], fun tooDeep => ?_⟩
  exact absurd rfl (fails cascade _ _ (Prod.ext tooDeep rfl))

theorem givesUpPast_of_ok {attempt : Attempt (Cascade A) α}
    (noted : ∀ cascade, (attempt.outcome cascade).2.visited = cascade.visited)
    (answer : Cascade A → α)
    (succeeds : ∀ cascade, (attempt.outcome cascade).1 = .ok (answer cascade)) :
    GivesUpPast depth attempt :=
  givesUpPast_of_fails noted (failsOnly_of_ok answer succeeds)

theorem GivesUpPast.bind {first : Attempt (Cascade A) α} {next : α → Attempt (Cascade A) β}
    (firstPast : GivesUpPast depth first) (nextPast : ∀ value, GivesUpPast depth (next value)) :
    GivesUpPast depth (first >>= next) := by
  intro cascade
  have before := firstPast cascade
  rw [bind_outcome]
  rcases ran : first.outcome cascade with ⟨failure | value, middle⟩
  · simpa [ran] using before
  · have after := nextPast value middle
    simp only [ran] at before ⊢
    refine ⟨before.1.trans after.1, fun tooDeep => ?_⟩
    exact (Nat.add_le_add_right before.1 depth).trans (after.2 tooDeep)

theorem givesUpPast_forM (items : List α) {each : α → Attempt (Cascade A) PUnit}
    (past : ∀ item, GivesUpPast depth (each item)) : GivesUpPast depth (items.forM each) := by
  induction items with
  | nil => exact givesUpPast_of_ok (fun _ => rfl) (fun _ => ⟨⟩) fun _ => rfl
  | cons item items ih => exact (past item).bind fun _ => ih

theorem defaultFor_givesUpPast (dependent : Dependent) :
    GivesUpPast depth (onSpace (Workspace.defaultFor (A := A) rules dependent)) := by
  refine givesUpPast_of_fails (fun cascade => rfl) (FailsOnly.onPart ?_)
  unfold Workspace.defaultFor
  split
  · rename_i field _
    exact failsOnly_of_ok (fun space => (field.defaultOrNull space.supply).1) fun _ => rfl
  · exact failsOnly_of_ok (fun _ => .null) fun _ => rfl

variable [Adapter A]

theorem removal_givesUpPast (name : String) (id : Json) :
    GivesUpPast depth (removal (A := A) name id) := by
  apply givesUpPast_of_fails fun cascade => (removal_outcome name id cascade).2
  intro cascade failure after failed
  obtain ⟨problem, rfl⟩ := removal_error failed
  simp

theorem setField_givesUpPast (dependent : Dependent) (id value : Json) :
    GivesUpPast depth (onSpace (A := A) (Workspace.setField dependent id value)) := by
  refine givesUpPast_of_fails (fun cascade => (setField_outcome dependent id value cascade).2)
    (FailsOnly.onPart (FailsOnly.bind (FailsOnly.onPart (Store.commit_failsOnly ?_))
      fun changed => failsOnly_of_ok (fun _ => changed.isSome) fun _ => rfl))
  intro collections failure failed
  obtain ⟨newId, rfl⟩ := Collections.update_error failed
  simp

theorem applyPolicies_givesUpPast (rules : ReferenceRules)
    {delete : String → Json → Attempt (Cascade A) Bool}
    (past : ∀ name id, GivesUpPast depth (delete name id)) (name : String) (record : Record) :
    GivesUpPast depth (applyPolicies rules delete name record) := by
  have done : GivesUpPast depth (pure () : Attempt (Cascade A) Unit) :=
    givesUpPast_of_ok (fun _ => rfl) (fun _ => ()) fun _ => rfl
  have reads : GivesUpPast depth (collections (A := A)) :=
    givesUpPast_of_ok (fun _ => rfl) held fun _ => rfl
  refine givesUpPast_forM _ fun dependent => ?_
  unfold applyDependent
  split
  · refine reads.bind fun _ => givesUpPast_forM _ fun id => ?_
    rename_i action _ _ _ _
    cases action with
    | cascade => exact (past _ id).bind fun _ => done
    | setNull => exact (setField_givesUpPast dependent id .null).bind fun _ => done
    | setDefault =>
        exact (defaultFor_givesUpPast dependent).bind fun value =>
          (setField_givesUpPast dependent id value).bind fun _ => done
    | restrict => exact done
  · exact done

/-- Every deletion that lies inside another one was noted when the depth ran out. -/
theorem deleteWithin_givesUpPast (rules : ReferenceRules) (depth : Nat) (name : String)
    (id : Json) : GivesUpPast depth (deleteWithin (A := A) rules depth name id) := by
  induction depth generalizing name id with
  | zero => exact fun cascade => ⟨le_rfl, fun _ => le_rfl⟩
  | succ depth ih =>
      intro cascade
      have outcome := deleteWithin_outcome rules depth name id cascade
      generalize (deleteWithin rules (depth + 1) name id).outcome cascade = out at outcome
      cases outcome with
      | missing => simp
      | again => simp
      | restricted => simp [opened]
      | @followed record _ _ _ =>
          -- Those inside give up past one record less, but this one is noted too.
          have inside := ((applyPolicies_givesUpPast rules ih name record).bind fun _ =>
            removal_givesUpPast name id) (cascade.opened (visitMark name id))
          have noted : (cascade.opened (visitMark name id)).visited.length =
              cascade.visited.length + 1 := rfl
          rw [noted] at inside
          exact ⟨by omega, fun tooDeep => by have := inside.2 tooDeep; omega⟩

end TooDeep

end Cascade

namespace Collections

variable {collections : Collections}

/-- The marks of all stored ids. -/
def marks (collections : Collections) : List String :=
  collections.entries.flatMap fun entry =>
    (entry.2.filterMap Record.id?).map (visitMark entry.1)

theorem mem_marks_iff {mark : String} :
    mark ∈ collections.marks ↔
      ∃ name id, collections.Stores name id ∧ mark = visitMark name id := by
  constructor
  · intro member
    obtain ⟨⟨name, records⟩, isEntry, isMark⟩ := List.mem_flatMap.1 member
    obtain ⟨id, isId, rfl⟩ := List.mem_map.1 isMark
    obtain ⟨record, isRecord, isId⟩ := List.mem_filterMap.1 isId
    refine ⟨name, id, ⟨record, ?_, isId⟩, rfl⟩
    rwa [Collections.records, SortedMap.get?_eq_some_iff.2 isEntry]
  · rintro ⟨name, id, ⟨record, member, isId⟩, rfl⟩
    unfold Collections.records at member
    cases found : collections.get? name with
    | none => simp [found] at member
    | some records =>
        rw [found, Option.getD_some] at member
        refine List.mem_flatMap.2 ⟨_, SortedMap.get?_eq_some_iff.1 found, ?_⟩
        exact List.mem_map.2 ⟨id, List.mem_filterMap.2 ⟨record, member, isId⟩, rfl⟩

theorem length_marks_le (collections : Collections) :
    collections.marks.length ≤ collections.recordCount := by
  unfold marks recordCount SortedMap.values
  induction collections.entries with
  | nil => simp
  | cons entry entries ih =>
      have ids := List.length_filterMap_le Record.id? entry.2
      simp only [List.flatMap_cons, List.length_append, List.length_map, List.map_cons,
        List.foldr_cons]
      omega

end Collections

namespace Cascade

variable {A : Type} {rules : ReferenceRules} {origin : Collections}

/-- The invariant of a deletion that brings in no new ids: what is stored was stored
before, and no record but the first one and those is noted, and none twice. -/
structure Accounted (origin : Collections) (first : String) (cascade : Cascade A) : Prop where
  within : ∀ name id, cascade.held.Stores name id → origin.Stores name id
  nodup : cascade.visited.Nodup
  noted : cascade.visited ⊆ first :: origin.marks

theorem Accounted.length_le {first : String} {cascade : Cascade A}
    (accounted : Accounted origin first cascade) :
    cascade.visited.length ≤ origin.recordCount + 1 :=
  calc cascade.visited.length
      ≤ (first :: origin.marks).length := (accounted.nodup.subperm accounted.noted).length_le
    _ ≤ origin.recordCount + 1 := Nat.succ_le_succ origin.length_marks_le

variable [Adapter A]

theorem accounted_keptBySteps (keeps : ∀ name, rules.graph.KeepsIds name)
    (origin : Collections) (first : String) :
    KeptBySteps rules origin.Stores origin.Stores (Accounted (A := A) origin first) where
  stored accounted stored := accounted.within _ _ stored
  takes _ isKnown := isKnown
  visits {cascade name id} accounted isKnown fresh := by
    refine ⟨accounted.within, List.nodup_cons.2 ⟨fresh, accounted.nodup⟩, ?_⟩
    refine List.cons_subset.2 ⟨List.mem_cons_of_mem _ ?_, accounted.noted⟩
    exact Collections.mem_marks_iff.2 ⟨name, id, isKnown, rfl⟩
  draws _ accounted := ⟨accounted.within, accounted.nodup, accounted.noted⟩
  sets {dependent id value} gives isKnown cascade accounted := by
    obtain ⟨held, visited⟩ := setField_outcome dependent id value cascade
    refine ⟨fun name own stored => ?_, visited ▸ accounted.nodup, visited ▸ accounted.noted⟩
    rw [held] at stored
    rcases stored.of_update (gives.keepsId (keeps _)) with earlier | ⟨rfl, rfl⟩
    · exact accounted.within _ _ earlier
    · exact isKnown
  removes {_ name id} _ _ _ cascade accounted := by
    obtain ⟨held, visited⟩ := removal_outcome name id cascade
    refine ⟨fun other own stored => ?_, visited ▸ accounted.nodup, visited ▸ accounted.noted⟩
    rw [held] at stored
    exact accounted.within _ _ stored.of_remove

/-- The first record need not be known: it has a mark of its own. -/
theorem accounted_deleteWithin (keeps : ∀ name, rules.graph.KeepsIds name) (depth : Nat)
    (name : String) (id : Json) (space : Workspace A) :
    Accounted space.store.collections (visitMark name id)
      ((deleteWithin rules depth name id).outcome ⟨space, []⟩).2 := by
  have start : Accounted space.store.collections (visitMark name id) ⟨space, []⟩ :=
    ⟨fun _ _ stored => stored, .nil, List.nil_subset _⟩
  have noted : Accounted space.store.collections (visitMark name id)
      (opened ⟨space, []⟩ (visitMark name id)) :=
    ⟨fun _ _ stored => stored, by simp [opened], by simp [opened]⟩
  have steps := accounted_keptBySteps (A := A) keeps space.store.collections (visitMark name id)
  cases depth with
  | zero => exact start
  | succ depth =>
      have outcome := deleteWithin_outcome rules depth name id ⟨space, []⟩
      generalize (deleteWithin rules (depth + 1) name id).outcome ⟨space, []⟩ = out at outcome
      cases outcome with
      | missing => exact start
      | again => exact start
      | restricted => exact noted
      | followed found fresh free =>
          refine (steps.applyPolicies (steps.deleteWithin depth) name _).bind
            (fun _ _ _ _ _ => ?_) _ noted
          intro cascade accounted
          obtain ⟨held, visited⟩ := removal_outcome name id cascade
          refine ⟨fun other own stored => ?_, visited ▸ accounted.nodup,
            visited ▸ accounted.noted⟩
          rw [held] at stored
          exact accounted.within _ _ stored.of_remove

end Cascade

namespace Workspace

variable {A : Type} [Adapter A] {rules : ReferenceRules}

/-- Room for two more deletions than there are records is enough for a deletion that
gives no defaults to ids: it comes out the same with any more.  It comes to each stored
record at most once, and to the one that is asked for. -/
theorem delete_visits_each_once (keeps : ∀ name, rules.graph.KeepsIds name)
    (collection : String) (id : Json) (space : Workspace A) :
    ∃ result last,
      (∀ depth, space.store.collections.recordCount + 2 ≤ depth →
        (Cascade.deleteWithin rules depth collection id).outcome ⟨space, []⟩ =
          (result, last)) ∧
      result ≠ .error .cascadeTooDeep ∧
      (delete rules collection id).outcome space = (result, last.space) ∧
      last.visited.Nodup ∧
      last.visited ⊆ visitMark collection id :: space.store.collections.marks ∧
      last.visited.length ≤ space.store.collections.recordCount + 1 := by
  have accounted := Cascade.accounted_deleteWithin keeps
    (space.store.collections.recordCount + 2) collection id space
  have past := (Cascade.deleteWithin_givesUpPast rules
    (space.store.collections.recordCount + 2) collection id ⟨space, []⟩).2
  rcases ran : (Cascade.deleteWithin rules (space.store.collections.recordCount + 2)
    collection id).outcome ⟨space, []⟩ with ⟨result, last⟩
  simp only [ran, List.length_nil, Nat.zero_add] at accounted past
  have count := accounted.length_le
  have ends : result ≠ .error .cascadeTooDeep := by
    intro tooDeep
    have noted := past tooDeep
    omega
  have same {depth : Nat} (enough : space.store.collections.recordCount + 2 ≤ depth) :
      (Cascade.deleteWithin rules depth collection id).outcome ⟨space, []⟩ =
        (result, last) := by
    rw [Cascade.deleteWithin_eq_of_le enough (by rwa [ran]), ran]
  have enough : space.store.collections.recordCount + 2 ≤
      space.store.collections.cascadeDepth := Nat.le_add_right _ _
  have deleted : (delete rules collection id).outcome space = (result, last.space) := by
    rw [delete_outcome, same enough]
  exact ⟨result, last, fun _ => same, ends, deleted, accounted.nodup, accounted.noted, count⟩

/-- Rules for tasks that go with their parents and that others may come after. -/
def taskRules : ReferenceRules :=
  .ofRegistry (Registry.register {} {
    name := "tasks"
    fields := [
      ("parent", (Field.ofTypes [.number]).withRules fun rules =>
        { rules with
          relation := some { Relation.manyToOne "tasks" with onDelete := some .cascade } }),
      ("after", (Field.ofTypes [.number]).withRules fun rules =>
        { rules with
          relation := some { Relation.manyToOne "tasks" with onDelete := some .restrict } })] })

/-- A workspace of tasks. -/
def ofTasks (tasks : List Record) : Workspace Memory :=
  ⟨{ collections := SortedMap.insert .empty "tasks" tasks, storage := {}, key := "library" },
    .start 0 0⟩

theorem taskRules_keepsIds (name : String) : taskRules.graph.KeepsIds name :=
  ReferenceGraph.keepsIds_of_declared (by decide +kernel) name

/-- Two tasks that are each other's parents. -/
def taskRing : Workspace Memory :=
  ofTasks [[(idField, .ofInt 1), ("parent", .ofInt 2)],
    [(idField, .ofInt 2), ("parent", .ofInt 1)]]

/-- The ring of tasks is left after two deletions, one inside the other. -/
theorem delete_visits_taskRing :
    ∃ result last,
      (∀ depth, 4 ≤ depth →
        (Cascade.deleteWithin taskRules depth "tasks" (.ofInt 1)).outcome ⟨taskRing, []⟩ =
          (result, last)) ∧
      result ≠ .error .cascadeTooDeep ∧
      (delete taskRules "tasks" (.ofInt 1)).outcome taskRing = (result, last.space) ∧
      last.visited.length ≤ 3 := by
  obtain ⟨result, last, same, ends, deleted, -, -, count⟩ :=
    delete_visits_each_once taskRules_keepsIds "tasks" (.ofInt 1) taskRing
  exact ⟨result, last, same, ends, deleted, count⟩

end Workspace

end DocStore
