import DocStore.Proofs.Descent
import DocStore.Reference.Deletion

/-!
# Steps of a deletion

A deletion that comes to a record ends in one of four ways.  It touches the store by
three kinds of steps only: it notes a record, gives a field a value, and removes a
record.  What these steps keep, a deletion of any depth keeps, also where it stops half
way.
-/

namespace DocStore

/-- Whether records of a collection go along with other ones. -/
def ReferenceGraph.TakesFrom (graph : ReferenceGraph) (name : String) : Prop :=
  ∃ owner, ∃ dependent ∈ graph.dependentsOf owner,
    dependent.onDelete = some .cascade ∧ dependent.collection = name

/-- Whether a delete policy may give a value to the field of a dependent. -/
inductive ReferenceRules.Gives (rules : ReferenceRules) (dependent : Dependent) :
    Json → Prop where
  | null {owner : String} (member : dependent ∈ rules.graph.dependentsOf owner)
      (nulls : dependent.onDelete = some .setNull) : Gives rules dependent .null
  | drawn {owner : String} {A : Type} {space after : Workspace A} {value : Json}
      (member : dependent ∈ rules.graph.dependentsOf owner)
      (defaults : dependent.onDelete = some .setDefault)
      (draws : (Workspace.defaultFor rules dependent).outcome space = (.ok value, after)) :
      Gives rules dependent value

namespace Workspace

variable {A : Type} [Adapter A] (dependent : Dependent) (id value : Json) (space : Workspace A)

theorem setField_collections :
    ((setField dependent id value).outcome space).2.store.collections =
      Edit.applied (Collections.update dependent.collection id [(dependent.field, value)])
        space.store.collections := by
  rw [← Store.commit_collections (A := A), setField, Attempt.bind_outcome, onStore,
    Attempt.onPart_outcome]
  rcases (Store.commit (Collections.update dependent.collection id
    [(dependent.field, value)])).outcome space.store with ⟨failure | answer, after⟩ <;> rfl

theorem setField_supply :
    ((setField dependent id value).outcome space).2.supply = space.supply := by
  rw [setField, Attempt.bind_outcome, onStore, Attempt.onPart_outcome]
  rcases (Store.commit (Collections.update dependent.collection id
    [(dependent.field, value)])).outcome space.store with ⟨failure | answer, after⟩ <;> rfl

end Workspace

namespace Cascade

open Attempt

variable {A : Type}

/-- The collections at a point of a deletion. -/
def held (cascade : Cascade A) : Collections :=
  cascade.space.store.collections

/-- A deletion in progress notes the record. -/
def opened (cascade : Cascade A) (mark : String) : Cascade A :=
  { cascade with visited := mark :: cascade.visited }

/-- A deletion in progress with another supply. -/
def supplied (cascade : Cascade A) (supply : Supply) : Cascade A :=
  { cascade with space := { cascade.space with supply } }

theorem defaultFor_outcome (rules : ReferenceRules) (dependent : Dependent)
    (cascade : Cascade A) :
    ∃ supply, ((onSpace (Workspace.defaultFor rules dependent)).outcome cascade).2 =
      cascade.supplied supply := by
  unfold Workspace.defaultFor
  split
  · exact ⟨_, rfl⟩
  · exact ⟨cascade.space.supply, rfl⟩

variable [Adapter A] {rules : ReferenceRules} {cascade : Cascade A} {name : String} {id : Json}

/-- The last step of a deletion. -/
def removal (name : String) (id : Json) : Attempt (Cascade A) Bool :=
  onSpace (Workspace.onStore (Store.commit (Collections.remove name id)))

theorem removal_outcome (name : String) (id : Json) (cascade : Cascade A) :
    ((removal name id).outcome cascade).2.held =
        Edit.applied (Collections.remove name id) cascade.held ∧
      ((removal name id).outcome cascade).2.visited = cascade.visited :=
  ⟨Store.commit_collections _ _, rfl⟩

theorem remove_ok {before now : Cascade A} {answer : Bool}
    (ran : (removal name id).outcome before = (.ok answer, now)) :
    ∃ changed, Collections.remove name id before.held = .ok (answer, changed) ∧
      now.held = changed.getD before.held ∧ now.visited = before.visited := by
  unfold removal at ran
  rw [onSpace, onPart_outcome, Prod.mk.injEq] at ran
  have committed := ran.1
  rw [Workspace.onStore, onPart_outcome] at committed
  obtain ⟨changed, removed, kept⟩ := Store.commit_ok (Prod.ext committed rfl)
  refine ⟨changed, removed, ?_, by rw [← ran.2]⟩
  rw [← ran.2]
  exact kept

theorem removal_error {before now : Cascade A} {failure : Failure}
    (failed : (removal name id).outcome before = (.error failure, now)) :
    ∃ problem, failure = .storage problem := by
  unfold removal at failed
  rw [onSpace, onPart_outcome, Workspace.onStore, onPart_outcome, Prod.mk.injEq] at failed
  rcases Store.commit_error (Prod.ext failed.1 rfl) with ⟨refused, -⟩ | isStorage
  · simp only [Collections.remove] at refused
    split_ifs at refused
  · exact isStorage

theorem setField_outcome (dependent : Dependent) (id value : Json) (cascade : Cascade A) :
    ((onSpace (Workspace.setField dependent id value)).outcome cascade).2.held =
        Edit.applied (Collections.update dependent.collection id [(dependent.field, value)])
          cascade.held ∧
      ((onSpace (Workspace.setField dependent id value)).outcome cascade).2.visited =
        cascade.visited :=
  ⟨Workspace.setField_collections dependent id value cascade.space, rfl⟩

/-- How a deletion comes out that may go deeper: there is no such record, or it was come
to before, or it is restricted, or it follows the policies and removes the record. -/
inductive DeleteOutcome (rules : ReferenceRules) (depth : Nat) (name : String) (id : Json)
    (cascade : Cascade A) : Except Failure Bool × Cascade A → Prop where
  | missing (absent : cascade.held.find? name id = none) :
      DeleteOutcome rules depth name id cascade (.ok false, cascade)
  | again (visited : visitMark name id ∈ cascade.visited) :
      DeleteOutcome rules depth name id cascade (.ok false, cascade)
  | restricted {record : Record} {blocker : Dependent}
      (found : cascade.held.find? name id = some record)
      (fresh : visitMark name id ∉ cascade.visited)
      (blocks : rules.graph.restricting cascade.held name record = some blocker) :
      DeleteOutcome rules depth name id cascade
        (.error (.referenced
            (.stillReferenced name id blocker.collection blocker.field)),
          cascade.opened (visitMark name id))
  | followed {record : Record} (found : cascade.held.find? name id = some record)
      (fresh : visitMark name id ∉ cascade.visited)
      (free : rules.graph.restricting cascade.held name record = none) :
      DeleteOutcome rules depth name id cascade
        ((applyPolicies rules (deleteWithin rules depth) name record >>=
          fun _ => removal name id).outcome (cascade.opened (visitMark name id)))

theorem deleteWithin_outcome (rules : ReferenceRules) (depth : Nat) (name : String)
    (id : Json) (cascade : Cascade A) :
    DeleteOutcome rules depth name id cascade
      ((deleteWithin rules (depth + 1) name id).outcome cascade) := by
  have reads (cascade : Cascade A) :
      (collections (A := A)).outcome cascade = (.ok cascade.held, cascade) := rfl
  have visits : (visit (A := A) (visitMark name id)).outcome cascade =
      (.ok (), cascade.opened (visitMark name id)) := rfl
  rw [deleteWithin, bind_outcome, reads]
  cases found : cascade.held.find? name id with
  | none =>
      simp only [found]
      exact .missing found
  | some record =>
      simp only [found]
      rw [get_bind_outcome]
      split_ifs with known
      · exact .again (List.contains_iff_mem.1 known)
      · have fresh : visitMark name id ∉ cascade.visited :=
          fun isMark => known (List.contains_iff_mem.2 isMark)
        rw [bind_outcome, visits]
        simp only
        rw [bind_outcome, reads]
        cases free : rules.graph.restricting cascade.held name record with
        | some blocker =>
            simp only [show (cascade.opened (visitMark name id)).held = cascade.held from rfl, free]
            exact .restricted found fresh free
        | none =>
            simp only [show (cascade.opened (visitMark name id)).held = cascade.held from rfl, free]
            exact .followed found fresh free

/-- Whether every step of a deletion leaves a property true.  The records that it changes
are known ones, as all stored ones are, and those that go are some of them. -/
structure KeptBySteps (rules : ReferenceRules) (known taken : String → Json → Prop)
    (property : Cascade A → Prop) : Prop where
  stored : ∀ {cascade name id}, property cascade → cascade.held.Stores name id → known name id
  takes : ∀ {name id}, rules.graph.TakesFrom name → known name id → taken name id
  visits : ∀ {cascade name id}, property cascade → taken name id →
    visitMark name id ∉ cascade.visited → property (cascade.opened (visitMark name id))
  draws : ∀ {cascade} supply, property cascade → property (cascade.supplied supply)
  sets : ∀ {dependent id value}, rules.Gives dependent value → known dependent.collection id →
    (onSpace (Workspace.setField dependent id value)).Keeps property
  removes : ∀ {cascade name id}, property cascade → taken name id →
    visitMark name id ∉ cascade.visited → (removal name id).Keeps property

namespace KeptBySteps

variable {known taken : String → Json → Prop} {property : Cascade A → Prop}
  {delete : String → Json → Attempt (Cascade A) Bool}

theorem applyPolicy (steps : KeptBySteps rules known taken property)
    (deletes : ∀ name id, taken name id → (delete name id).Keeps property)
    {owner : String} {dependent : Dependent}
    (member : dependent ∈ rules.graph.dependentsOf owner) {action : ReferenceAction}
    (declared : dependent.onDelete = some action) (isKnown : known dependent.collection id) :
    (Cascade.applyPolicy rules delete dependent action id).Keeps property := by
  have done : (pure () : Attempt (Cascade A) Unit).Keeps property :=
    keeps_of_stays fun _ => rfl
  cases action with
  | cascade =>
      have isTaken := steps.takes ⟨owner, dependent, member, declared, rfl⟩ isKnown
      exact (deletes _ id isTaken).bind fun _ _ _ _ _ => done
  | setNull => exact (steps.sets (.null member declared) isKnown).bind fun _ _ _ _ _ => done
  | setDefault =>
      have draws : (onSpace (Workspace.defaultFor rules dependent)).Keeps property := by
        intro cascade holds
        obtain ⟨supply, after⟩ := defaultFor_outcome rules dependent cascade
        exact after ▸ steps.draws supply holds
      refine draws.bind fun cascade value middle _ drawn => ?_
      rw [onSpace, onPart_outcome, Prod.mk.injEq] at drawn
      have gives : rules.Gives dependent value :=
        .drawn member declared (Prod.ext drawn.1 rfl)
      exact (steps.sets gives isKnown).bind fun _ _ _ _ _ => done
  | restrict => exact done

theorem applyDependent (steps : KeptBySteps rules known taken property)
    (deletes : ∀ name id, taken name id → (delete name id).Keeps property)
    {owner : String} {dependent : Dependent}
    (member : dependent ∈ rules.graph.dependentsOf owner) (record : Record) :
    (Cascade.applyDependent rules delete record dependent).Keeps property := by
  unfold Cascade.applyDependent
  split
  · rename_i declared _
    have reads : (collections (A := A)).Keeps property := keeps_of_stays fun _ => rfl
    refine reads.bind fun cascade snapshot middle holds read => ?_
    obtain rfl : cascade.held = snapshot := Except.ok.inj (congrArg Prod.fst read)
    refine keeps_forM _ _ fun id isPointing => ?_
    obtain ⟨pointing, isHolder, isId⟩ := List.mem_filterMap.1 isPointing
    have isStored : cascade.held.Stores dependent.collection id :=
      ⟨pointing, (Collections.mem_holding.1 isHolder).1, isId⟩
    exact steps.applyPolicy deletes member declared (steps.stored holds isStored)
  · exact keeps_of_stays fun _ => rfl

theorem applyPolicies (steps : KeptBySteps rules known taken property)
    (deletes : ∀ name id, taken name id → (delete name id).Keeps property)
    (name : String) (record : Record) :
    (Cascade.applyPolicies rules delete name record).Keeps property :=
  keeps_forM _ _ fun _ member => steps.applyDependent deletes member record

/-- What every step keeps outlives a deletion of any depth. -/
theorem deleteWithin (steps : KeptBySteps rules known taken property) (depth : Nat) (name : String)
    (id : Json) (isTaken : taken name id) :
    (Cascade.deleteWithin rules depth name id).Keeps property := by
  -- The record of a deletion is noted before its policies, which go one deeper.
  induction depth generalizing name id with
  | zero => exact keeps_of_stays fun _ => rfl
  | succ depth ih =>
      intro cascade holds
      have outcome := deleteWithin_outcome rules depth name id cascade
      generalize (Cascade.deleteWithin rules (depth + 1) name id).outcome cascade = out at outcome
      cases outcome with
      | missing => exact holds
      | again => exact holds
      | restricted _ fresh => exact steps.visits holds isTaken fresh
      | followed _ fresh =>
          refine (steps.applyPolicies ih name _).bind (fun _ _ _ _ _ => ?_) _
            (steps.visits holds isTaken fresh)
          exact steps.removes holds isTaken fresh

end KeptBySteps

end Cascade

end DocStore
