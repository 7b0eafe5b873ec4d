import DocStore.Reference.Workspace

/-!
# Deletion along references

A record that goes takes others with it, or changes them, as the delete policies of
its dependents say.  Records taken along go the same way as the first one, so they
meet the same checks.  What was done before a failure stays done.
-/

namespace DocStore

/-- A workspace, and the records that a deletion has come to. -/
structure Cascade (A : Type) where
  space : Workspace A
  visited : List String := []

/-- The mark of a record that a deletion has come to. -/
def visitMark (collection : String) (id : Json) : String :=
  collection ++ "/" ++ id.typeName ++ ":" ++ id.display

namespace ReferenceGraph

/-- The first dependent that forbids the deletion of a record, because it still
points there. -/
def restricting (graph : ReferenceGraph) (collections : Collections) (collection : String)
    (record : Record) : Option Dependent :=
  (graph.dependentsOf collection).find? fun dependent =>
    dependent.onDelete == some .restrict &&
      match record.linked? dependent.key with
      | some value =>
        !(collections.holding dependent.collection dependent.field value).isEmpty
      | none => false

/-- Whether nothing forbids the deletion of a record.  If it is not stored, only
its id is known. -/
def canDelete (graph : ReferenceGraph) (collections : Collections) (collection : String)
    (id : Json) : Bool :=
  let record := (collections.find? collection id).getD [(idField, id)]
  (graph.restricting collections collection record).isNone

end ReferenceGraph

namespace Cascade

variable {A : Type} [Adapter A]

def onSpace {α : Type} (attempt : Attempt (Workspace A) α) : Attempt (Cascade A) α :=
  attempt.onPart space fun cascade space => { cascade with space }

def collections : Attempt (Cascade A) Collections := do
  return (← get).space.store.collections

def visit (mark : String) : Attempt (Cascade A) Unit :=
  modify fun cascade => { cascade with visited := mark :: cascade.visited }

/-- Applies a policy to one record that points at the record that goes; `delete`
is how a record taken along goes. -/
def applyPolicy (rules : ReferenceRules) (delete : String → Json → Attempt (Cascade A) Bool)
    (dependent : Dependent) (action : ReferenceAction) (id : Json) :
    Attempt (Cascade A) Unit := do
  match action with
  | .cascade => let _ ← delete dependent.collection id
  | .setNull => let _ ← onSpace (Workspace.setField dependent id .null)
  | .setDefault =>
    let value ← onSpace (Workspace.defaultFor rules dependent)
    let _ ← onSpace (Workspace.setField dependent id value)
  | .restrict => return ()

/-- Applies the policy of one dependent.  Records without an id are left alone. -/
def applyDependent (rules : ReferenceRules)
    (delete : String → Json → Attempt (Cascade A) Bool) (record : Record)
    (dependent : Dependent) : Attempt (Cascade A) Unit := do
  match dependent.onDelete, record.linked? dependent.key with
  | some action, some value =>
    let pointing := (← collections).holding dependent.collection dependent.field value
    (pointing.filterMap Record.id?).forM (applyPolicy rules delete dependent action)
  | _, _ => return ()

/-- Applies the policies of all dependents of a record that goes. -/
def applyPolicies (rules : ReferenceRules)
    (delete : String → Json → Attempt (Cascade A) Bool) (collection : String)
    (record : Record) : Attempt (Cascade A) Unit :=
  (rules.graph.dependentsOf collection).forM (applyDependent rules delete record)

/-- Deletes a record, with at most `depth` deletions inside one another; answers
whether it was there and not come to before. -/
def deleteWithin (rules : ReferenceRules) :
    Nat → String → Json → Attempt (Cascade A) Bool
  | 0, _, _ => throw .cascadeTooDeep
  | depth + 1, collection, id => do
    match (← collections).find? collection id with
    | none => return false
    | some record =>
      let mark := visitMark collection id
      if (← get).visited.contains mark then return false
      visit mark
      match rules.graph.restricting (← collections) collection record with
      | some blocker =>
        throw (.referenced (.stillReferenced collection id blocker.collection blocker.field))
      | none =>
        applyPolicies rules (deleteWithin rules depth) collection record
        onSpace (Workspace.onStore (Store.commit (Collections.remove collection id)))

end Cascade

namespace Collections

def recordCount (collections : Collections) : Nat :=
  collections.values.foldr (fun records count => records.length + count) 0

/-- How many deletions may lie inside one another.  The bound is this library's own, so
that a cascade ends whatever ids its defaults draw.  Every record can be come to once;
the rest is for records to which defaults give new ids on the way. -/
def cascadeDepth (collections : Collections) : Nat :=
  collections.recordCount + 2 + 1000

end Collections

namespace Workspace

variable {A : Type} [Adapter A]

def cascading {α : Type} (visited : List String) (attempt : Attempt (Cascade A) α) :
    Attempt (Workspace A) α :=
  fun space =>
    let (result, cascade) := attempt.run ⟨space, visited⟩
    (result, cascade.space)

/-- Deletes a record after the policies of all that points at it, within a bound;
answers whether it was there. -/
def deleteWithin (rules : ReferenceRules) (bound : Collections → Nat) (collection : String)
    (id : Json) : Attempt (Workspace A) Bool := do
  let depth := bound (← get).store.collections
  cascading [] (Cascade.deleteWithin rules depth collection id)

def delete (rules : ReferenceRules) (collection : String) (id : Json) :
    Attempt (Workspace A) Bool :=
  deleteWithin rules Collections.cascadeDepth collection id

/-- Applies the policies of all that points at a record, which stays, within a bound. -/
def applyDeletePoliciesWithin (rules : ReferenceRules) (bound : Collections → Nat)
    (collection : String) (id : Json) : Attempt (Workspace A) Unit := do
  let collections := (← get).store.collections
  match collections.find? collection id with
  | none => return ()
  | some record =>
    cascading [visitMark collection id]
      (Cascade.applyPolicies rules (Cascade.deleteWithin rules (bound collections))
        collection record)

def applyDeletePolicies (rules : ReferenceRules) (collection : String) (id : Json) :
    Attempt (Workspace A) Unit :=
  applyDeletePoliciesWithin rules Collections.cascadeDepth collection id

end Workspace

end DocStore
