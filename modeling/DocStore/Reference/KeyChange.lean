import DocStore.Reference.Workspace

/-!
# Changes of keys

When a key changes, the records that hold its old value follow as the update
policies of the dependents say.  All of them are found, and all restrictions
checked, before the first one is changed.
-/

namespace DocStore

/-- The key of a dependent, before and after a change. -/
structure KeyChange where
  dependent : Dependent
  old : Json
  new : Json

/-- Records that follow a change of a key. -/
structure Followers where
  change : KeyChange
  action : ReferenceAction
  matching : List Record

namespace ReferenceGraph

def keyChanges (graph : ReferenceGraph) (collection : String) (old new : Record) :
    List KeyChange :=
  (graph.dependentsOf collection).filterMap fun dependent =>
    match old.linked? dependent.key with
    | none => none
    | some oldValue =>
      let newValue := Json.orNull (Fields.get? dependent.key new)
      if oldValue.same newValue then none else some ⟨dependent, oldValue, newValue⟩

def idChanges (graph : ReferenceGraph) (collection : String) (old new : Json) :
    List KeyChange :=
  ((graph.dependentsOf collection).filter (·.key = idField)).map (⟨·, old, new⟩)

end ReferenceGraph

namespace KeyChange

/-- What tells dependents apart.  A relation that is declared from both sides has
two dependents of one place. -/
def place (change : KeyChange) : String × String × String :=
  (change.dependent.collection, change.dependent.field, change.dependent.key)

/-- The records that follow some changes, of every place not yet seen, or the
first restriction against it. -/
def plan (collections : Collections) (seen : List (String × String × String)) :
    List KeyChange → Except Failure (List Followers)
  | [] => .ok []
  | change :: rest =>
    let dependent := change.dependent
    match dependent.onUpdate with
    | none => plan collections seen rest
    | some action =>
      if seen.contains change.place then plan collections seen rest
      else
        let seen := change.place :: seen
        let matching := collections.holding dependent.collection dependent.field change.old
        if matching.isEmpty then plan collections seen rest
        else if action = .restrict then
          .error (.referenced
            (.keyInUse change.old dependent.collection dependent.field))
        else do return ⟨change, action, matching⟩ :: (← plan collections seen rest)

end KeyChange

namespace Workspace

variable {A : Type} [Adapter A]

/-- The value that a record which follows a change gets, if it gets one. -/
def followingValue (rules : ReferenceRules) (change : KeyChange) :
    ReferenceAction → Attempt (Workspace A) (Option Json)
  | .cascade => return some change.new
  | .setNull => return some .null
  | .setDefault => do return some (← defaultFor rules change.dependent)
  | .restrict => return none

/-- Changes one record; answers how many were changed. -/
def followOne (rules : ReferenceRules) (group : Followers) (id : Json) :
    Attempt (Workspace A) Nat := do
  match ← followingValue rules group.change group.action with
  | none => return 0
  | some value =>
    return if ← setField group.change.dependent id value then 1 else 0

def followAll (rules : ReferenceRules) (groups : List Followers) :
    Attempt (Workspace A) Nat :=
  groups.foldlM (fun count group =>
    (group.matching.filterMap Record.id?).foldlM (fun count id => do
      return count + (← followOne rules group id)) count) 0

def followChanges (rules : ReferenceRules) (changes : List KeyChange) :
    Attempt (Workspace A) Nat := do
  let groups ← Attempt.ofResult (KeyChange.plan (← get).store.collections [] changes)
  followAll rules groups

/-- Fails if a restriction stands against the change from one version of a record
to another. -/
def checkKeyChanges (rules : ReferenceRules) (collection : String) (old new : Record) :
    Attempt (Workspace A) Unit := do
  let changes := rules.graph.keyChanges collection old new
  let _ ← Attempt.ofResult (KeyChange.plan (← get).store.collections [] changes)

def followKeyChanges (rules : ReferenceRules) (collection : String) (old new : Record) :
    Attempt (Workspace A) Nat :=
  followChanges rules (rules.graph.keyChanges collection old new)

def followIdChange (rules : ReferenceRules) (collection : String) (old new : Json) :
    Attempt (Workspace A) Nat :=
  followChanges rules (rules.graph.idChanges collection old new)

end Workspace

end DocStore
