import DocStore.Reference.Graph
import DocStore.Store.Basic

/-!
# Workspaces

What the upkeep of references works on: a store, and the supply that default values
are drawn from.
-/

namespace DocStore

structure Workspace (A : Type) where
  store : Store A
  supply : Supply

/-- What the upkeep of references goes by: the schemas and their relations. -/
structure ReferenceRules where
  registry : Registry
  graph : ReferenceGraph

namespace ReferenceRules

def ofRegistry (registry : Registry) : ReferenceRules :=
  ⟨registry, .ofRegistry registry⟩

end ReferenceRules

namespace Workspace

variable {A : Type} [Adapter A]

def onStore {α : Type} (attempt : Attempt (Store A) α) : Attempt (Workspace A) α :=
  attempt.onPart store fun space store => { space with store }

def drawing {α : Type} (draw : StateM Supply α) : Attempt (Workspace A) α :=
  fun space =>
    let (value, supply) := draw space.supply
    (.ok value, { space with supply })

/-- Gives the field of a dependent record a value; answers whether the record is
there. -/
def setField (dependent : Dependent) (id value : Json) : Attempt (Workspace A) Bool := do
  let patch : Record := [(dependent.field, value)]
  let changed ← onStore (Store.commit (Collections.update dependent.collection id patch))
  return changed.isSome

/-- A fresh default for a dependent field, `null` where none is declared. -/
def defaultFor (rules : ReferenceRules) (dependent : Dependent) :
    Attempt (Workspace A) Json :=
  match (rules.registry.find? dependent.collection).bind
      fun schema => Fields.get? dependent.field schema.fields with
  | some field => drawing field.defaultOrNull
  | none => return .null

end Workspace

end DocStore
