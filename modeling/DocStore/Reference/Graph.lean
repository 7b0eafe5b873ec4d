import DocStore.Schema.Registry

/-!
# The graph of references

Which fields point at which collections, as the registered schemas declare it, and
which records must follow when a record goes or changes a key.
-/

namespace DocStore

structure Reference where
  collection : String
  field : String
  relation : Relation
  deriving DecidableEq

/-- Records that point at the records of another collection and must follow them:
`field` of the records of `collection` holds the value of the other record's `key`
field. -/
structure Dependent where
  collection : String
  field : String
  key : String
  onDelete : Option ReferenceAction
  onUpdate : Option ReferenceAction
  declaredIn : String
  deriving DecidableEq

namespace Reference

/-- Who depends on which collection by a relation. -/
def dependents (reference : Reference) : List (String × Dependent) :=
  let source := reference.collection
  let relation := reference.relation
  let dependent (collection field key : String) : Dependent :=
    ⟨collection, field, key, relation.onDelete, relation.onUpdate, source⟩
  match relation.kind with
  | .manyToOne | .oneToOne =>
    [(relation.collection, dependent source reference.field relation.field)]
  | .oneToMany => [(source, dependent relation.collection relation.field idField)]
  | .manyToMany =>
    let join := relation.joinCollection source
    (source, dependent join relation.field idField) ::
      match relation.foreignField with
      | some foreignField => [(relation.collection, dependent join foreignField idField)]
      | none => []

end Reference

namespace Schema

def references (schema : Schema) : List Reference :=
  schema.relations.map fun (field, relation) => ⟨schema.name, field, relation⟩

end Schema

/-- All declared relations, in the order of the collections and their fields. -/
structure ReferenceGraph where
  references : List Reference

namespace ReferenceGraph

def ofRegistry (registry : Registry) : ReferenceGraph :=
  ⟨registry.all.flatMap Schema.references⟩

def relationsOf (graph : ReferenceGraph) (collection : String) : List Reference :=
  graph.references.filter (·.collection = collection)

/-- The relations, wherever declared, whose target is a collection. -/
def referencesTo (graph : ReferenceGraph) (collection : String) : List Reference :=
  graph.references.filter (·.relation.collection = collection)

/-- All that must follow when a record of a collection goes or changes a key. -/
def dependentsOf (graph : ReferenceGraph) (collection : String) : List Dependent :=
  (graph.references.flatMap Reference.dependents).filterMap fun (owner, dependent) =>
    if owner = collection then some dependent else none

end ReferenceGraph

end DocStore
