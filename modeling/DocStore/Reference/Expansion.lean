import DocStore.Reference.Graph
import DocStore.Store.Edit

/-!
# Expansion of references

A record shown with the records that its relations lead to in the place of the
values that lead there, to a depth.
-/

namespace DocStore.ReferenceGraph

/-- What a relation of a record leads to: the value of the relation's field in the
expanded record, or nothing where the field stays as it is.  `embed` shows a
related record. -/
def related? (collections : Collections) (record : Record) (reference : Reference)
    (embed : Record → Json) : Option Json :=
  let relation := reference.relation
  let target := relation.collection
  match relation.kind with
  | .oneToOne | .manyToOne => do
    let value ← record.linked? reference.field
    let related ← (collections.holding target relation.field value).head?
    return embed related
  | .oneToMany => do
    let id ← record.id?
    return .array ((collections.holding target relation.field id).map embed)
  | .manyToMany => do
    let id ← record.id?
    let foreignField ← relation.foreignField
    let join := relation.joinCollection reference.collection
    guard (collections.has join)
    let rows := collections.holding join relation.field id
    let related := (rows.filterMap (·.linked? foreignField)).filterMap
      (collections.find? target)
    return .array (related.map embed)

/-- The record with what its relations lead to, and so for the related records as
far as the depth allows. -/
def expand (graph : ReferenceGraph) (collections : Collections) :
    Nat → String → Record → Record
  | 0, _, record => record
  | depth + 1, collection, record =>
    (graph.relationsOf collection).foldl (fun expanded reference =>
      let embed (related : Record) : Json :=
        .object (expand graph collections depth reference.relation.collection related)
      match related? collections record reference embed with
      | some value => Fields.put reference.field value expanded
      | none => expanded) record

end DocStore.ReferenceGraph
