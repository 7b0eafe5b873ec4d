import DocStore.Record

/-!
# Relations between collections

A field can declare a link to the records of another collection.  The linking value
stands in the field itself, or in a field of the other collection, or in the rows of
a third collection that joins the two.
-/

namespace DocStore

/-- How many records stand at the two ends of a link. -/
inductive RelationKind where
  | oneToOne | oneToMany | manyToOne | manyToMany
  deriving DecidableEq

/-- What happens to the records that hold a value when the record it points at
goes, or changes its key. -/
inductive ReferenceAction where
  | cascade | restrict | setNull | setDefault
  deriving DecidableEq

/-- A link that a field declares.  `field` is the name, in the other collection, of
the field with the linking value: the key that stored values point at, or the
reference back, or in a joining collection the reference to this one. -/
structure Relation where
  kind : RelationKind
  collection : String
  field : String
  /-- In a joining collection, the reference to the other collection. -/
  foreignField : Option String := none
  /-- The joining collection, where it does not go by its usual name. -/
  through : Option String := none
  onDelete : Option ReferenceAction := none
  onUpdate : Option ReferenceAction := none
  deriving DecidableEq

namespace Relation

/-- Many records here point at the id of one record there. -/
def manyToOne (collection : String) : Relation :=
  ⟨.manyToOne, collection, idField, none, none, none, none⟩

/-- One record here points at the id of one record there. -/
def oneToOne (collection : String) : Relation :=
  ⟨.oneToOne, collection, idField, none, none, none, none⟩

/-- Many records there point back with `field`. -/
def oneToMany (collection field : String) : Relation :=
  ⟨.oneToMany, collection, field, none, none, none, none⟩

/-- Rows of a joining collection point at both sides. -/
def manyToMany (collection field foreignField : String) : Relation :=
  ⟨.manyToMany, collection, field, some foreignField, none, none, none⟩

def joinCollection (relation : Relation) (source : String) : String :=
  relation.through.getD (source ++ "_" ++ relation.collection)

end Relation

end DocStore
