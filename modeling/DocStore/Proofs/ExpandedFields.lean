import DocStore.Proofs.CollectionLookup
import DocStore.Proofs.CreatedRecords
import DocStore.Reference.Expansion

/-!
# Fields of an expanded record

A relation of an expanded record either leads to a value, which then stands in its field,
or leaves the field as it is.  No other field is touched, at any depth.
-/

namespace DocStore

theorem Schema.mem_relations {schema : Schema} {field : String} {relation : Relation} :
    (field, relation) ∈ schema.relations ↔
      ∃ declared, (field, declared) ∈ schema.fields ∧ declared.rules.relation = some relation := by
  simp [Schema.relations, List.mem_filterMap]

namespace Registry

variable {registry : Registry} {collection field : String} {relation : Relation}

/-- Whether every schema stands under its own name and has distinct names for its fields. -/
structure Orderly (registry : Registry) : Prop where
  keyed : registry.Keyed
  fieldsDistinct : ∀ schema ∈ registry.all, (schema.fields.map Prod.fst).Nodup

theorem orderly_empty : Orderly {} :=
  ⟨keyed_empty, fun _ inForce => nomatch inForce⟩

theorem Orderly.register (orderly : registry.Orderly) {schema : Schema}
    (distinct : (schema.fields.map Prod.fst).Nodup) : (registry.register schema).Orderly := by
  refine ⟨orderly.keyed.register schema, fun other inForce => ?_⟩
  obtain ⟨entry, isEntry, rfl⟩ := List.mem_map.1 inForce
  rcases SortedMap.mem_place isEntry with rfl | older
  · exact distinct
  · exact orderly.fieldsDistinct _ (List.mem_map.2 ⟨entry, older, rfl⟩)

/-- Whether a schema in force declares a relation on a field of a collection. -/
def Declares (registry : Registry) (collection field : String) (relation : Relation) : Prop :=
  ∃ schema ∈ registry.all, schema.name = collection ∧ (field, relation) ∈ schema.relations

theorem mem_relationsOf {reference : Reference} :
    reference ∈ (ReferenceGraph.ofRegistry registry).relationsOf collection ↔
      reference.collection = collection ∧
        registry.Declares collection reference.field reference.relation := by
  obtain ⟨owner, field, relation⟩ := reference
  simp only [ReferenceGraph.relationsOf, ReferenceGraph.ofRegistry, List.mem_filter,
    List.mem_flatMap, Schema.references, List.mem_map, Prod.exists, Reference.mk.injEq,
    decide_eq_true_eq]
  constructor
  · rintro ⟨⟨schema, inForce, declaredField, declared, isDeclared, rfl, rfl, rfl⟩, rfl⟩
    exact ⟨rfl, schema, inForce, rfl, isDeclared⟩
  · rintro ⟨rfl, schema, inForce, rfl, isDeclared⟩
    exact ⟨⟨schema, inForce, _, _, isDeclared, rfl, rfl, rfl⟩, rfl⟩

/-- In an orderly registry a field of a collection has one relation. -/
theorem Declares.unique {other : Relation} (orderly : registry.Orderly)
    (declares : registry.Declares collection field relation)
    (alsoDeclares : registry.Declares collection field other) : relation = other := by
  have found {schema : Schema} (inForce : schema ∈ registry.all) :
      registry.find? schema.name = some schema := by
    obtain ⟨⟨name, _⟩, isEntry, rfl⟩ := List.mem_map.1 inForce
    exact SortedMap.get?_eq_some_iff.2 (orderly.keyed _ isEntry ▸ isEntry)
  obtain ⟨schema, inForce, rfl, isDeclared⟩ := declares
  obtain ⟨otherSchema, otherInForce, sameName, otherDeclared⟩ := alsoDeclares
  have sameSchema : schema = otherSchema := by
    have alsoFound := found otherInForce
    rw [sameName, found inForce] at alsoFound
    exact Option.some.inj alsoFound
  subst sameSchema
  obtain ⟨declared, isField, isRelation⟩ := Schema.mem_relations.1 isDeclared
  obtain ⟨otherField, isOtherField, isOther⟩ := Schema.mem_relations.1 otherDeclared
  have distinct := orderly.fieldsDistinct schema inForce
  have isGot := Fields.get?_of_mem distinct isField
  rw [Fields.get?_of_mem distinct isOtherField] at isGot
  obtain rfl := Option.some.inj isGot
  exact Option.some.inj (isRelation.symm.trans isOther)

end Registry

namespace ReferenceGraph

variable {collections : Collections} {collection field : String} {record : Record}

/-- A record with the values that references lead to in their fields, where they lead to
one. -/
def filled (values : Reference → Option Json) (references : List Reference) (record : Record) :
    Record :=
  references.foldl (fun expanded reference =>
    match values reference with
    | some value => Fields.put reference.field value expanded
    | none => expanded) record

theorem expand_succ (graph : ReferenceGraph) (collections : Collections) (depth : Nat)
    (collection : String) (record : Record) :
    graph.expand collections (depth + 1) collection record =
      filled (fun reference => related? collections record reference fun related =>
          .object (graph.expand collections depth reference.relation.collection related))
        (graph.relationsOf collection) record :=
  rfl

variable {values : Reference → Option Json} {references : List Reference}

theorem get?_filled_of_unrelated
    (unrelated : ∀ reference ∈ references, reference.field ≠ field) (record : Record) :
    Fields.get? field (filled values references record) = Fields.get? field record := by
  induction references generalizing record with
  | nil => rfl
  | cons reference rest ih =>
      have differs : reference.field ≠ field := unrelated reference List.mem_cons_self
      rw [filled, List.foldl_cons, ← filled,
        ih fun other inRest => unrelated other (List.mem_cons_of_mem _ inRest)]
      cases values reference with
      | none => rfl
      | some value => exact Fields.get?_put_of_ne differs value record

/-- The field of a reference holds what the reference leads to, if no other reference has
the same field. -/
theorem get?_filled_of_mem {reference : Reference} (member : reference ∈ references)
    (only : ∀ other ∈ references, other.field = reference.field → other = reference)
    (record : Record) :
    Fields.get? reference.field (filled values references record) =
      (values reference).or (Fields.get? reference.field record) := by
  induction references generalizing record with
  | nil => cases member
  | cons first rest ih =>
      have onlyRest : ∀ other ∈ rest, other.field = reference.field → other = reference :=
        fun other inRest => only other (List.mem_cons_of_mem _ inRest)
      rw [filled, List.foldl_cons, ← filled]
      by_cases inRest : reference ∈ rest
      · rw [ih inRest onlyRest]
        by_cases same : first = reference
        · subst same
          cases values first <;> simp
        · have differs : first.field ≠ reference.field :=
            fun sameField => same (only first List.mem_cons_self sameField)
          cases values first with
          | none => rfl
          | some value => rw [Fields.get?_put_of_ne differs]
      · obtain rfl : reference = first := (List.mem_cons.1 member).resolve_right inRest
        rw [get?_filled_of_unrelated fun other otherInRest sameField =>
          inRest (onlyRest other otherInRest sameField ▸ otherInRest)]
        cases values reference <;> simp

/-- A field with a relation holds what the relation leads to, and stays as it is where it
leads to nothing. -/
theorem get?_expand_of_declares {registry : Registry} {relation : Relation}
    (orderly : registry.Orderly)
    (declares : registry.Declares collection field relation) (depth : Nat) (record : Record) :
    Fields.get? field ((ofRegistry registry).expand collections (depth + 1) collection record) =
      (related? collections record ⟨collection, field, relation⟩ fun related =>
        .object ((ofRegistry registry).expand collections depth relation.collection related)).or
          (Fields.get? field record) := by
  rw [expand_succ]
  have member : ⟨collection, field, relation⟩ ∈ (ofRegistry registry).relationsOf collection :=
    Registry.mem_relationsOf.2 ⟨rfl, declares⟩
  refine get?_filled_of_mem member ?_ record
  rintro ⟨owner, other, otherRelation⟩ isOther sameField
  obtain ⟨rfl, alsoDeclares⟩ := Registry.mem_relationsOf.1 isOther
  obtain rfl : other = field := sameField
  obtain rfl := declares.unique orderly alsoDeclares
  rfl

end ReferenceGraph

end DocStore
