import DocStore.Proofs.CreatedRecords

/-!
# Names in prepared records

The names in every object of a prepared record are distinct, as they are in the record
before, provided that the transforms of its schema make no object that repeats a name.
-/

namespace DocStore

/-- Whether the transforms of a field and of its parts leave names distinct, as every function
does on JSON values that a program holds. -/
inductive Field.TransformsDistinct : Field → Prop where
  | mk {rules : Rules} {properties : Option (List (String × Field))} {items : Option Field}
      (transform : ∀ transform, rules.transform = some transform → ∀ value : Json,
        value.DistinctNames → (transform.apply value).DistinctNames)
      (ofProperties : ∀ fields, properties = some fields → ∀ entry ∈ fields,
        TransformsDistinct entry.2)
      (ofItems : ∀ item, items = some item → TransformsDistinct item) :
      TransformsDistinct (.mk rules properties items)

/-- Whether the transforms of all registered schemas leave names distinct. -/
def Registry.TransformsDistinct (registry : Registry) : Prop :=
  ∀ name schema, registry.find? name = some schema → ∀ entry ∈ schema.fields,
    entry.2.TransformsDistinct

theorem Registry.transformsDistinct_of_none {registry : Registry}
    (plain : ∀ entry ∈ registry.schemas.entries, ∀ field ∈ entry.2.fields,
      field.2.rules.transform.isNone = true ∧ field.2.properties.isNone = true ∧
        field.2.items.isNone = true) : registry.TransformsDistinct := by
  intro name schema known entry member
  obtain ⟨noTransform, noProperties, noItems⟩ :=
    plain _ (SortedMap.get?_eq_some_iff.1 known) entry member
  obtain ⟨fieldName, ⟨rules, properties, items⟩⟩ := entry
  obtain rfl : properties = none := Option.isNone_iff_eq_none.1 noProperties
  obtain rfl : items = none := Option.isNone_iff_eq_none.1 noItems
  have absent : rules.transform = none := Option.isNone_iff_eq_none.1 noTransform
  constructor
  · simp [absent]
  · simp
  · simp

namespace Rules

theorem distinctNames_transformed {rules : Rules} {value : Json}
    (keeps : ∀ transform, rules.transform = some transform → ∀ value : Json,
      value.DistinctNames → (transform.apply value).DistinctNames)
    (distinct : value.DistinctNames) : (rules.transformed value).DistinctNames := by
  unfold transformed
  split
  · rename_i transform isTransform
    exact keeps transform isTransform value distinct
  · exact distinct

/-- Only new records get defaults. -/
theorem fillDefault_old (rules : Rules) (name : String) (record : Record) :
    rules.fillDefault false name record = pure record := by
  unfold fillDefault
  split <;> rfl

end Rules

namespace Field

theorem distinctNames_prepareFields {fields : List (String × Field)}
    (each : ∀ entry ∈ fields, ∀ value supply, value.DistinctNames →
      (prepare false entry.2 value supply).1.DistinctNames)
    {record : Record} (supply : Supply) (distinct : (Json.object record).DistinctNames) :
    (Json.object (prepareFields false fields record supply).1).DistinctNames := by
  induction fields generalizing record supply with
  | nil => exact distinct
  | cons entry rest ih =>
      obtain ⟨name, field⟩ := entry
      have eachRest : ∀ entry ∈ rest, ∀ value supply, value.DistinctNames →
          (prepare false entry.2 value supply).1.DistinctNames :=
        fun entry member => each entry (List.mem_cons_of_mem _ member)
      rw [prepareFields, Rules.fillDefault_old, pure_bind]
      cases found : Fields.get? name record with
      | none => exact ih eachRest supply distinct
      | some value =>
          have prepared := each (name, field) List.mem_cons_self value supply (distinct.get? found)
          exact ih eachRest _ (distinct.put prepared)

theorem forall_mem_mapM {α β : Type} {prepared : β → Prop} {each : α → Drawing β}
    {items : List α} (holds : ∀ item ∈ items, ∀ supply, prepared (each item supply).1)
    (supply : Supply) : ∀ value ∈ (items.mapM each supply).1, prepared value := by
  induction items generalizing supply with
  | nil =>
      intro value member
      change value ∈ [] at member
      cases member
  | cons item items ih =>
      rw [List.mapM_cons]
      intro value member
      rcases List.mem_cons.1 member with rfl | inRest
      · exact holds item List.mem_cons_self supply
      · exact ih (fun other inItems => holds other (List.mem_cons_of_mem _ inItems)) _ value inRest

theorem TransformsDistinct.prepare {field : Field} (keeps : field.TransformsDistinct) :
    ∀ value supply, value.DistinctNames →
      (Field.prepare false field value supply).1.DistinctNames ∧
        (prepareItem false field value supply).1.DistinctNames := by
  induction keeps with
  | @mk rules properties items transform _ _ propertiesKeep itemsKeep =>
      have fieldsDistinct {fields : List (String × Field)} (declared : properties = some fields)
          {object : Record} (supply : Supply) (distinct : (Json.object object).DistinctNames) :=
        distinctNames_prepareFields (fun entry member value supply valueDistinct =>
          (propertiesKeep fields declared entry member value supply valueDistinct).1)
          supply distinct
      intro value supply distinct
      have changed := Rules.distinctNames_transformed transform distinct
      constructor
      · unfold Field.prepare
        generalize rules.transformed value = result at changed ⊢
        cases result with
        | object object =>
            cases properties with
            | none => exact changed
            | some fields => exact fieldsDistinct rfl supply changed
        | array elements =>
            cases items with
            | none => exact changed
            | some item =>
                apply Json.distinctNames_array.2
                apply forall_mem_mapM
                intro element member itemSupply
                have elementDistinct := Json.distinctNames_array.1 changed element member
                exact (itemsKeep item rfl element itemSupply elementDistinct).2
        | _ => exact changed
      · unfold prepareItem
        cases value with
        | object object =>
            cases properties with
            | none => exact changed
            | some fields => exact fieldsDistinct rfl supply distinct
        | _ => exact changed

end Field

theorem Schema.distinctNames_stamp (schema : Schema) (instant : Nat) {record : Record}
    (distinct : (Json.object record).DistinctNames) :
    (Json.object (schema.stamp false instant record)).DistinctNames := by
  have isText : (Json.string (Calendar.instantText instant)).DistinctNames := trivial
  unfold stamp
  by_cases stamped : schema.timestamps = true
  · rw [if_pos stamped]
    exact distinct.put isText
  · rw [if_neg stamped]
    exact distinct

namespace Database

theorem distinctNames_completed (schema : Option Schema) {id : Json} {existing body : Record}
    (idDistinct : id.DistinctNames) (existingDistinct : (Json.object existing).DistinctNames)
    (distinct : (Json.object body).DistinctNames) :
    (Json.object (completed schema id existing body)).DistinctNames := by
  have identified : (Json.object (if body.id?.isNone then
      Fields.put idField id body else body)).DistinctNames := by
    split_ifs
    · exact distinct.put idDistinct
    · exact distinct
  simp only [completed]
  generalize (if body.id?.isNone then Fields.put idField id body else body) = whole
    at identified ⊢
  cases created : Fields.get? createdField existing with
  | none => cases schema <;> exact identified
  | some instant =>
      cases schema with
      | none => exact identified
      | some schema =>
          simp only
          split_ifs
          · exact identified.put (existingDistinct.get? created)
          · exact identified

variable {A : Type} {db after : Database A} {collection : String} {lenient : Bool}
  {record prepared : Record}

theorem distinctNames_prepare (transforms : db.registry.TransformsDistinct)
    (distinct : (Json.object record).DistinctNames)
    (made : (prepare collection false lenient record).outcome db = (.ok prepared, after)) :
    (Json.object prepared).DistinctNames := by
  unfold prepare at made
  rw [Attempt.get_bind_outcome] at made
  split at made
  · obtain rfl : record = prepared := Except.ok.inj (congrArg Prod.fst made)
    exact distinct
  · rename_i schema known
    rw [Attempt.onPart_outcome, Prod.mk.injEq] at made
    obtain ⟨answered, -⟩ := Schema.validated_ok (Prod.ext made.1 rfl)
    have fields := Field.distinctNames_prepareFields (fun entry member value supply distinct =>
      ((transforms collection schema known entry member).prepare value supply distinct).1)
      db.supply distinct
    rw [← answered]
    exact schema.distinctNames_stamp _ fields

end Database

end DocStore
