import DocStore.Record

/-!
# Looking up fields

What a field holds after names are put and erased, and that distinct names stay
distinct.
-/

namespace DocStore

namespace Fields

variable {α : Type} {name other : String} {value : α} {fields : Fields α}

theorem mem_of_get? (found : get? name fields = some value) : (name, value) ∈ fields := by
  induction fields with
  | nil => simp [get?] at found
  | cons head rest ih =>
      obtain ⟨first, held⟩ := head
      by_cases same : first = name
      · simp_all [get?]
      · exact List.mem_cons_of_mem _ (ih (by simpa [get?, same] using found))

theorem get?_of_mem (nodup : (fields.map Prod.fst).Nodup) (member : (name, value) ∈ fields) :
    get? name fields = some value := by
  induction fields with
  | nil => simp at member
  | cons head rest ih =>
      obtain ⟨first, held⟩ := head
      obtain ⟨fresh, restNodup⟩ := List.nodup_cons.1 nodup
      rcases List.mem_cons.1 member with atHead | inRest
      · simp_all [get?]
      · have different : first ≠ name := by
          rintro rfl
          exact fresh (List.mem_map.2 ⟨_, inRest, rfl⟩)
        simpa [get?, different] using ih restNodup inRest

@[simp]
theorem get?_put_self (name : String) (value : α) (fields : Fields α) :
    get? name (put name value fields) = some value := by
  induction fields with
  | nil => simp [put, get?]
  | cons head rest ih =>
      by_cases same : head.1 = name <;> simp [put, get?, same, ih]

theorem get?_put_of_ne (different : other ≠ name) (value : α) (fields : Fields α) :
    get? name (put other value fields) = get? name fields := by
  induction fields with
  | nil => simp [put, get?, different]
  | cons head rest ih =>
      by_cases same : head.1 = other
      · simp [put, get?, same, different]
      · simp [put, get?, same, ih]

theorem put_put (name : String) (first second : α) (fields : Fields α) :
    put name second (put name first fields) = put name second fields := by
  induction fields with
  | nil => simp [put]
  | cons head rest ih =>
      by_cases same : head.1 = name
      · simp [put, same]
      · simp [put, same, ih]

theorem put_of_get? (found : get? name fields = some value) : put name value fields = fields := by
  induction fields with
  | nil => simp [get?] at found
  | cons head rest ih =>
      obtain ⟨first, held⟩ := head
      by_cases same : first = name
      · simp_all [get?, put]
      · simpa [put, same] using ih (by simpa [get?, same] using found)

theorem has_iff : has name fields = true ↔ name ∈ names fields := by
  induction fields with
  | nil => simp [has, get?, names]
  | cons head rest ih =>
      by_cases same : head.1 = name
      · simp [has, get?, names, same]
      · simpa [has, get?, names, same, Ne.symm same] using ih

/-- A name that is put stays where it is, or comes last. -/
theorem names_put (name : String) (value : α) (fields : Fields α) :
    names (put name value fields) =
      names fields ++ if has name fields then [] else [name] := by
  induction fields with
  | nil => rfl
  | cons head rest ih =>
      by_cases same : head.1 = name
      · simp [put, names, has, get?, same]
      · have further : has name (head :: rest) = has name rest := by simp [has, get?, same]
        rw [put, if_neg same, further]
        exact congrArg (head.1 :: ·) ih

theorem get?_erase_of_ne (different : other ≠ name) (fields : Fields α) :
    get? name (erase other fields) = get? name fields := by
  induction fields with
  | nil => rfl
  | cons head rest ih =>
      obtain ⟨first, held⟩ := head
      by_cases same : first = other
      · subst same
        simpa [erase, get?, different] using ih
      · by_cases found : first = name
        · subst found
          simp [erase, get?, same]
        · simpa [erase, get?, same, found] using ih

theorem names_put_subset (name : String) (value : α) (fields : Fields α) :
    ∀ field ∈ (put name value fields).map Prod.fst,
      field = name ∨ field ∈ fields.map Prod.fst := by
  induction fields with
  | nil => simp [put]
  | cons head rest ih =>
      intro field member
      by_cases same : head.1 = name
      · simp_all [put]
      · simp only [put, same, if_false, List.map_cons, List.mem_cons] at member ⊢
        rcases member with atHead | inRest
        · exact .inr (.inl atHead)
        · exact (ih field inRest).imp id .inr

theorem nodup_names_put (name : String) (value : α) {fields : Fields α}
    (nodup : (fields.map Prod.fst).Nodup) :
    ((put name value fields).map Prod.fst).Nodup := by
  induction fields with
  | nil => simp [put]
  | cons head rest ih =>
      obtain ⟨fresh, restNodup⟩ := List.nodup_cons.1 nodup
      by_cases same : head.1 = name
      · simp only [put, same, if_true, List.map_cons]
        exact List.nodup_cons.2 ⟨same ▸ fresh, restNodup⟩
      · simp only [put, same, if_false, List.map_cons]
        refine List.nodup_cons.2 ⟨fun member => ?_, ih restNodup⟩
        rcases names_put_subset name value rest head.1 member with found | inRest
        · exact same found
        · exact fresh inRest

end Fields

namespace Json

variable {name : String} {value : Json} {fields : List (String × Json)}

theorem DistinctNames.fields_iff :
    DistinctNames.DistinctNamesFields fields ↔
      ∀ name value, (name, value) ∈ fields → value.DistinctNames := by
  induction fields with
  | nil => simp [DistinctNames.DistinctNamesFields]
  | cons head rest ih =>
      obtain ⟨first, held⟩ := head
      simp only [DistinctNames.DistinctNamesFields, ih, List.mem_cons, Prod.mk.injEq]
      constructor
      · rintro ⟨heldDistinct, restDistinct⟩ name value (⟨-, rfl⟩ | inRest)
        · exact heldDistinct
        · exact restDistinct name value inRest
      · intro distinct
        exact ⟨distinct first held (.inl ⟨rfl, rfl⟩),
          fun name value inRest => distinct name value (.inr inRest)⟩

theorem DistinctNames.items_iff {items : List Json} :
    DistinctNames.DistinctNamesItems items ↔ ∀ item ∈ items, item.DistinctNames := by
  induction items with
  | nil => simp [DistinctNames.DistinctNamesItems]
  | cons item rest ih => simp [DistinctNames.DistinctNamesItems, ih]

theorem distinctNames_array {items : List Json} :
    (Json.array items).DistinctNames ↔ ∀ item ∈ items, item.DistinctNames :=
  DistinctNames.items_iff

theorem distinctNames_object :
    (Json.object fields).DistinctNames ↔ (fields.map Prod.fst).Nodup ∧
      ∀ name value, (name, value) ∈ fields → value.DistinctNames :=
  and_congr_right fun _ => DistinctNames.fields_iff

theorem DistinctNames.get? (distinct : (Json.object fields).DistinctNames)
    (found : Fields.get? name fields = some value) : value.DistinctNames :=
  (distinctNames_object.1 distinct).2 name value (Fields.mem_of_get? found)

theorem DistinctNames.put (distinct : (Json.object fields).DistinctNames)
    (valueDistinct : value.DistinctNames) :
    (Json.object (Fields.put name value fields)).DistinctNames := by
  obtain ⟨nodup, values⟩ := distinctNames_object.1 distinct
  have putNodup := Fields.nodup_names_put name value nodup
  refine distinctNames_object.2 ⟨putNodup, fun field held member => ?_⟩
  have found := Fields.get?_of_mem putNodup member
  by_cases same : name = field
  · subst same
    rw [Fields.get?_put_self, Option.some.injEq] at found
    exact found ▸ valueDistinct
  · rw [Fields.get?_put_of_ne same] at found
    exact values field held (Fields.mem_of_get? found)

theorem DistinctNames.putAll {others : List (String × Json)}
    (distinct : (Json.object fields).DistinctNames)
    (othersDistinct : ∀ name value, (name, value) ∈ others → value.DistinctNames) :
    (Json.object (Fields.putAll fields others)).DistinctNames := by
  induction others generalizing fields with
  | nil => exact distinct
  | cons head rest ih =>
      exact ih (distinct.put (othersDistinct head.1 head.2 (by simp)))
        fun name value member => othersDistinct name value (by simp [member])

theorem DistinctNames.erase (name : String) (distinct : (Json.object fields).DistinctNames) :
    (Json.object (Fields.erase name fields)).DistinctNames := by
  obtain ⟨nodup, values⟩ := distinctNames_object.1 distinct
  refine distinctNames_object.2 ⟨nodup.sublist (List.filter_sublist.map _), ?_⟩
  intro field held member
  exact values field held (List.mem_filter.1 member).1

end Json

namespace Record

variable {record : Record} {id : Json} {field : String} {value : Json}

theorem linked?_eq_some :
    record.linked? field = some value ↔
      Fields.get? field record = some value ∧ value ≠ .null := by
  unfold linked?
  split
  next isNull =>
    refine ⟨fun found => by simp at found, fun ⟨found, notNull⟩ => ?_⟩
    exact absurd (Option.some.inj (found.symm.trans isNull)) notNull
  next notNull =>
    refine ⟨fun found => ⟨found, ?_⟩, And.left⟩
    rintro rfl
    exact notNull found

theorem linked?_congr {other : Record} (same : Fields.get? field record = Fields.get? field other) :
    record.linked? field = other.linked? field := by
  simp only [linked?, same]

theorem id?_ne_null (found : record.id? = some id) : id ≠ .null :=
  (linked?_eq_some.1 found).2

theorem hasId_iff : record.hasId id = true ↔ ∃ own, record.id? = some own ∧ own.same id = true := by
  unfold hasId
  cases record.id? <;> simp

theorem hasId_congr {other : Record} (same : record.id? = other.id?) (id : Json) :
    record.hasId id = other.hasId id := by
  simp only [hasId, same]

theorem holds_iff :
    record.holds field value = true ↔
      ∃ own, Fields.get? field record = some own ∧ own.same value = true := by
  unfold holds
  cases Fields.get? field record <;> simp

theorem id?_withId (notNull : id ≠ .null) : (record.withId id).id? = some id :=
  linked?_eq_some.2 ⟨by simp [withId, Fields.get?], notNull⟩

theorem get?_withId_of_ne (different : idField ≠ field) :
    Fields.get? field (record.withId id) = Fields.get? field record := by
  simp [withId, Fields.get?, different, Fields.get?_erase_of_ne different]

theorem distinctNames_withId (distinct : (Json.object record).DistinctNames)
    (idDistinct : id.DistinctNames) : (Json.object (record.withId id)).DistinctNames := by
  obtain ⟨nodup, values⟩ := Json.distinctNames_object.1 (distinct.erase idField)
  refine Json.distinctNames_object.2 ⟨List.nodup_cons.2 ⟨?_, nodup⟩, ?_⟩
  · simp [Fields.erase]
  · intro name value member
    rcases List.mem_cons.1 member with atHead | inRest
    · obtain ⟨rfl, rfl⟩ := Prod.mk.inj atHead
      exact idDistinct
    · exact values name value inRest

theorem distinctNames_id? (distinct : (Json.object record).DistinctNames)
    (found : record.id? = some id) : id.DistinctNames :=
  distinct.get? (linked?_eq_some.1 found).1

end Record

end DocStore
