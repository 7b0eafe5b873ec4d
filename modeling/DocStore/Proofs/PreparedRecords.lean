import DocStore.Proofs.Conformance
import DocStore.Proofs.CreatedRecords

/-!
# Prepared records

A record is prepared one field after the other, and each field looks only at what the
record holds under its own name.  So the names of a prepared record can be told without
preparing it, fields without transform and parts keep their values, and a record that has
all required fields keeps them, which is why a lenient check of a patched record is as good
as a full one.
-/

namespace DocStore

/-- The fields with a value put under a name, if there is a value. -/
def Fields.putHeld {α : Type} (name : String) (held : Option α) (fields : Fields α) : Fields α :=
  match held with
  | some value => put name value fields
  | none => fields

namespace Fields

variable {α : Type} {name other : String} {held : Option α} {fields : Fields α}

theorem get?_putHeld_of_ne (different : other ≠ name) :
    get? name (putHeld other held fields) = get? name fields := by
  cases held with
  | none => rfl
  | some value => exact get?_put_of_ne different value fields

theorem get?_putHeld_self (older : get? name fields = none ∨ held.isSome = true) :
    get? name (putHeld name held fields) = held := by
  cases held with
  | none => exact older.resolve_right (by simp)
  | some value => exact get?_put_self name value fields

theorem has_put (present : has name fields = true) (other : String) (value : α) :
    has name (put other value fields) = true := by
  rw [has_iff, names_put]
  exact List.mem_append_left _ (has_iff.1 present)

theorem has_putHeld (present : has name fields = true) (other : String) :
    has name (putHeld other held fields) = true := by
  cases held with
  | none => exact present
  | some value => exact has_put present other value

theorem has_putAll (present : has name fields = true) (others : Fields α) :
    has name (putAll fields others) = true := by
  induction others generalizing fields with
  | nil => exact present
  | cons head rest ih => exact ih (has_put present head.1 head.2)

theorem names_foldl_put {names : List String} (nodup : names.Nodup) (value : α)
    (fields : Fields α) :
    Fields.names (names.foldl (fun fields name => put name value fields) fields) =
      Fields.names fields ++ names.filter fun name => !has name fields := by
  induction names generalizing fields with
  | nil => exact (List.append_nil _).symm
  | cons name rest ih =>
      obtain ⟨fresh, restNodup⟩ := List.nodup_cons.1 nodup
      have others : (rest.filter fun other => !has other (put name value fields)) =
          rest.filter fun other => !has other fields := by
        refine List.filter_congr fun other inRest => ?_
        have different : name ≠ other := by
          rintro rfl
          exact fresh inRest
        rw [has, get?_put_of_ne different, has]
      rw [List.foldl_cons, ih restNodup, others, names_put, List.append_assoc, List.filter_cons]
      cases has name fields <;> rfl

theorem get?_foldl_put (names : List String) (value : α) (fields : Fields α) :
    get? name (names.foldl (fun fields name => put name value fields) fields) =
      if name ∈ names then some value else get? name fields := by
  induction names generalizing fields with
  | nil => rfl
  | cons first rest ih =>
      rw [List.foldl_cons, ih]
      by_cases inRest : name ∈ rest
      · simp [inRest]
      · by_cases same : first = name
        · simp [inRest, same]
        · simp [inRest, Ne.symm same, get?_put_of_ne same]

theorem names_putHeld :
    names (putHeld name held fields) =
      names fields ++ if held.isSome && !has name fields then [name] else [] := by
  cases held with
  | none => simp [putHeld]
  | some value =>
      rw [putHeld, names_put]
      cases has name fields <;> simp

end Fields

theorem Drawing.bind_eq {α β : Type} (first : Drawing α) (next : α → Drawing β)
    (supply : Supply) : (first >>= next) supply = next (first supply).1 (first supply).2 :=
  rfl

/-- The value that the preparation of a field starts from: the one held, or the default if
none is held and the record is new. -/
def Rules.entering (rules : Rules) (isNew : Bool) : Option Json → Drawing (Option Json)
  | some value => pure (some value)
  | none =>
    match rules.default with
    | some default => if isNew then some <$> default.resolve else pure none
    | none => pure none

namespace Rules

variable {rules : Rules} {isNew : Bool} {name : String} {record : Record}

theorem entering_isSome (isNew : Bool) (held : Option Json) (supply : Supply) :
    (rules.entering isNew held supply).1.isSome =
      (held.isSome || (isNew && rules.default.isSome)) := by
  cases held with
  | some value => rfl
  | none => cases declared : rules.default <;> cases isNew <;> simp [entering, declared] <;> rfl

/-- A default comes to stand in the record before the field is prepared. -/
theorem fillDefault_eq :
    rules.fillDefault isNew name record = (do
      let held ← rules.entering isNew (Fields.get? name record)
      return Fields.putHeld name held record) := by
  unfold fillDefault
  cases found : Fields.get? name record with
  | some value =>
      have same : Fields.put name value record = record := Fields.put_of_get? found
      cases rules.default <;> simp [entering, Fields.has, found, Fields.putHeld, same]
  | none =>
      cases declared : rules.default <;> cases isNew <;>
        simp [entering, declared, Fields.has, found, Fields.putHeld]

end Rules

namespace Field

variable {isNew : Bool} {field : Field} {name : String} {fields : List (String × Field)}
  {record : Record} {supply : Supply} {held : Option Json}

/-- What stands in a field, prepared. -/
def prepareHeld (isNew : Bool) (field : Field) (held : Option Json) : Drawing (Option Json) := do
  (← field.rules.entering isNew held).mapM (prepare isNew field)

theorem prepareHeld_eq (held : Option Json) :
    prepareHeld isNew field held supply =
      (field.rules.entering isNew held supply).1.mapM (prepare isNew field)
        (field.rules.entering isNew held supply).2 :=
  rfl

/-- The first field prepares what the record holds under its name, and the others go on
from there. -/
theorem prepareFields_cons (isNew : Bool) (name : String) (field : Field)
    (rest : List (String × Field)) (record : Record) (supply : Supply) :
    prepareFields isNew ((name, field) :: rest) record supply =
      prepareFields isNew rest
        (Fields.putHeld name
          (prepareHeld isNew field (Fields.get? name record) supply).1 record)
        (prepareHeld isNew field (Fields.get? name record) supply).2 := by
  have isSome := field.rules.entering_isSome isNew (Fields.get? name record) supply
  rw [prepareFields, Rules.fillDefault_eq, bind_assoc, prepareHeld_eq, Drawing.bind_eq, pure_bind]
  -- a value that enters stands in the record when the field is looked up
  generalize field.rules.entering isNew (Fields.get? name record) supply = entered at isSome ⊢
  obtain ⟨_ | value, middle⟩ := entered
  · have missing : Fields.get? name record = none := by
      cases found : Fields.get? name record with
      | none => rfl
      | some value => simp [found] at isSome
    simp only [Fields.putHeld, missing]
    rfl
  · simp only [Fields.putHeld, Fields.get?_put_self, Fields.put_put]
    rfl

theorem prepareHeld_isSome :
    (prepareHeld isNew field held supply).1.isSome =
      (held.isSome || (isNew && field.rules.default.isSome)) := by
  rw [← field.rules.entering_isSome isNew held supply, prepareHeld_eq]
  cases (field.rules.entering isNew held supply).1 <;> rfl

theorem prepareHeld_some (value : Json) :
    prepareHeld isNew field (some value) = some <$> prepare isNew field value :=
  rfl

theorem prepareHeld_none (notFilled : isNew = false ∨ field.rules.default = none) :
    prepareHeld isNew field none = pure none := by
  rw [prepareHeld, Rules.entering]
  rcases notFilled with rfl | undeclared
  · cases field.rules.default <;> rfl
  · rw [undeclared]
    rfl

/-- A default is prepared as if it had been held. -/
theorem prepareHeld_default {default : Default} (declared : field.rules.default = some default) :
    prepareHeld true field none = (do
      let value ← default.resolve
      prepareHeld true field (some value)) := by
  have opened : field.rules.entering true none = some <$> default.resolve := by
    rw [Rules.entering, declared]
    rfl
  rw [prepareHeld, opened, bind_map_left]
  rfl

/-- What becomes of a transformed value: the properties of an object are prepared, so are
the items of an array, and where no parts are declared nothing more is done. -/
theorem prepare_cases (isNew : Bool) (field : Field) (value : Json) :
    (∃ object fields, field.rules.transformed value = .object object ∧
      field.properties = some fields ∧
      prepare isNew field value = Json.object <$> prepareFields isNew fields object) ∨
    (∃ elements item, field.rules.transformed value = .array elements ∧
      field.items = some item ∧
      prepare isNew field value = Json.array <$> elements.mapM (prepareItem isNew item)) ∨
    ((∀ step part held, ¬ field.StepsTo (field.rules.transformed value) step part held) ∧
      prepare isNew field value = pure (field.rules.transformed value)) := by
  obtain ⟨rules, properties, items⟩ := field
  rw [prepare.eq_def]
  simp only [Field.rules]
  generalize rules.transformed value = result
  rcases result with _ | _ | _ | _ | elements | object
  case array =>
    rcases items with _ | item
    · refine .inr (.inr ⟨?_, rfl⟩)
      rintro _ _ _ (_ | ⟨declared, -⟩)
      cases declared
    · exact .inr (.inl ⟨elements, item, rfl, rfl, rfl⟩)
  case object =>
    rcases properties with _ | fields
    · refine .inr (.inr ⟨?_, rfl⟩)
      rintro _ _ _ (⟨declared, -⟩ | _)
      cases declared
    · exact .inl ⟨object, fields, rfl, rfl, rfl⟩
  all_goals
    refine .inr (.inr ⟨?_, rfl⟩)
    rintro _ _ _ ⟨⟩

theorem prepareItem_cases (isNew : Bool) (item : Field) (value : Json) :
    (∃ object fields, value = .object object ∧ item.properties = some fields ∧
      prepareItem isNew item value = Json.object <$> prepareFields isNew fields object) ∨
    ((∀ name part held, ¬ item.StepsTo value (.property name) part held) ∧
      prepareItem isNew item value = pure (item.rules.transformed value)) := by
  obtain ⟨rules, properties, items⟩ := item
  rcases value with _ | _ | _ | _ | elements | object
  case object =>
    rcases properties with _ | fields
    · refine .inr ⟨?_, rfl⟩
      rintro _ _ _ ⟨declared, -⟩
      cases declared
    · exact .inl ⟨object, fields, rfl, rfl, rfl⟩
  all_goals
    refine .inr ⟨?_, rfl⟩
    rintro _ _ _ ⟨⟩

theorem prepare_of_plain {value : Json} (plain : field.rules.transform = none ∧
    field.properties = none ∧ field.items = none) : prepare isNew field value = pure value := by
  obtain ⟨noTransform, noProperties, noItems⟩ := plain
  have unchanged : field.rules.transformed value = value := by rw [Rules.transformed, noTransform]
  rcases prepare_cases isNew field value with
    ⟨_, fields, -, declared, -⟩ | ⟨_, item, -, declared, -⟩ | ⟨-, prepares⟩
  · simp [noProperties] at declared
  · simp [noItems] at declared
  · rw [prepares, unchanged]

theorem get?_prepareFields_of_not_mem (foreign : name ∉ fields.map Prod.fst) :
    Fields.get? name (prepareFields isNew fields record supply).1 =
      Fields.get? name record := by
  induction fields generalizing record supply with
  | nil => rfl
  | cons entry rest ih =>
      obtain ⟨first, field⟩ := entry
      rw [List.map_cons, List.mem_cons, not_or] at foreign
      rw [prepareFields_cons, ih foreign.2, Fields.get?_putHeld_of_ne (Ne.symm foreign.1)]

theorem has_prepareFields (present : Fields.has name record = true) :
    Fields.has name (prepareFields isNew fields record supply).1 = true := by
  induction fields generalizing record supply with
  | nil => exact present
  | cons entry rest ih =>
      rw [prepareFields_cons]
      exact ih (Fields.has_putHeld present entry.1)

/-- Under the name of a field, a prepared record holds what it held before, prepared. -/
theorem get?_prepareFields (nodup : (fields.map Prod.fst).Nodup)
    (isField : (name, field) ∈ fields) :
    ∃ middle, Fields.get? name (prepareFields isNew fields record supply).1 =
      (prepareHeld isNew field (Fields.get? name record) middle).1 := by
  induction fields generalizing record supply with
  | nil => cases isField
  | cons entry rest ih =>
      obtain ⟨first, firstField⟩ := entry
      obtain ⟨fresh, restNodup⟩ := List.nodup_cons.1 nodup
      rw [prepareFields_cons]
      rcases List.mem_cons.1 isField with atHead | inRest
      · obtain ⟨rfl, rfl⟩ := Prod.mk.inj atHead
        refine ⟨supply, ?_⟩
        rw [get?_prepareFields_of_not_mem fresh, Fields.get?_putHeld_self]
        rw [prepareHeld_isSome]
        cases Fields.get? name record <;> simp
      · have different : first ≠ name := by
          rintro rfl
          exact fresh (List.mem_map.2 ⟨_, inRest, rfl⟩)
        obtain ⟨middle, held⟩ := ih restNodup inRest
        exact ⟨middle, by rw [held, Fields.get?_putHeld_of_ne different]⟩

/-- The fields that a record omits and that have a default, if the record is new. -/
def defaulted (isNew : Bool) (fields : List (String × Field)) (record : Record) : List String :=
  (fields.filter fun entry =>
    isNew && entry.2.rules.default.isSome && !Fields.has entry.1 record).map Prod.fst

/-- A prepared record keeps its names in their order, and those of its defaults follow. -/
theorem names_prepareFields (nodup : (fields.map Prod.fst).Nodup) (record : Record)
    (supply : Supply) :
    Fields.names (prepareFields isNew fields record supply).1 =
      Fields.names record ++ defaulted isNew fields record := by
  induction fields generalizing record supply with
  | nil => exact (List.append_nil _).symm
  | cons entry rest ih =>
      obtain ⟨first, field⟩ := entry
      obtain ⟨fresh, restNodup⟩ := List.nodup_cons.1 nodup
      have others : defaulted isNew rest (Fields.putHeld first
          (prepareHeld isNew field (Fields.get? first record) supply).1 record) =
          defaulted isNew rest record := by
        refine congrArg (List.map Prod.fst) (List.filter_congr fun other inRest => ?_)
        have different : first ≠ other.1 := by
          rintro rfl
          exact fresh (List.mem_map.2 ⟨other, inRest, rfl⟩)
        rw [Fields.has, Fields.get?_putHeld_of_ne different, Fields.has]
      rw [prepareFields_cons, ih restNodup _ _, others, Fields.names_putHeld, prepareHeld_isSome,
        List.append_assoc]
      congr 1
      cases held : Fields.get? first record <;> cases isNew <;>
        cases declared : field.rules.default <;> simp [defaulted, Fields.has, held, declared]

theorem get?_prepareFields_of_plain {value : Json} (found : Fields.get? name record = some value)
    (plain : ∀ field, (name, field) ∈ fields → field.rules.transform = none ∧
      field.properties = none ∧ field.items = none) :
    Fields.get? name (prepareFields isNew fields record supply).1 = some value := by
  induction fields generalizing record supply with
  | nil => exact found
  | cons entry rest ih =>
      obtain ⟨first, field⟩ := entry
      rw [prepareFields_cons]
      refine ih ?_ fun other inRest => plain other (List.mem_cons_of_mem _ inRest)
      by_cases same : first = name
      · subst same
        rw [found, prepareHeld_some, prepare_of_plain (plain field List.mem_cons_self)]
        exact Fields.get?_put_self first value record
      · rw [Fields.get?_putHeld_of_ne same, found]

end Field

namespace Schema

variable {schema : Schema} {isNew : Bool} {instant : Nat} {name : String} {record : Record}
  {supply : Supply}

/-- The names of the instants that a schema keeps. -/
def instantNames (schema : Schema) (isNew : Bool) : List String :=
  if schema.timestamps then
    if isNew then [createdField, updatedField] else [updatedField]
  else []

theorem stamp_eq :
    schema.stamp isNew instant record =
      (schema.instantNames isNew).foldl
        (fun record name => Fields.put name (.string (Calendar.instantText instant)) record)
        record := by
  unfold stamp instantNames
  cases schema.timestamps <;> cases isNew <;> rfl

theorem nodup_instantNames : (schema.instantNames isNew).Nodup := by
  unfold instantNames
  cases schema.timestamps <;> cases isNew <;> decide

theorem names_stamp :
    Fields.names (schema.stamp isNew instant record) =
      Fields.names record ++
        (schema.instantNames isNew).filter fun name => !Fields.has name record := by
  rw [stamp_eq]
  exact Fields.names_foldl_put nodup_instantNames _ record

theorem get?_stamp :
    Fields.get? name (schema.stamp isNew instant record) =
      if name ∈ schema.instantNames isNew then some (.string (Calendar.instantText instant))
      else Fields.get? name record := by
  rw [stamp_eq]
  exact Fields.get?_foldl_put _ _ record

theorem prepare_eq :
    schema.prepare isNew record supply =
      (schema.stamp isNew (Field.prepareFields isNew schema.fields record supply).2.instant
        (Field.prepareFields isNew schema.fields record supply).1,
        (Field.prepareFields isNew schema.fields record supply).2) :=
  rfl

theorem has_prepare (present : Fields.has name record = true) :
    Fields.has name (schema.prepare isNew record supply).1 = true := by
  rw [Fields.has_iff, prepare_eq, names_stamp]
  exact List.mem_append_left _ (Fields.has_iff.1 (Field.has_prepareFields present))

/-- A valid record holds something other than `null` in every required field. -/
theorem exists_of_required {field : Field} (valid : schema.issues record false = [])
    (isField : (name, field) ∈ schema.fields) (required : field.rules.required = true) :
    ∃ value, Fields.get? name record = some value ∧ value ≠ .null := by
  have unbroken (violation : Violation) :
      ¬ field.rules.Breaks Number.units (Fields.get? name record) violation := by
    intro broken
    have named : ⟨⟨name, []⟩, violation⟩ ∈ schema.issues record false :=
      mem_issues_iff.2 ⟨field, _, .step (.property rfl isField) .here, broken⟩
    rw [valid] at named
    cases named
  cases found : Fields.get? name record with
  | none => exact absurd (.absent required) (found ▸ unbroken .required)
  | some value =>
      refine ⟨value, rfl, ?_⟩
      rintro rfl
      exact absurd (.null required) (found ▸ unbroken .required)

theorem required_of_mem_issues (member : ⟨⟨name, []⟩, .required⟩ ∈ schema.issues record false)
    (missing : Fields.has name record = false) :
    ∃ field, (name, field) ∈ schema.fields ∧ field.rules.required = true := by
  obtain ⟨field, found, leads, broken⟩ := mem_issues_iff.1 member
  have absent : Fields.get? name record = none := by simpa [Fields.has] using missing
  cases leads with
  | step leaves rest =>
      cases leaves with
      | property declared isField =>
          rw [absent] at rest
          obtain ⟨-, rfl, rfl⟩ := rest.of_none
          cases broken with
          | absent required => exact ⟨field, Option.some.inj declared ▸ isField, required⟩

/-- If a record has all required fields, then what passes the lenient check after a patch
passes the full check too: no required field is missing in it or `null`. -/
theorem patched_valid {existing patch prepared : Record} {later : Supply}
    (complete : ∀ name field, (name, field) ∈ schema.fields → field.rules.required = true →
      Fields.has name existing = true)
    (answered : (schema.validated false true (existing.putAll patch)).outcome supply =
      (.ok prepared, later)) :
    schema.issues prepared false = [] ∧
      ∀ name field, (name, field) ∈ schema.fields → field.rules.required = true →
        ∃ value, Fields.get? name prepared = some value ∧ value ≠ .null := by
  obtain ⟨prepares, lenient⟩ := validated_ok answered
  have kept {name : String} (present : Fields.has name existing = true) :
      Fields.has name prepared = true := by
    rw [← prepares]
    exact has_prepare (Fields.has_putAll present patch)
  have valid : schema.issues prepared false = [] := by
    rw [issues_lenient, List.filter_eq_nil_iff] at lenient
    refine List.eq_nil_iff_forall_not_mem.2 fun issue member => ?_
    obtain ⟨name, rfl, missing⟩ :=
      Issue.tellsAbsence_iff.1 (by simpa using lenient issue member)
    obtain ⟨field, isField, required⟩ := required_of_mem_issues member missing
    simp [kept (complete name field isField required)] at missing
  exact ⟨valid, fun name field => exists_of_required valid⟩

/-- Books with a title and maybe a shelf, of which the room has to be told. -/
def shelvedSchema : Schema where
  name := "books"
  fields :=
    [("title", .mk { types := [.string], required := true } none none),
      ("shelf", .mk { types := [.object] }
        (some [("room", .mk { types := [.string], required := true } none none)]) none)]
  timestamps := true

theorem shelvedSchema_patched_valid :
    let existing : Record := [("title", .string "Poems")]
    let patch : Record := [("shelf", .object [("room", .string "hall")])]
    ∃ prepared later,
      (shelvedSchema.validated false true (existing.putAll patch)).outcome (.start 0 1) =
        (.ok prepared, later) ∧
      shelvedSchema.issues prepared false = [] := by
  intro existing patch
  have complete : ∀ name field, (name, field) ∈ shelvedSchema.fields →
      field.rules.required = true → Fields.has name existing = true := by
    intro name field isField required
    rcases List.mem_cons.1 isField with atHead | inRest
    · cases atHead
      rfl
    · cases List.mem_singleton.1 inRest
      cases required
  obtain ⟨prepared, later, answered⟩ : ∃ prepared later,
      (shelvedSchema.validated false true (existing.putAll patch)).outcome (.start 0 1) =
        (.ok prepared, later) := ⟨_, _, rfl⟩
  exact ⟨prepared, later, answered, (patched_valid complete answered).1⟩

end Schema

end DocStore
