import DocStore.Proofs.FieldLookup
import DocStore.Schema.Field
import DocStore.Validation.Issue

/-!
# Positions below a field

A step leads from a value that stands in a field to a part of it, and from the field to
the one that is declared for the part.  A position may be empty: an object has one for
each property that is declared for it, also for those that it lacks.  The fields of a
schema are the properties of one field, in which whole records stand.
-/

namespace DocStore

/-- The steps from a record to a place. -/
def Place.path (place : Place) : List Step :=
  .property place.field :: place.steps

/-- The schema as a field in which the records stand as objects. -/
def Schema.whole (schema : Schema) : Field :=
  .mk { types := [.object] } (some schema.fields) none

/-- The part of a value at the end of some steps, if there is one. -/
def Json.at? : List Step → Json → Option Json
  | [], value => some value
  | .property name :: steps, .object fields => (Fields.get? name fields).bind (at? steps)
  | .item index :: steps, .array elements => elements[index]?.bind (at? steps)
  | _ :: _, _ => none

namespace Field

theorem sizeOf_property_lt {field part : Field} {fields : List (String × Field)} {name : String}
    (declared : field.properties = some fields) (isPart : (name, part) ∈ fields) :
    sizeOf part < sizeOf field := by
  obtain ⟨rules, properties, items⟩ := field
  obtain rfl : properties = some fields := declared
  have inside := List.sizeOf_lt_of_mem isPart
  simp only [Prod.mk.sizeOf_spec] at inside
  simp only [mk.sizeOf_spec, Option.some.sizeOf_spec]
  omega

theorem sizeOf_items_lt {field item : Field} (declared : field.items = some item) :
    sizeOf item < sizeOf field := by
  obtain ⟨rules, properties, items⟩ := field
  obtain rfl : items = some item := declared
  simp only [mk.sizeOf_spec, Option.some.sizeOf_spec]
  omega

/-- What holds of a field as soon as it holds of its properties and its items holds of
every field. -/
theorem parts_induction {motive : Field → Prop}
    (step : ∀ field : Field,
      (∀ fields, field.properties = some fields → ∀ name part, (name, part) ∈ fields →
        motive part) →
      (∀ item, field.items = some item → motive item) → motive field)
    (field : Field) : motive field :=
  step field (fun _ _ _ part _ => parts_induction step part)
    fun item _ => parts_induction step item
termination_by sizeOf field
decreasing_by
  · exact sizeOf_property_lt ‹_› ‹_›
  · exact sizeOf_items_lt ‹_›

/-- A property of all fields, from a field down to its innermost parts. -/
inductive Throughout (holds : Field → Prop) : Field → Prop
  | mk {field : Field} (own : holds field)
      (ofProperties : ∀ fields, field.properties = some fields →
        ∀ name part, (name, part) ∈ fields → Throughout holds part)
      (ofItems : ∀ item, field.items = some item → Throughout holds item) :
      Throughout holds field

mutual

/-- Whether a test holds of all fields, from a field down to its innermost parts. -/
def every (test : Field → Bool) : Field → Bool
  | mk rules properties items =>
    test (mk rules properties items) &&
      (match properties with
        | some fields => everyProperty test fields
        | none => true) &&
      match items with
        | some item => every test item
        | none => true
termination_by structural field => field

/-- Whether a test holds of all properties and of what lies below them. -/
def everyProperty (test : Field → Bool) : List (String × Field) → Bool
  | [] => true
  | (_, field) :: rest => every test field && everyProperty test rest
termination_by structural fields => fields

end

theorem everyProperty_iff {test : Field → Bool} {fields : List (String × Field)} :
    everyProperty test fields = true ↔
      ∀ name part, (name, part) ∈ fields → every test part = true := by
  induction fields with
  | nil => simp [everyProperty]
  | cons head rest ih =>
      obtain ⟨first, field⟩ := head
      rw [everyProperty, Bool.and_eq_true, ih]
      constructor
      · rintro ⟨ofFirst, ofRest⟩ name part isPart
        rcases List.mem_cons.1 isPart with atHead | inRest
        · cases atHead
          exact ofFirst
        · exact ofRest name part inRest
      · intro all
        exact ⟨all first field List.mem_cons_self,
          fun name part inRest => all name part (List.mem_cons_of_mem _ inRest)⟩

theorem every_iff {holds : Field → Prop} [DecidablePred holds] {field : Field} :
    every (fun part => decide (holds part)) field = true ↔ field.Throughout holds := by
  induction field using parts_induction with
  | step field ofProperties ofItems =>
      obtain ⟨rules, properties, items⟩ := field
      rw [every.eq_def]
      simp only [Bool.and_eq_true, decide_eq_true_eq]
      constructor
      · rintro ⟨⟨own, everyPart⟩, everyItem⟩
        refine .mk own ?_ ?_
        · rintro fields rfl name part isPart
          exact (ofProperties fields rfl name part isPart).1
            (everyProperty_iff.1 everyPart name part isPart)
        · rintro item rfl
          exact (ofItems item rfl).1 everyItem
      · rintro ⟨own, allParts, allItems⟩
        refine ⟨⟨own, ?_⟩, ?_⟩
        · cases properties with
          | none => rfl
          | some fields =>
              exact everyProperty_iff.2 fun name part isPart =>
                (ofProperties fields rfl name part isPart).2 (allParts fields rfl name part isPart)
        · cases items with
          | none => rfl
          | some item => exact (ofItems item rfl).2 (allItems item rfl)

instance {holds : Field → Prop} [DecidablePred holds] : DecidablePred (Throughout holds) :=
  fun _ => decidable_of_iff _ every_iff

/-- Whether no two properties have the same name, as is so where they are put one by one. -/
def NamesApart (field : Field) : Prop :=
  ∀ fields, field.properties = some fields → (fields.map Prod.fst).Nodup

instance : DecidablePred NamesApart := fun field =>
  inferInstanceAs (Decidable (∀ fields ∈ field.properties, (fields.map Prod.fst).Nodup))

/-- The field that is declared at the end of some steps, if there is one. -/
def at? : List Step → Field → Option Field
  | [], field => some field
  | .property name :: steps, field =>
    (field.properties.bind (Fields.get? name)).bind (at? steps)
  | .item _ :: steps, field => field.items.bind (at? steps)

/-- A step from a value in a field to a part of the value, with the field that is
declared for the part.  A declared property is a step also where the object lacks it. -/
inductive StepsTo (field : Field) : Json → Step → Field → Option Json → Prop
  | property {fields : List (String × Field)} {object : Record} {name : String} {part : Field}
      (declared : field.properties = some fields) (isPart : (name, part) ∈ fields) :
      StepsTo field (.object object) (.property name) part (Fields.get? name object)
  | item {item : Field} {elements : List Json} {index : Nat} {element : Json}
      (declared : field.items = some item) (holds : elements[index]? = some element) :
      StepsTo field (.array elements) (.item index) item (some element)

/-- Steps that lead from what stands in a field to a position, with the field declared
there and what stands there, if anything does. -/
inductive Leads : Field → Option Json → List Step → Field → Option Json → Prop
  | here {field : Field} {held : Option Json} : Leads field held [] field held
  | step {field part target : Field} {value : Json} {first : Step} {held found : Option Json}
      {steps : List Step} (leaves : field.StepsTo value first part held)
      (rest : Leads part held steps target found) :
      Leads field (some value) (first :: steps) target found

theorem steps_induction {motive : Field → Prop}
    (step : ∀ field : Field,
      (∀ value first part held, field.StepsTo value first part held → motive part) →
      motive field) (field : Field) : motive field := by
  induction field using parts_induction with
  | step field ofProperties ofItems =>
      refine step field fun value first part held leaves => ?_
      cases leaves with
      | property declared isPart => exact ofProperties _ declared _ _ isPart
      | item declared holds => exact ofItems _ declared

variable {field part target : Field} {value : Json} {step : Step} {steps : List Step}
  {held found : Option Json}

theorem Throughout.own {holds : Field → Prop} (all : field.Throughout holds) : holds field := by
  obtain ⟨own, -, -⟩ := all
  exact own

theorem StepsTo.throughout {holds : Field → Prop} (leaves : field.StepsTo value step part held)
    (all : field.Throughout holds) : part.Throughout holds := by
  obtain ⟨-, ofProperties, ofItems⟩ := all
  cases leaves with
  | property declared isPart => exact ofProperties _ declared _ _ isPart
  | item declared _ => exact ofItems _ declared

theorem StepsTo.at?_cons (leaves : field.StepsTo value step part held)
    (apart : field.NamesApart) (steps : List Step) :
    field.at? (step :: steps) = part.at? steps := by
  cases leaves with
  | property declared isPart =>
      have named := Fields.get?_of_mem (apart _ declared) isPart
      rw [at?, declared, Option.bind_some, named, Option.bind_some]
  | item declared _ => rw [at?, declared, Option.bind_some]

theorem StepsTo.unique {other : Field} {otherHeld : Option Json} (apart : field.NamesApart)
    (leaves : field.StepsTo value step part held)
    (otherLeaves : field.StepsTo value step other otherHeld) : part = other ∧ held = otherHeld := by
  have declared : field.at? [step] = some part := leaves.at?_cons apart []
  have alsoDeclared : field.at? [step] = some other := otherLeaves.at?_cons apart []
  refine ⟨Option.some.inj (declared.symm.trans alsoDeclared), ?_⟩
  cases leaves with
  | property =>
      cases otherLeaves
      rfl
  | item _ holds =>
      cases otherLeaves with
      | item _ alsoHolds => exact holds.symm.trans alsoHolds

theorem Leads.of_none (leads : field.Leads none steps target found) :
    steps = [] ∧ target = field ∧ found = none := by
  cases leads
  exact ⟨rfl, rfl, rfl⟩

theorem Leads.at?_eq (leads : field.Leads held steps target found)
    (apart : field.Throughout NamesApart) : field.at? steps = some target := by
  induction leads with
  | here => rfl
  | step leaves _ ih => rw [leaves.at?_cons apart.own, ih (leaves.throughout apart)]

end Field

end DocStore
