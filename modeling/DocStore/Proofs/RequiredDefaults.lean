import DocStore.Proofs.PreparedRecords

/-!
# Defaults of required fields

Preparation fills the omitted fields of a new record, and the check then asks for the
required ones.  Both go down the same fields, but preparation takes the items of an array
by their properties alone, so it does not come to the arrays among them, and a default is
put as it is, with whatever `null` it has.  Apart from these two a default meets the
requirement wherever the check asks for it.
-/

namespace DocStore

/-- Whether a default may make a value. -/
def Default.Makes (default : Default) (value : Json) : Prop :=
  ∃ supply, (default.resolve supply).1 = value

/-- Whether steps go through an item of an array to an item of that item. -/
def InInnerArray (steps : List Step) : Prop :=
  ∃ outer first second rest, steps = outer ++ .item first :: .item second :: rest

theorem InInnerArray.cons {steps : List Step} (inner : InInnerArray steps) (step : Step) :
    InInnerArray (step :: steps) := by
  obtain ⟨outer, first, second, rest, rfl⟩ := inner
  exact ⟨step :: outer, first, second, rest, rfl⟩

namespace Field

variable {field part target : Field} {fields : List (String × Field)} {value : Json}
  {held found : Option Json} {steps : List Step} {supply : Supply}

/-- Whether something that encloses the end of the steps is omitted and has a default with
`null` there. -/
def DefaultNulls (field : Field) (held : Option Json) (steps : List Step) : Prop :=
  ∃ outer rest enclosing default made, steps = outer ++ rest ∧ rest ≠ [] ∧
    held.bind (Json.at? outer) = none ∧ field.at? outer = some enclosing ∧
    enclosing.rules.default = some default ∧ default.Makes made ∧
    made.at? rest = some .null

/-- How a position may stay empty although it has a default: it lies in an inner array, or
`null` is held there, or it is in a default that came to stand around it. -/
def StaysNull (field : Field) (held : Option Json) (steps : List Step) : Prop :=
  InInnerArray steps ∨ held.bind (Json.at? steps) = some .null ∨ field.DefaultNulls held steps

theorem StaysNull.of_part {step : Step} (apart : field.NamesApart)
    (leaves : field.StepsTo value step part held) (stays : part.StaysNull held steps) :
    field.StaysNull (some value) (step :: steps) := by
  have below (rest : List Step) : Json.at? (step :: rest) value = held.bind (Json.at? rest) := by
    cases leaves with
    | property => rfl
    | item _ holds => rw [Json.at?, holds]
  rcases stays with inner | null | ⟨outer, rest, enclosing, default, made, rfl, isBelow, omitted,
    declared, hasDefault, makes, null⟩
  · exact .inl (inner.cons step)
  · exact .inr (.inl ((below steps).trans null))
  · exact .inr (.inr ⟨step :: outer, rest, enclosing, default, made, rfl, isBelow,
      (below outer).trans omitted, (leaves.at?_cons apart outer).trans declared, hasDefault,
      makes, null⟩)

theorem StaysNull.of_default {default : Default} (declared : field.rules.default = some default)
    (makes : default.Makes value) (below : value = .null → steps ≠ [])
    (stays : field.StaysNull (some value) steps) : field.StaysNull none steps := by
  rcases stays with inner | null | ⟨outer, rest, enclosing, other, made, isSteps, isBelow, -,
    isEnclosing⟩
  · exact .inl inner
  · refine .inr (.inr ⟨[], steps, field, default, value, rfl, ?_, rfl, rfl, declared, makes, null⟩)
    rintro rfl
    exact below (Option.some.inj null) rfl
  · exact .inr (.inr ⟨outer, rest, enclosing, other, made, isSteps, isBelow, rfl, isEnclosing⟩)

/-- Whether no transform is declared for the values of a field. -/
def Untransformed (field : Field) : Prop :=
  field.rules.transform = none

instance : DecidablePred Untransformed := fun field =>
  decidable_of_iff (field.rules.transform.isNone = true) Option.isNone_iff_eq_none

theorem Untransformed.transformed (plain : field.Untransformed) (value : Json) :
    field.rules.transformed value = value := by
  rw [Rules.transformed, plain]

/-- Whether a position is filled if a literal default other than `null` is declared for it:
after the preparation of what stands in the field, it is empty only for a reason. -/
def Fills (field : Field) : Prop :=
  ∀ held (supply : Supply) steps target found literal,
    field.Leads (prepareHeld true field held supply).1 steps target found →
    target.rules.default = some (.literal literal) → literal ≠ .null → found.getD .null = .null →
    field.StaysNull held steps

/-- Preparation does not make `null` of anything else. -/
theorem prepare_eq_null (plain : field.Untransformed)
    (isNull : (prepare true field value supply).1 = .null) : value = .null := by
  rcases prepare_cases true field value with
    ⟨_, _, -, -, prepares⟩ | ⟨_, _, -, -, prepares⟩ | ⟨-, prepares⟩
  · rw [prepares] at isNull
    cases isNull
  · rw [prepares] at isNull
    cases isNull
  · rw [prepares] at isNull
    exact (plain.transformed value).symm.trans isNull

theorem prepareItem_eq {item : Field} (plain : item.Untransformed)
    (notArray : ∀ elements, value ≠ .array elements) :
    prepareItem true item value = prepare true item value := by
  obtain ⟨rules, properties, items⟩ := item
  rw [prepare.eq_def]
  simp only [show rules.transformed value = value from plain.transformed value]
  cases value with
  | array elements => exact absurd rfl (notArray elements)
  | object object =>
      cases properties with
      | none => exact congrArg pure (plain.transformed _)
      | some fields => rfl
  | _ => exact congrArg pure (plain.transformed _)

theorem prepareItem_array {item : Field} (plain : item.Untransformed) (elements : List Json) :
    prepareItem true item (.array elements) = pure (.array elements) := by
  obtain ⟨rules, properties, items⟩ := item
  exact congrArg pure (plain.transformed _)

theorem getElem?_mapM (each : Json → Drawing Json) (elements : List Json) (index : Nat)
    (supply : Supply) :
    ∃ middle, (elements.mapM each supply).1[index]? =
      elements[index]?.map fun element => (each element middle).1 := by
  induction elements generalizing index supply with
  | nil => exact ⟨supply, rfl⟩
  | cons first rest ih =>
      rw [List.mapM_cons]
      cases index with
      | zero => exact ⟨supply, rfl⟩
      | succ index => exact ih index _

theorem staysNull_of_item {item : Field} {literal : Json} (plain : item.Untransformed)
    (filled : item.Fills)
    (leads : item.Leads (some (prepareItem true item value supply).1) steps target found)
    (declared : target.rules.default = some (.literal literal)) (notNull : literal ≠ .null)
    (empty : found.getD .null = .null) :
    (∃ index rest, steps = .item index :: rest) ∨ item.StaysNull (some value) steps := by
  by_cases isInner : ∃ elements, value = .array elements
  · -- an array among the items is left alone, and steps go on in it by its items
    obtain ⟨elements, rfl⟩ := isInner
    rw [prepareItem_array plain] at leads
    cases leads with
    | here => cases empty
    | step leaves _ =>
        cases leaves
        exact .inl ⟨_, _, rfl⟩
  · rw [prepareItem_eq plain (not_exists.1 isInner)] at leads
    exact .inr (filled _ _ _ _ _ _ leads declared notNull empty)

/-- Nothing below a held value stays `null` without a reason if this is so of its parts. -/
theorem staysNull_of_held (apart : field.NamesApart) (plain : field.Untransformed)
    (ofParts : ∀ value step part held, field.StepsTo value step part held →
      part.Untransformed ∧ part.Fills)
    {literal : Json}
    (leads : field.Leads (prepareHeld true field (some value) supply).1 steps target found)
    (declared : target.rules.default = some (.literal literal)) (notNull : literal ≠ .null)
    (empty : found.getD .null = .null) : field.StaysNull (some value) steps := by
  rw [prepareHeld_some] at leads
  change field.Leads (some (prepare true field value supply).1) steps target found at leads
  cases leads with
  | here => exact .inr (.inl (congrArg some (prepare_eq_null plain empty)))
  | step leaves rest =>
      have unchanged := plain.transformed value
      rcases prepare_cases true field value with
        ⟨object, fields, isObject, hasFields, prepares⟩ |
        ⟨elements, item, isArray, hasItem, prepares⟩ | ⟨noPart, prepares⟩
      · rw [prepares] at leaves
        obtain rfl : value = .object object := unchanged.symm.trans isObject
        cases leaves with
        | property alsoHas isPart =>
            obtain rfl := Option.some.inj (hasFields.symm.trans alsoHas)
            obtain ⟨middle, prepared⟩ := get?_prepareFields (apart _ hasFields) isPart
            rw [prepared] at rest
            have before : field.StepsTo (.object object) _ _ _ := .property hasFields isPart
            exact .of_part apart before
              ((ofParts _ _ _ _ before).2 _ _ _ _ _ _ rest declared notNull empty)
      · rw [prepares] at leaves
        obtain rfl : value = .array elements := unchanged.symm.trans isArray
        cases leaves with
        | @item _ _ index element alsoHas holds =>
            obtain rfl := Option.some.inj (hasItem.symm.trans alsoHas)
            obtain ⟨middle, prepared⟩ := getElem?_mapM (prepareItem true item) elements index supply
            obtain ⟨held, atIndex, rfl⟩ := Option.map_eq_some_iff.1 (prepared.symm.trans holds)
            have before : field.StepsTo (.array elements) (.item index) item (some held) :=
              .item hasItem atIndex
            obtain ⟨plainItem, filled⟩ := ofParts _ _ _ _ before
            rcases staysNull_of_item plainItem filled rest declared notNull empty with
              ⟨second, inside, rfl⟩ | stays
            · exact .inl ⟨[], index, second, inside, rfl⟩
            · exact .of_part apart before stays
      · rw [prepares] at leaves
        exact absurd leaves (noPart _ _ _)

/-- A default fills the position for which it is declared, and what it puts there is
prepared in its turn. -/
theorem fills (apart : field.Throughout NamesApart) (plain : field.Throughout Untransformed) :
    field.Fills := by
  induction field using steps_induction with
  | step field ofParts =>
      have eachPart value step part held (leaves : field.StepsTo value step part held) :
          part.Untransformed ∧ part.Fills :=
        ⟨(leaves.throughout plain).own,
          ofParts _ _ _ _ leaves (leaves.throughout apart) (leaves.throughout plain)⟩
      intro held supply steps target found literal leads declared notNull empty
      cases held with
      | some value =>
          exact staysNull_of_held apart.own plain.own eachPart leads declared notNull empty
      | none =>
          cases hasDefault : field.rules.default with
          | none =>
              rw [prepareHeld_none (.inr hasDefault)] at leads
              obtain ⟨-, rfl, -⟩ := leads.of_none
              rw [hasDefault] at declared
              cases declared
          | some default =>
              rw [prepareHeld_default hasDefault] at leads
              have stays := staysNull_of_held apart.own plain.own eachPart leads declared notNull
                empty
              -- the default is the one that is declared for the position, so it is not `null`
              refine stays.of_default hasDefault ⟨supply, rfl⟩ ?_
              rintro isNull rfl
              cases leads
              rw [hasDefault] at declared
              cases declared
              exact notNull isNull

end Field

namespace Schema

variable {schema : Schema} {record : Record} {supply later : Supply} {target : Field}
  {found : Option Json} {steps : List Step}

theorem validated_error {isNew lenient : Bool} {failure : Failure}
    (answered : (schema.validated isNew lenient record).outcome supply =
      (.error failure, later)) :
    failure = .invalid (schema.issues (schema.prepare isNew record supply).1 lenient) := by
  rcases Attempt.bind_error_iff.1 answered with ran | ⟨prepared, middle, ran, checked⟩
  · cases congrArg Prod.fst ran
  · have prepares : (schema.prepare isNew record supply).1 = prepared :=
      Except.ok.inj (congrArg Prod.fst ran)
    rw [prepares]
    split at checked
    · cases congrArg Prod.fst checked
    · exact (Except.error.inj (congrArg Prod.fst checked)).symm

theorem leads_of_prepare
    (leads : schema.whole.Leads (some (.object (schema.prepare true record supply).1)) steps
      target found) (empty : found.getD .null = .null) :
    schema.whole.Leads (Field.prepareHeld true schema.whole (some (.object record)) supply).1
      steps target found := by
  cases leads with
  | here => cases empty
  | step leaves rest =>
      cases leaves with
      | @property _ _ name _ hasFields isPart =>
          rw [prepare_eq, get?_stamp] at rest
          -- an instant is a text: it is not empty, and no steps lead further
          split_ifs at rest
          · cases rest with
            | here => cases empty
            | step leaves _ => cases leaves
          · exact .step (.property hasFields isPart) rest

/-- Where a new record is refused, no required field is missing that the record omits and
for which there is a literal default other than `null`, save in an inner array or where the
default of something omitted around it has `null`. -/
theorem defaults_meet_required {failure : Failure}
    (apart : schema.whole.Throughout Field.NamesApart)
    (plain : schema.whole.Throughout Field.Untransformed)
    (refused : (schema.validated true false record).outcome supply = (.error failure, later)) :
    ∃ issues, failure = .invalid issues ∧ ∀ place field literal,
      schema.whole.at? place.path = some field →
      field.rules.default = some (.literal literal) → literal ≠ .null →
      Json.at? place.path (.object record) = none →
      ¬ InInnerArray place.path →
      ¬ schema.whole.DefaultNulls (some (.object record)) place.path →
      ⟨place, .required⟩ ∉ issues := by
  refine ⟨_, validated_error refused, ?_⟩
  intro place field literal declared hasDefault notNull omitted outside unnulled member
  obtain ⟨target, found, leads, broken⟩ := mem_issues_iff.1 member
  obtain rfl : target = field := Option.some.inj ((leads.at?_eq apart).symm.trans declared)
  have empty : found.getD .null = .null := by
    cases broken <;> rfl
  rcases Field.fills apart plain _ _ _ _ _ _ (leads_of_prepare leads empty) hasDefault notNull
    empty with inner | null | nulled
  · exact outside inner
  · cases omitted.symm.trans null
  · exact unnulled nulled

/-- A field for texts that is required and has a default. -/
def textOr (text : String) : Field :=
  .mk { types := [.string], required := true, default := some (.literal (.string text)) } none none

/-- Orders with a customer, and with lines of which each has a code. -/
def codedSchema : Schema where
  name := "orders"
  fields :=
    [("customer", .mk { types := [.string], required := true } none none),
      ("lines", .mk { types := [.array] } none
        (some (.mk { types := [.object] } (some [("code", textOr "none")]) none)))]

/-- An order without a customer is refused, but not because its line has no code. -/
theorem codedSchema_defaults_meet_required :
    let record : Record := [("lines", .array [.object []])]
    ∃ issues later,
      (codedSchema.validated true false record).outcome (.start 0 1) =
        (.error (.invalid issues), later) ∧
      ⟨⟨"lines", [.item 0, .property "code"]⟩, .required⟩ ∉ issues := by
  intro record
  obtain ⟨failure, later, refused⟩ : ∃ failure later,
      (codedSchema.validated true false record).outcome (.start 0 1) = (.error failure, later) :=
    ⟨_, _, rfl⟩
  obtain ⟨issues, rfl, met⟩ := defaults_meet_required (by decide) (by decide) refused
  refine ⟨issues, later, refused, met _ _ _ rfl rfl nofun rfl ?_ ?_⟩
  · rintro ⟨outer, first, second, rest, path⟩
    rcases outer with _ | ⟨_, _ | ⟨_, _ | ⟨_, outer⟩⟩⟩ <;> simp [Place.path] at path
  · rintro ⟨outer, rest, _, _, _, path, isBelow, omitted, -⟩
    -- every proper part of the steps leads to something that the order has
    rcases outer with _ | ⟨first, _ | ⟨second, _ | ⟨third, outer⟩⟩⟩
    · cases omitted
    · cases path
      cases omitted
    · cases path
      cases omitted
    · have isEnd : rest = [] := by simp_all [Place.path]
      exact isBelow isEnd

/-- Whether a new record is refused because of a position that it omits, although there is a
literal default other than `null` for it. -/
def LeavesDefaultUnmet (schema : Schema) (record : Record) : Prop :=
  ∃ supply later issues place field literal,
    (schema.validated true false record).outcome supply = (.error (.invalid issues), later) ∧
    schema.whole.at? place.path = some field ∧
    field.rules.default = some (.literal literal) ∧ literal ≠ .null ∧
    Json.at? place.path (.object record) = none ∧ ⟨place, .required⟩ ∈ issues

/-- Boards of rows of tiles. -/
def boardSchema : Schema where
  name := "boards"
  fields :=
    [("rows", .mk { types := [.array] } none
      (some (.mk { types := [.array] } none
        (some (.mk { types := [.object] } (some [("tile", textOr "empty")]) none)))))]

/-- Books with a shelf, which without further notice is one in no room. -/
def roomlessSchema : Schema where
  name := "books"
  fields :=
    [("shelf", .mk
      { types := [.object], default := some (.literal (.object [("room", .null)])) }
      (some [("room", textOr "hall")]) none)]

/-- In an inner array, and in a default with `null`, a default is not enough. -/
theorem defaults_unmet :
    (boardSchema.whole.Throughout Field.NamesApart ∧
      boardSchema.whole.Throughout Field.Untransformed ∧
      boardSchema.LeavesDefaultUnmet [("rows", .array [.array [.object []]])]) ∧
    (roomlessSchema.whole.Throughout Field.NamesApart ∧
      roomlessSchema.whole.Throughout Field.Untransformed ∧
      roomlessSchema.LeavesDefaultUnmet []) := by
  refine ⟨⟨by decide, by decide, ?_⟩, by decide, by decide, ?_⟩
  · exact ⟨.start 0 1, _, _, ⟨"rows", [.item 0, .item 0, .property "tile"]⟩, _, _, rfl, rfl, rfl,
      nofun, rfl, List.mem_singleton.2 rfl⟩
  · exact ⟨.start 0 1, _, _, ⟨"shelf", [.property "room"]⟩, _, _, rfl, rfl, rfl, nofun, rfl,
      List.mem_singleton.2 rfl⟩

end Schema

end DocStore
