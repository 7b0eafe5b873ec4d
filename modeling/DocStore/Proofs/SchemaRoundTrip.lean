import DocStore.Schema.Codec
import DocStore.Proofs.NodeReading

/-!
# Schemas are read back

A written field is read as the field that it was written from, with its patterns,
generators and transforms found again by what they are written as.  Only a default that
is `null` is lost: it is written, but where a default is read, `null` stands for none.
-/

namespace DocStore

theorem TypeTag.ofName?_name (tag : TypeTag) : ofName? tag.name = some tag := by
  cases tag <;> rfl

theorem TextFormat.ofName?_name (format : TextFormat) : ofName? format.name = some format := by
  cases format <;> rfl

theorem RelationKind.ofName?_name (kind : RelationKind) : ofName? kind.name = some kind := by
  cases kind <;> rfl

theorem ReferenceAction.ofName?_name (action : ReferenceAction) :
    ofName? action.name = some action := by
  cases action <;> rfl

theorem StandardGenerator.ofName?_name (generator : StandardGenerator) :
    ofName? generator.name = some generator := by
  cases generator <;> rfl

theorem Pattern.source_of_read {source : String} {pattern : Pattern}
    (isRead : read source = .ok pattern) : pattern.source = source := by
  unfold read at isRead
  split at isRead
  · cases isRead
  · split_ifs at isRead
    cases isRead
    rfl

theorem Transform.name_of_ofName? {name : String} {transform : Transform}
    (found : ofName? name = some transform) : transform.name = name := by
  unfold ofName? at found
  split_ifs at found
  · cases found
    rfl
  · cases found
    rfl
  · cases found
    rfl
  · split at found
    · cases found
      rfl
    · cases found

/-! ### Relations -/

theorem Relation.ofNode_toJson (relation : Relation) :
    ofNode (.ofJson relation.toJson) = .ok relation := by
  have action (action : ReferenceAction) : Json.string action.name ≠ .null ∧
      (Node.ofJson (.string action.name)).oneOf ReferenceAction.ofName? = .ok action :=
    ⟨by simp, Node.oneOf_ofJson action.ofName?_name⟩
  rw [ofNode, toJson]
  refine (Node.readParts_bind
    ⟨some relation.kind, some relation.collection, some relation.field,
      relation.foreignField.map some, relation.through.map some, relation.onDelete.map some,
      relation.onUpdate.map some⟩ ?_ _).trans ?_
  · exact ((((Node.Fills.cons (.part Draft.kind (fun draft kind => { draft with kind })
          (Node.oneOf RelationKind.ofName?) (fun _ _ => rfl) rfl
          (Node.oneOf_ofJson relation.kind.ofName?_name))
        (.cons (.part Draft.collection (fun draft collection => { draft with collection })
            Node.text (fun _ _ => rfl) rfl (Node.text_ofJson _))
          (.part Draft.field (fun draft field => { draft with field })
            Node.text (fun _ _ => rfl) rfl (Node.text_ofJson _)))).append
      (.option Draft.foreignField (fun draft foreignField => { draft with foreignField })
        Node.text (fun _ _ => rfl) rfl rfl fun text _ => ⟨by simp, Node.text_ofJson text⟩)).append
      (.option Draft.through (fun draft through => { draft with through })
        Node.text (fun _ _ => rfl) rfl rfl fun text _ => ⟨by simp, Node.text_ofJson text⟩)).append
      (.option Draft.onDelete (fun draft onDelete => { draft with onDelete })
        (Node.oneOf ReferenceAction.ofName?) (fun _ _ => rfl) rfl rfl
        fun chosen _ => action chosen)).append
      (.option Draft.onUpdate (fun draft onUpdate => { draft with onUpdate })
        (Node.oneOf ReferenceAction.ofName?) (fun _ _ => rfl) rfl rfl
        fun chosen _ => action chosen)
  · simp only [Node.getD_map_some]
    rfl

/-! ### Rules -/

namespace Rules

/-- Rules that can be built without hooks from outside: what they name can be found by
its name, and what they hold can be written. -/
structure Buildable (rules : Rules) : Prop where
  types : rules.types ≠ []
  literal : ∀ value, rules.default = some (.literal value) → value.DistinctNames
  generated : ∀ generator, rules.default = some (.generated generator) →
    ∃ standard, generator = .standard standard
  min : ∀ bound, rules.min = some bound → ∃ x, bound = .finite x
  max : ∀ bound, rules.max = some bound → ∃ x, bound = .finite x
  pattern : ∀ pattern, rules.pattern = some pattern →
    ∃ source, Pattern.read source = .ok pattern
  allowed : ∀ values, rules.allowed = some values → ∀ value ∈ values, value.DistinctNames
  validator : rules.validator = none
  transform : ∀ transform, rules.transform = some transform →
    ∃ name, Transform.ofName? name = some transform

/-- The rules without a default if it is `null`. -/
def withoutNullDefault (rules : Rules) : Rules :=
  match rules.default with
  | some (.literal .null) => { rules with default := none }
  | _ => rules

theorem withoutNullDefault_eq_self {rules : Rules} :
    rules.withoutNullDefault = rules ↔ rules.default ≠ some (.literal .null) := by
  unfold withoutNullDefault
  split
  · rename_i isNull
    refine ⟨fun same => ?_, fun notNull => absurd isNull notNull⟩
    have noDefault : none = rules.default := congrArg Rules.default same
    exact absurd (noDefault.trans isNull) (by simp)
  · rename_i notNull
    exact iff_of_true rfl notNull

end Rules

namespace Field

/-! ### Fields -/

/-- Reads one part of a field, with the fields among its parts. -/
def readNamed (draft : Draft) (name : String) (part : Node) : Reading Draft :=
  readPart draft name part (fun _ => ofNode part) (fun _ => mapOfNode part)

theorem readEntries_ofFields (fields : List (String × Json)) (draft : Draft) :
    readEntries (Node.ofFields fields) draft =
      fields.foldlM (fun draft field => readNamed draft field.1 (.ofJson field.2)) draft := by
  induction fields generalizing draft with
  | nil => rfl
  | cons field rest ih =>
      rw [Node.ofFields, readEntries, List.foldlM_cons]
      exact congrArg (readNamed draft field.1 (.ofJson field.2) >>= ·) (funext ih)

theorem ofNode_object {fields : List (String × Json)} {draft : Draft}
    (fills : Node.Fills readNamed {} fields draft) :
    ofNode (.ofJson (.object fields)) = ofDraft draft := by
  rw [Node.ofJson, ofNode, readEntries_ofFields, fills]
  rfl

theorem readTag_name (tag : TypeTag) : readTag (.string tag.name) = .ok tag := by
  rw [readTag, tag.ofName?_name]
  rfl

theorem readTypes_typesJson (types : List TypeTag) :
    readTypes (.ofJson (Rules.typesJson types)) = .ok types := by
  have several (tags : List TypeTag) :
      readTypes (.ofJson (.strings (tags.map TypeTag.name))) = .ok tags := by
    have strings : (Node.ofJson (.strings (tags.map TypeTag.name))).json =
        .ok (.array (tags.map fun tag => .string tag.name)) := by
      rw [Json.strings, List.map_map]
      exact Node.json_ofJson (Json.distinctNames_array.2 fun item isItem => by
        obtain ⟨tag, -, rfl⟩ := List.mem_map.1 isItem
        trivial)
    rw [readTypes, strings]
    exact Node.mapM_ok fun tag _ => readTag_name tag
  match types with
  | [] => exact several []
  | [tag] =>
      change (do return [← readTag (.string tag.name)] : Reading (List TypeTag)) = .ok [tag]
      rw [readTag_name]
      rfl
  | first :: second :: rest => exact several (first :: second :: rest)

/-- What is found under the name of literal defaults. -/
def literalFound : Option Default → Option (Option Json)
  | some (.literal .null) => some none
  | some (.literal value) => some (some value)
  | _ => none

/-- What is found under the name of generators. -/
def generatorFound : Option Default → Option (Option String)
  | some (.generated generator) => some (some generator.name)
  | _ => none

theorem fills_default {default : Option Default}
    (literal : ∀ value, default = some (.literal value) → value.DistinctNames)
    (types : Option (List TypeTag)) (required : Option Bool) :
    Node.Fills readNamed { types, required } (Rules.defaultFields default)
      { types, required, default := literalFound default,
        generate := generatorFound default } := by
  match default with
  | none => rfl
  | some (.literal value) =>
      have isRead : Node.optional Node.json (.ofJson value) =
          .ok (if value.isNull then none else some value) := by
        cases value with
        | null => rfl
        | bool | number | string | array | object =>
            rw [Node.optional, Node.isAbsent_ofJson (by simp), Node.json_ofJson (literal _ rfl)]
            rfl
      have found : literalFound (some (.literal value)) =
          some (if value.isNull then none else some value) := by
        cases value <;> rfl
      rw [found]
      exact .part Draft.default (fun draft default => { draft with default })
        (Node.optional Node.json) (fun _ _ => rfl) rfl isRead
  | some (.generated generator) =>
      exact .part Draft.generate (fun draft generate => { draft with generate })
        (Node.optional Node.text) (fun _ _ => rfl) rfl rfl

theorem readDefault_found {rules : Rules} (buildable : rules.Buildable) :
    readDefault ((literalFound rules.default).getD none)
        ((generatorFound rules.default).getD none) = .ok rules.withoutNullDefault.default := by
  unfold Rules.withoutNullDefault
  split
  · rename_i isNull
    rw [isNull]
    rfl
  · rename_i notNull
    match found : rules.default with
    | none => rfl
    | some (.literal value) =>
        rw [found] at notNull
        cases value with
        | null => exact absurd rfl notNull
        | bool | number | string | array | object => rfl
    | some (.generated generator) =>
        obtain ⟨standard, rfl⟩ := buildable.generated generator found
        have named : readGenerator standard.name = .ok (.standard standard) := by
          rw [readGenerator, standard.ofName?_name]
        change (readGenerator standard.name).map (fun g => some (Default.generated g)) = _
        rw [named]
        rfl

/-- Fields that can be built without hooks from outside, down to their innermost parts. -/
inductive Buildable : Field → Prop
  | mk {rules : Rules} {properties : Option (List (String × Field))} {items : Option Field}
      (ofRules : rules.Buildable)
      (nodup : ∀ fields, properties = some fields → (fields.map Prod.fst).Nodup)
      (ofProperties : ∀ fields, properties = some fields →
        ∀ name field, (name, field) ∈ fields → Buildable field)
      (ofItems : ∀ field, items = some field → Buildable field) :
      Buildable (.mk rules properties items)

mutual

/-- The field without the defaults that are `null`, its own and those of its parts. -/
def withoutNullDefaults : Field → Field
  | mk rules properties items =>
    mk rules.withoutNullDefault (propertiesWithout properties) (itemsWithout items)
termination_by structural field => field

/-- The same of properties. -/
def propertiesWithout : Option (List (String × Field)) → Option (List (String × Field))
  | some fields => some (eachWithout fields)
  | none => none
termination_by structural properties => properties

/-- The same of items. -/
def itemsWithout : Option Field → Option Field
  | some field => some (withoutNullDefaults field)
  | none => none
termination_by structural items => items

/-- The same of named fields. -/
def eachWithout : List (String × Field) → List (String × Field)
  | [] => []
  | (name, field) :: rest => (name, withoutNullDefaults field) :: eachWithout rest
termination_by structural fields => fields

end

theorem eachWithout_eq (fields : List (String × Field)) :
    eachWithout fields = fields.map fun field => (field.1, field.2.withoutNullDefaults) := by
  induction fields with
  | nil => rfl
  | cons field rest ih => rw [eachWithout, ih, List.map_cons]

theorem propertiesWithout_eq (properties : Option (List (String × Field))) :
    propertiesWithout properties = properties.map eachWithout := by
  cases properties <;> rfl

theorem itemsWithout_eq (items : Option Field) :
    itemsWithout items = items.map withoutNullDefaults := by
  cases items <;> rfl

theorem propertiesJson_eq (properties : Option (List (String × Field))) :
    propertiesJson properties = properties.map fun fields => .object (toJsonEach fields) := by
  cases properties <;> rfl

theorem itemsJson_eq (items : Option Field) : itemsJson items = items.map toJson := by
  cases items <;> rfl

theorem toJson_ne_null (field : Field) : field.toJson ≠ .null := by
  cases field
  simp [toJson]

/-- Named fields are read back when each of them is. -/
theorem mapOfNode_toJsonEach {fields : List (String × Field)}
    (nodup : (fields.map Prod.fst).Nodup)
    (each : ∀ name field, (name, field) ∈ fields →
      ofNode (.ofJson field.toJson) = .ok field.withoutNullDefaults) :
    mapOfNode (.ofJson (.object (toJsonEach fields))) = .ok (eachWithout fields) := by
  have isRead : readFields (Node.ofFields (toJsonEach fields)) = .ok (eachWithout fields) := by
    clear nodup
    induction fields with
    | nil => rfl
    | cons head rest ih =>
        have ofHead := each head.1 head.2 List.mem_cons_self
        have ofRest := ih fun name field member =>
          each name field (List.mem_cons_of_mem _ member)
        rw [toJsonEach, Node.ofFields, readFields, ofHead, ofRest]
        rfl
  have names : (eachWithout fields).map Prod.fst = fields.map Prod.fst := by
    rw [eachWithout_eq, List.map_map]
    rfl
  rw [Node.ofJson, mapOfNode, isRead]
  change Except.ok (Fields.ofList (eachWithout fields)) = .ok (eachWithout fields)
  rw [Fields.ofList_eq_self (names ▸ nodup)]

/-- The draft that the fields of a written field fill. -/
def draftOf (rules : Rules) (properties : Option (List (String × Field)))
    (items : Option Field) : Draft where
  types := some rules.types
  required := if rules.required then some true else none
  default := literalFound rules.default
  generate := generatorFound rules.default
  min := rules.min.map some
  max := rules.max.map some
  minLength := rules.minLength.map some
  maxLength := rules.maxLength.map some
  pattern := rules.pattern.map fun pattern => some pattern.source
  allowed := rules.allowed.map some
  format := rules.format.map some
  transform := rules.transform.map fun transform => some transform.name
  properties := properties.map fun fields => some (eachWithout fields)
  items := items.map fun field => some field.withoutNullDefaults
  relation := rules.relation.map some

theorem fills_required (types : Option (List TypeTag)) (required : Bool) :
    Node.Fills readNamed { types } (flagField "required" required)
      { types, required := if required then some true else none } := by
  cases required with
  | false => rfl
  | true =>
      exact .part Draft.required (fun draft required => { draft with required }) Node.flag
        (fun _ _ => rfl) rfl rfl

theorem boundJson_back {bound : Binary64} (finite : ∃ x, bound = .finite x) :
    boundJson bound ≠ .null ∧ (Node.ofJson (boundJson bound)).double = .ok bound := by
  obtain ⟨x, rfl⟩ := finite
  exact ⟨by simp [boundJson], rfl⟩

theorem lengthJson_back (n : UInt64) :
    lengthJson n ≠ .null ∧ (Node.ofJson (lengthJson n)).word = .ok n :=
  ⟨by simp [lengthJson], Node.word_ofJson n⟩

theorem fills_toJson {rules : Rules} (buildable : rules.Buildable)
    {properties : Option (List (String × Field))} {items : Option Field}
    (ofProperties : ∀ fields, properties = some fields →
      mapOfNode (.ofJson (.object (toJsonEach fields))) = .ok (eachWithout fields))
    (ofItems : ∀ field, items = some field →
      ofNode (.ofJson field.toJson) = .ok field.withoutNullDefaults) :
    Node.Fills readNamed {} (rules.toFields ++
      optionalField "properties" (propertiesJson properties) ++
      optionalField "items" (itemsJson items) ++
      optionalField "relation" (rules.relation.map Relation.toJson))
      (draftOf rules properties items) := by
  rw [propertiesJson_eq, itemsJson_eq]
  have ofTypes : Node.Fills readNamed {} [("type", Rules.typesJson rules.types)]
      { types := some rules.types } :=
    .part Draft.types (fun draft types => { draft with types }) readTypes
      (fun _ _ => rfl) rfl (readTypes_typesJson rules.types)
  have upToDefault := (ofTypes.append (fills_required _ rules.required)).append
    (fills_default buildable.literal _ _)
  exact (((((((((((upToDefault.append
    (.option Draft.min (fun draft min => { draft with min }) Node.double (fun _ _ => rfl) rfl rfl
      fun bound found => boundJson_back (buildable.min bound found))).append
    (.option Draft.max (fun draft max => { draft with max }) Node.double (fun _ _ => rfl) rfl rfl
      fun bound found => boundJson_back (buildable.max bound found))).append
    (.option Draft.minLength (fun draft minLength => { draft with minLength }) Node.word
      (fun _ _ => rfl) rfl rfl fun n _ => lengthJson_back n)).append
    (.option Draft.maxLength (fun draft maxLength => { draft with maxLength }) Node.word
      (fun _ _ => rfl) rfl rfl fun n _ => lengthJson_back n)).append
    (.optionAs Draft.pattern (fun draft pattern => { draft with pattern }) Node.text
      (fun _ _ => rfl) rfl rfl Pattern.source fun _ _ => ⟨by simp, Node.text_ofJson _⟩)).append
    (.option Draft.allowed (fun draft allowed => { draft with allowed }) (Node.listOf Node.json)
      (fun _ _ => rfl) rfl rfl fun values found => ⟨by simp, Node.listOf_json
        (buildable.allowed values found)⟩)).append
    (.option Draft.format (fun draft format => { draft with format })
      (Node.oneOf TextFormat.ofName?) (fun _ _ => rfl) rfl rfl
      fun format _ => ⟨by simp, Node.oneOf_ofJson format.ofName?_name⟩)).append
    (.optionAs Draft.transform (fun draft transform => { draft with transform }) Node.text
      (fun _ _ => rfl) rfl rfl Transform.name fun _ _ => ⟨by simp, Node.text_ofJson _⟩)).append
    (.optionAs Draft.properties (fun draft properties => { draft with properties }) mapOfNode
      (fun _ _ => rfl) rfl rfl eachWithout fun fields found =>
        ⟨by simp, ofProperties fields found⟩)).append
    (.optionAs Draft.items (fun draft items => { draft with items }) ofNode (fun _ _ => rfl)
      rfl rfl withoutNullDefaults fun field found =>
        ⟨field.toJson_ne_null, ofItems field found⟩)).append
    (.option Draft.relation (fun draft relation => { draft with relation }) Relation.ofNode
      (fun _ _ => rfl) rfl rfl fun relation _ =>
        ⟨by simp [Relation.toJson], relation.ofNode_toJson⟩))

theorem ofDraft_draftOf {rules : Rules} (buildable : rules.Buildable)
    (properties : Option (List (String × Field))) (items : Option Field) :
    ofDraft (draftOf rules properties items) =
      .ok (mk rules.withoutNullDefault (propertiesWithout properties) (itemsWithout items)) := by
  have patternBack : (rules.pattern.map Pattern.source).mapM readPattern =
      .ok rules.pattern := by
    cases found : rules.pattern with
    | none => rfl
    | some pattern =>
        obtain ⟨source, isRead⟩ := buildable.pattern pattern found
        obtain rfl := Pattern.source_of_read isRead
        change some <$> readPattern pattern.source = _
        rw [readPattern, isRead]
        rfl
  have transformBack : (rules.transform.map Transform.name).mapM readTransform =
      .ok rules.transform := by
    cases found : rules.transform with
    | none => rfl
    | some transform =>
        obtain ⟨name, isNamed⟩ := buildable.transform transform found
        obtain rfl := Transform.name_of_ofName? isNamed
        change some <$> readTransform transform.name = _
        rw [readTransform, isNamed]
        rfl
  have flag : (if rules.required then some true else none).getD false = rules.required := by
    cases rules.required <;> rfl
  have notEmpty : rules.types.isEmpty = false := by
    simpa [List.isEmpty_eq_false_iff] using buildable.types
  have others : ({ rules with default := rules.withoutNullDefault.default } : Rules) =
      rules.withoutNullDefault := by
    unfold Rules.withoutNullDefault
    split <;> rfl
  rw [propertiesWithout_eq, itemsWithout_eq, ← others]
  simp only [ofDraft, draftOf, Node.getD_map_some, Node.getD_map_some_made,
    readDefault_found buildable, patternBack, transformBack, flag]
  change (if rules.types.isEmpty = true then _ else _) = _
  rw [notEmpty, buildable.validator]
  rfl

/-- A written field is read as it was, but for defaults that are `null`. -/
theorem ofNode_toJson {field : Field} (buildable : field.Buildable) :
    ofNode (.ofJson field.toJson) = .ok field.withoutNullDefaults := by
  induction buildable with
  | @mk rules properties items ofRules nodup _ _ ihProperties ihItems =>
      rw [toJson, withoutNullDefaults, ofNode_object (fills_toJson ofRules (fun fields found =>
        mapOfNode_toJsonEach (nodup fields found) (ihProperties fields found)) ihItems)]
      exact ofDraft_draftOf ofRules properties items

/-- Some default is `null`, the field's own or that of one of its parts. -/
inductive HasNullDefault : Field → Prop
  | own {rules : Rules} {properties : Option (List (String × Field))} {items : Option Field}
      (isNull : rules.default = some (.literal .null)) :
      HasNullDefault (.mk rules properties items)
  | property {rules : Rules} {fields : List (String × Field)} {items : Option Field}
      {name : String} {field : Field} (isPart : (name, field) ∈ fields)
      (ofPart : HasNullDefault field) : HasNullDefault (.mk rules (some fields) items)
  | items {rules : Rules} {properties : Option (List (String × Field))} {field : Field}
      (ofPart : HasNullDefault field) : HasNullDefault (.mk rules properties (some field))

theorem eachWithout_eq_self {fields : List (String × Field)} :
    eachWithout fields = fields ↔
      ∀ name field, (name, field) ∈ fields → field.withoutNullDefaults = field := by
  induction fields with
  | nil => simp [eachWithout]
  | cons head rest ih =>
      obtain ⟨first, held⟩ := head
      simp only [eachWithout, List.cons.injEq, Prod.mk.injEq, true_and, ih, List.mem_cons]
      constructor
      · rintro ⟨ofHead, ofRest⟩ name field (⟨-, rfl⟩ | inRest)
        · exact ofHead
        · exact ofRest name field inRest
      · intro all
        exact ⟨all first held (.inl ⟨rfl, rfl⟩), fun name field inRest =>
          all name field (.inr inRest)⟩

theorem withoutNullDefaults_eq_self {field : Field} (buildable : field.Buildable) :
    field.withoutNullDefaults = field ↔ ¬ field.HasNullDefault := by
  constructor
  · intro same hasNull
    clear buildable
    induction hasNull with
    | own isNull =>
        rw [withoutNullDefaults, mk.injEq] at same
        exact Rules.withoutNullDefault_eq_self.1 same.1 isNull
    | @property _ fields _ name field isPart _ ih =>
        rw [withoutNullDefaults, mk.injEq, propertiesWithout, Option.some.injEq] at same
        exact ih (eachWithout_eq_self.1 same.2.1 name field isPart)
    | items _ ih =>
        rw [withoutNullDefaults, mk.injEq, itemsWithout, Option.some.injEq] at same
        exact ih same.2.2
  · intro noNull
    induction buildable with
    | @mk rules properties items _ _ _ _ ihProperties ihItems =>
        have ofRules : rules.withoutNullDefault = rules :=
          Rules.withoutNullDefault_eq_self.2 fun isNull => noNull (.own isNull)
        have ofProperties : propertiesWithout properties = properties := by
          cases properties with
          | none => rfl
          | some fields =>
              rw [propertiesWithout, eachWithout_eq_self.2 fun name field isPart =>
                ihProperties fields rfl name field isPart fun ofPart =>
                  noNull (.property isPart ofPart)]
        have ofItems : itemsWithout items = items := by
          cases items with
          | none => rfl
          | some field => rw [itemsWithout, ihItems field rfl fun ofPart => noNull (.items ofPart)]
        rw [withoutNullDefaults, ofRules, ofProperties, ofItems]

end Field

namespace Schema

/-! ### Schemas -/

/-- Schemas whose fields have distinct names and can be built without hooks from
outside. -/
structure Buildable (schema : Schema) : Prop where
  nodup : (schema.fields.map Prod.fst).Nodup
  fields : ∀ name field, (name, field) ∈ schema.fields → field.Buildable

/-- The schema without the defaults that are `null`, in all its fields and their parts. -/
def withoutNullDefaults (schema : Schema) : Schema :=
  { schema with fields := Field.eachWithout schema.fields }

theorem ofJson_toJson {schema : Schema} (buildable : schema.Buildable) :
    ofJson schema.toJson = .ok schema.withoutNullDefaults := by
  have fieldsBack := Field.mapOfNode_toJsonEach buildable.nodup fun name field isField =>
    Field.ofNode_toJson (buildable.fields name field isField)
  have flag : (if schema.timestamps then some true else none).getD false =
      schema.timestamps := by
    cases schema.timestamps <;> rfl
  have timestamps (name : Option String) (fields : Option (Fields Field)) (kept : Bool) :
      Node.Fills readPart { name, fields } (flagField "timestamps" kept)
        { name, fields, timestamps := if kept then some true else none } := by
    cases kept with
    | false => rfl
    | true =>
        exact .part Draft.timestamps (fun draft timestamps => { draft with timestamps })
          Node.flag (fun _ _ => rfl) rfl rfl
  rw [ofJson, ofNode, toJson]
  refine (Node.readParts_bind
    ⟨some schema.name, some (Field.eachWithout schema.fields),
      if schema.timestamps then some true else none⟩ ?_ _).trans ?_
  · exact (Node.Fills.cons (.part Draft.name (fun draft name => { draft with name }) Node.text
        (fun _ _ => rfl) rfl (Node.text_ofJson _))
      (.part Draft.fields (fun draft fields => { draft with fields }) Field.mapOfNode
        (fun _ _ => rfl) rfl fieldsBack)).append (timestamps _ _ schema.timestamps)
  · simp only [flag]
    rfl

theorem withoutNullDefaults_eq_self {schema : Schema} (buildable : schema.Buildable) :
    schema.withoutNullDefaults = schema ↔
      ∀ name field, (name, field) ∈ schema.fields → ¬ field.HasNullDefault := by
  obtain ⟨_, fields, _⟩ := schema
  simp only [withoutNullDefaults, mk.injEq, true_and, and_true, Field.eachWithout_eq_self]
  exact forall₃_congr fun name field isField =>
    Field.withoutNullDefaults_eq_self (buildable.fields name field isField)

/-- Fields and schemas that can be built without hooks from outside are read back from
their JSON, each as it was but for defaults that are `null`: one without such a default,
of its own or of a part of it, comes back equal, and no other one does.  Of the text of
the JSON this is said with two limits more: its numbers are integers, and it nests no deeper
than the 127 levels that the reader of texts goes down. -/
theorem read_back_but_null_defaults (field : Field) (schema : Schema) :
    (field.Buildable →
      Field.ofNode (.ofJson field.toJson) = .ok field.withoutNullDefaults ∧
        (Field.ofNode (.ofJson field.toJson) = .ok field ↔ ¬ field.HasNullDefault)) ∧
    (schema.Buildable →
      ofJson schema.toJson = .ok schema.withoutNullDefaults ∧
        (ofJson schema.toJson = .ok schema ↔
          ∀ name field, (name, field) ∈ schema.fields → ¬ field.HasNullDefault)) ∧
    ∀ json ∈ [field.toJson, schema.toJson], json.NumbersIn Number.IsInteger →
      json.nesting ≤ Json.maxNesting → Json.readTree? json.compact = some json := by
  refine ⟨fun buildable => ?_, fun buildable => ?_, fun json _ integers shallow => ?_⟩
  · refine ⟨Field.ofNode_toJson buildable, ?_⟩
    rw [Field.ofNode_toJson buildable, Except.ok.injEq,
      Field.withoutNullDefaults_eq_self buildable]
  · refine ⟨ofJson_toJson buildable, ?_⟩
    rw [ofJson_toJson buildable, Except.ok.injEq, withoutNullDefaults_eq_self buildable]
  · exact Json.readTree?_compact integers shallow

/-- A title, with the parts a text can have. -/
def titleField : Field :=
  .mk {
    types := [.string], required := true, default := some (.generated (.standard .uuid))
    minLength := some 0, maxLength := some 18446744073709551615
    pattern := (Pattern.read "^[A-Z]").toOption, format := some .email
    transform := Transform.ofName? "trim" } none none

/-- An amount of one currency or another, the name of one of them empty. -/
def priceField : Field :=
  .mk {
    types := [.any, .any], min := some (.finite (.zero true)), max := some (.finite (.zero false)) }
    (some [("", .ofTypes [.number])]) none

/-- A list of prices, with parts that are there and empty. -/
def pricesField : Field :=
  .mk {
    types := [.array, .null], default := some (.literal (.array [.null])), allowed := some []
    relation := some ⟨.manyToMany, "tags", "book", some "", none, some .setNull, none⟩ }
    (some []) (some priceField)

/-- A schema that has every part of a field somewhere. -/
def catalogSchema : Schema where
  name := "books"
  fields := [("title", titleField), ("prices", pricesField)]
  timestamps := true

theorem buildable_titleField : titleField.Buildable := by
  refine .mk ⟨by simp, by simp, by simp, by simp, by simp, ?_, by simp, rfl, ?_⟩
    (by simp) (by simp) (by simp)
  · intro pattern found
    cases isRead : Pattern.read "^[A-Z]" with
    | error problem => simp [isRead, Except.toOption] at found
    | ok read =>
        obtain rfl : read = pattern := by simpa [isRead, Except.toOption] using found
        exact ⟨_, isRead⟩
  · intro transform found
    exact ⟨"trim", found⟩

theorem buildable_pricesField : pricesField.Buildable := by
  have number : (Field.ofTypes [.number]).Buildable :=
    .mk ⟨by simp, by simp, by simp, by simp, by simp, by simp, by simp, rfl, by simp⟩
      (by simp) (by simp) (by simp)
  have price : priceField.Buildable :=
    .mk ⟨by simp, by simp, by simp, by simp, by simp, by simp, by simp, rfl, by simp⟩
      (by simp) (by simpa using number) (by simp)
  have literal : (Json.array [.null]).DistinctNames :=
    Json.distinctNames_array.2 (by simp [Json.DistinctNames])
  exact .mk ⟨by simp, by simpa using literal, by simp, by simp, by simp, by simp, by simp, rfl,
    by simp⟩ (by simp) (by simp) (by simpa using price)

theorem read_catalogSchema :
    catalogSchema.Buildable ∧ ofJson catalogSchema.toJson = .ok catalogSchema := by
  have buildable : catalogSchema.Buildable := by
    refine ⟨by decide, fun name field isField => ?_⟩
    simp only [catalogSchema, List.mem_cons, List.not_mem_nil, or_false, Prod.mk.injEq] at isField
    obtain ⟨-, rfl⟩ | ⟨-, rfl⟩ := isField
    · exact buildable_titleField
    · exact buildable_pricesField
  have noNull := (withoutNullDefaults_eq_self buildable).1 rfl
  obtain ⟨-, ofSchema, -⟩ := read_back_but_null_defaults titleField catalogSchema
  exact ⟨buildable, (ofSchema buildable).2.2 noNull⟩

/-- A field whose default is `null` comes back as a field that has none. -/
theorem null_default_lost :
    (Field.mk { types := [.number], default := some (.literal .null) } none none).Buildable ∧
      Field.ofNode (.ofJson
        (Field.mk { types := [.number], default := some (.literal .null) } none none).toJson) =
          .ok (Field.mk { types := [.number] } none none) ∧
      Field.mk { types := [.number] } none none ≠
        Field.mk { types := [.number], default := some (.literal .null) } none none := by
  refine ⟨.mk ⟨by simp, ?_, by simp, by simp, by simp, by simp, by simp, rfl, by simp⟩
    (by simp) (by simp) (by simp), rfl, by simp⟩
  rintro value found
  obtain rfl : Json.null = value := by simpa using found
  trivial

end Schema

end DocStore
