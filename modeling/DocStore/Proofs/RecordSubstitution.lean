import DocStore.Proofs.UniqueIds
import Mathlib.Data.Finset.Insert

/-!
# Substitutions in all records

In lawful collections, to give a field of the record with an id a value is to change all
records at once by one function.  Such changes come together: fields given a new value
one after the other, each in the records that held an old one at the start, make one
simultaneous substitution.
-/

namespace DocStore

theorem SortedMap.eq_of_get? {α : Type} {first second : SortedMap α}
    (same : ∀ name, first.get? name = second.get? name) : first = second := by
  have entries : first.entries = second.entries := by
    apply eq_of_increasing first.increasing second.increasing
    intro entry
    rw [← get?_eq_some_iff, same, get?_eq_some_iff]
  cases first
  cases second
  congr

namespace Fields

variable {α : Type} {name : String} {fields : Fields α}

theorem get?_map (change : String → α → α) (name : String) (fields : Fields α) :
    get? name (fields.map fun (field, value) => (field, change field value)) =
      (get? name fields).map (change name) := by
  induction fields with
  | nil => rfl
  | cons head rest ih =>
      obtain ⟨first, held⟩ := head
      by_cases same : first = name
      · simp [get?, same]
      · simpa [get?, same] using ih

/-- A value put into a field that is there is a change of that field. -/
theorem put_eq_map (nodup : (fields.map Prod.fst).Nodup) (present : name ∈ fields.map Prod.fst)
    (value : α) :
    put name value fields =
      fields.map fun (field, held) => (field, if field = name then value else held) := by
  induction fields with
  | nil => simp at present
  | cons head rest ih =>
      obtain ⟨first, held⟩ := head
      obtain ⟨fresh, restNodup⟩ := List.nodup_cons.1 nodup
      by_cases same : first = name
      · subst same
        have others : rest.map (fun (field, held) =>
            (field, if field = first then value else held)) = rest.map id := by
          apply List.map_congr_left
          intro entry member
          have different : entry.1 ≠ first := fun equal =>
            fresh (List.mem_map.2 ⟨entry, member, equal⟩)
          simp [different]
        simpa [put] using others.symm
      · have inRest : name ∈ rest.map Prod.fst := by
          simpa [Ne.symm same] using present
        simp [put, same, ih restNodup inRest]

end Fields

namespace Record

variable {record : Record} {field : String} {id old new value : Json}

theorem id?_put_of_ne (notId : field ≠ idField) (value : Json) (record : Record) :
    id? (Fields.put field value record) = record.id? :=
  linked?_congr (Fields.get?_put_of_ne notId value record)

/-- The record of a collection with a new value in the fields of some places that hold an
old one, all at once.  A record without an id is left alone. -/
def substituted (places : Finset (String × String)) (old new : Json) (collection : String)
    (record : Record) : Record :=
  if record.id?.isSome then
    record.map fun (field, value) =>
      (field, if (collection, field) ∈ places ∧ value.same old = true then new else value)
  else record

variable {places : Finset (String × String)} {collection : String}

theorem substituted_of_id? (isId : record.id? = some id) :
    record.substituted places old new collection = record.map fun (field, value) =>
      (field, if (collection, field) ∈ places ∧ value.same old = true then new else value) := by
  rw [substituted, isId, Option.isSome_some, if_pos rfl]

theorem substituted_of_no_id (noId : record.id? = none) :
    record.substituted places old new collection = record := by
  rw [substituted, noId]
  rfl

theorem id?_substituted (notId : ∀ place ∈ places, place.2 ≠ idField) :
    id? (record.substituted places old new collection) = record.id? := by
  cases own : record.id? with
  | none => rw [substituted_of_no_id own, own]
  | some id =>
      rw [substituted_of_id? own, ← own]
      apply linked?_congr
      rw [Fields.get?_map fun field value =>
        if (collection, field) ∈ places ∧ value.same old = true then new else value]
      have outside : (collection, idField) ∉ places := fun member => notId _ member rfl
      simp [outside]

theorem distinctNames_substituted (distinct : (Json.object record).DistinctNames)
    (newDistinct : new.DistinctNames) :
    (Json.object (record.substituted places old new collection)).DistinctNames := by
  cases own : record.id? with
  | none => rwa [substituted_of_no_id own]
  | some id =>
      obtain ⟨nodup, values⟩ := Json.distinctNames_object.1 distinct
      rw [substituted_of_id? own]
      refine Json.distinctNames_object.2 ⟨by simpa [Function.comp_def] using nodup, ?_⟩
      intro field value member
      obtain ⟨⟨name, held⟩, isHeld, given⟩ := List.mem_map.1 member
      obtain ⟨rfl, rfl⟩ := Prod.mk.inj given
      split_ifs
      · exact newDistinct
      · exact values name held isHeld

theorem substituted_empty : record.substituted ∅ old new collection = record := by
  simp [substituted]

theorem substituted_insert_of_ne {name : String} (different : collection ≠ name) :
    record.substituted (insert (name, field) places) old new collection =
      record.substituted places old new collection := by
  simp [substituted, different]

/-- One more place gives the new value to its field of the records that held the old one. -/
theorem substituted_insert (nodup : (record.map Prod.fst).Nodup) :
    record.substituted (insert (collection, field) places) old new collection =
      if record.id?.isSome ∧ record.holds field old = true then
        Fields.put field new (record.substituted places old new collection)
      else record.substituted places old new collection := by
  cases own : record.id? with
  | none => simp [substituted_of_no_id own]
  | some id =>
      rw [substituted_of_id? own, substituted_of_id? own]
      by_cases held : record.holds field old = true
      · obtain ⟨value, found, same⟩ := holds_iff.1 held
        have present : field ∈ record.map Prod.fst :=
          List.mem_map.2 ⟨_, Fields.mem_of_get? found, rfl⟩
        rw [if_pos ⟨rfl, held⟩, Fields.put_eq_map (by simpa [Function.comp_def] using nodup)
          (by simpa [Function.comp_def] using present), List.map_map]
        apply List.map_congr_left
        rintro ⟨other, otherValue⟩ member
        by_cases isField : other = field
        · subst isField
          obtain rfl : value = otherValue :=
            Option.some.inj (found.symm.trans (Fields.get?_of_mem nodup member))
          simp [same]
        · simp [isField]
      · rw [if_neg (by simp [held])]
        apply List.map_congr_left
        rintro ⟨other, otherValue⟩ member
        by_cases isField : other = field
        · subst isField
          have differs : otherValue.same old = false := Bool.eq_false_iff.2 fun same =>
            held (holds_iff.2 ⟨otherValue, Fields.get?_of_mem nodup member, same⟩)
          simp [differs]
        · simp [isField]

end Record

namespace Collections

variable {collections origin : Collections} {name field : String} {id old new value : Json}

/-- Every record changed at once, as its collection tells. -/
def mapRecords (collections : Collections) (change : String → Record → Record) :
    Collections where
  entries := collections.entries.map fun (name, records) => (name, records.map (change name))
  increasing := List.pairwise_map.2 collections.increasing

@[simp]
theorem get?_mapRecords (collections : Collections) (change : String → Record → Record)
    (name : String) :
    (collections.mapRecords change).get? name =
      (collections.get? name).map (·.map (change name)) := by
  unfold mapRecords SortedMap.get?
  simp only
  induction collections.entries with
  | nil => rfl
  | cons head rest ih =>
      by_cases same : head.1 = name
      · subst same
        simp [SortedMap.find?]
      · simpa [SortedMap.find?, same] using ih

@[simp]
theorem records_mapRecords (collections : Collections) (change : String → Record → Record)
    (name : String) :
    (collections.mapRecords change).records name =
      (collections.records name).map (change name) := by
  rw [records, records, get?_mapRecords]
  cases collections.get? name <;> rfl

theorem mapRecords_congr {change other : String → Record → Record}
    (same : ∀ name, ∀ record ∈ collections.records name,
      change name record = other name record) :
    collections.mapRecords change = collections.mapRecords other := by
  apply SortedMap.eq_of_get?
  intro name
  rw [get?_mapRecords, get?_mapRecords]
  cases found : collections.get? name with
  | none => rfl
  | some records =>
      have isRecords : collections.records name = records := by
        rw [Collections.records, found, Option.getD_some]
      rw [Option.map_some, Option.map_some,
        List.map_congr_left fun record member => same name record (isRecords ▸ member)]

theorem mapRecords_eq_self {change : String → Record → Record}
    (same : ∀ name, ∀ record ∈ collections.records name, change name record = record) :
    collections.mapRecords change = collections := by
  have isIdentity : collections.mapRecords (fun _ record => record) = collections := by
    apply SortedMap.eq_of_get?
    intro name
    simp
  exact (mapRecords_congr same).trans isIdentity

theorem mapRecords_mapRecords (first second : String → Record → Record) :
    (collections.mapRecords first).mapRecords second =
      collections.mapRecords fun name record => second name (first name record) := by
  apply SortedMap.eq_of_get?
  intro name
  simp [Function.comp_def]

theorem insert_map_records (known : collections.records name ≠ []) (change : Record → Record) :
    collections.insert name ((collections.records name).map change) =
      collections.mapRecords fun other record =>
        if other = name then change record else record := by
  apply SortedMap.eq_of_get?
  intro other
  rw [SortedMap.get?_insert, get?_mapRecords]
  by_cases same : other = name
  · subst same
    cases found : collections.get? other with
    | none => simp [Collections.records, found] at known
    | some records => simp [Collections.records, found]
  · simp [same, Ne.symm same]

theorem exists_hasId_mapRecords {change : String → Record → Record}
    (keepsId : ∀ record, (change name record).id? = record.id?)
    (known : ∃ record ∈ collections.records name, record.hasId id = true) :
    ∃ record ∈ (collections.mapRecords change).records name, record.hasId id = true := by
  obtain ⟨record, member, holds⟩ := known
  refine ⟨change name record, ?_, by rwa [Record.hasId_congr (keepsId record)]⟩
  rw [records_mapRecords]
  exact List.mem_map_of_mem member

/-- Changes of all records that keep their ids leave lawful collections lawful. -/
theorem Lawful.mapRecords {change : String → Record → Record} (lawful : collections.Lawful)
    (keepsId : ∀ name record, (change name record).id? = record.id?)
    (keepsNames : ∀ name record, (Json.object record).DistinctNames →
      (Json.object (change name record)).DistinctNames) :
    (collections.mapRecords change).Lawful := by
  constructor
  · intro name
    rw [records_mapRecords, List.pairwise_map]
    apply (lawful.idsUnique name).imp
    rintro record other ⟨apart, otherApart⟩
    constructor
    · intro id isId
      rw [Record.hasId_congr (keepsId name record)]
      exact apart id ((keepsId name other).symm.trans isId)
    · intro id isId
      rw [Record.hasId_congr (keepsId name other)]
      exact otherApart id ((keepsId name record).symm.trans isId)
  · intro name record member
    rw [records_mapRecords] at member
    obtain ⟨earlier, isEarlier, rfl⟩ := List.mem_map.1 member
    exact keepsNames name earlier (lawful.distinctNames name earlier isEarlier)

/-- A value given to a field of the records of a collection with some ids. -/
def giving (name field : String) (value : Json) (ids : List Json) (other : String)
    (record : Record) : Record :=
  if other = name ∧ ids.any record.hasId = true then Fields.put field value record else record

theorem id?_giving (notId : field ≠ idField) (ids : List Json) (other : String)
    (record : Record) : (giving name field value ids other record).id? = record.id? := by
  unfold giving
  split_ifs
  · exact Record.id?_put_of_ne notId value record
  · rfl

theorem Lawful.mapRecords_giving (lawful : collections.Lawful) (notId : field ≠ idField)
    (distinct : value.DistinctNames) (ids : List Json) :
    (collections.mapRecords (giving name field value ids)).Lawful := by
  apply lawful.mapRecords (id?_giving notId ids)
  intro other record recordDistinct
  unfold giving
  split_ifs
  · exact recordDistinct.put distinct
  · exact recordDistinct

/-- To give a value to one record after the other is to give it to all at once. -/
theorem giving_giving (notId : field ≠ idField) (id : Json) (ids : List Json) (other : String)
    (record : Record) :
    giving name field value ids other (giving name field value [id] other record) =
      giving name field value (id :: ids) other record := by
  have sameIds : ∀ id, Record.hasId (giving name field value [id] other record) =
      record.hasId := fun id => funext (Record.hasId_congr (id?_giving notId [id] other record))
  rw [giving, sameIds]
  unfold giving
  by_cases first : record.hasId id = true <;> by_cases rest : ids.any record.hasId = true <;>
    by_cases inCollection : other = name <;>
      simp [first, rest, inCollection, Fields.put_put]

theorem map_of_split {before after : List Record} {record : Record}
    (split : collections.records name = before ++ record :: after)
    (first : ∀ other ∈ before, other.hasId id = false) (found : record.hasId id = true)
    (last : ∀ other ∈ after, other.hasId id = false) (change : Record → Record) :
    ((collections.records name).map fun other =>
      if other.hasId id = true then change other else other) =
        before ++ change record :: after := by
  have untouched (others : List Record) (none : ∀ other ∈ others, other.hasId id = false) :
      (others.map fun other => if other.hasId id = true then change other else other) =
        others := by
    conv_rhs => rw [← List.map_id others]
    apply List.map_congr_left
    intro other member
    simp [none other member]
  rw [split, List.map_append, List.map_cons, if_pos found, untouched before first,
    untouched after last]

/-- An update of a field other than the id gives the value to the record that the id finds,
in its place. -/
theorem update_of_split {before after : List Record} {record : Record}
    (split : collections.records name = before ++ record :: after)
    (first : ∀ other ∈ before, other.hasId id = false) (found : record.hasId id = true)
    (notId : field ≠ idField) (value : Json) :
    update name id [(field, value)] collections =
      .ok (some (Fields.put field value record),
        some (collections.insert name (before ++ Fields.put field value record :: after))) := by
  obtain ⟨own, isOwn, same⟩ := Record.hasId_iff.1 found
  have keepsId : Record.id? (Fields.putAll record [(field, value)]) = some own :=
    (Record.id?_put_of_ne notId value record).trans isOwn
  have passed : ∀ other ∈ before, (!other.hasId id) = true := by simpa using first
  have earlier : (before ++ record :: after).takeWhile (!·.hasId id) = before := by
    simp [List.takeWhile_append_of_pos passed, found]
  have rest : (before ++ record :: after).dropWhile (!·.hasId id) = record :: after := by
    simp [List.dropWhile_append_of_pos passed, found]
  simp only [update, amend, split, earlier, rest, keepsId, same]
  rfl

/-- The record with an id is the only one that it finds, so an update is a change of all
records. -/
theorem Lawful.update_eq (lawful : collections.Lawful) (distinct : id.DistinctNames)
    (notId : field ≠ idField) (known : ∃ record ∈ collections.records name, record.hasId id = true)
    (value : Json) :
    ∃ changed, update name id [(field, value)] collections =
      .ok (some changed, some (collections.mapRecords (giving name field value [id]))) := by
  obtain ⟨record, member, found⟩ := known
  obtain ⟨before, after, split⟩ := List.append_of_mem member
  have others := lawful.hasId_eq_false_of_split split found distinct
  have first : ∀ other ∈ before, other.hasId id = false :=
    fun other inBefore => others other (List.mem_append_left _ inBefore)
  have last : ∀ other ∈ after, other.hasId id = false :=
    fun other inAfter => others other (List.mem_append_right _ inAfter)
  have changedRecords := map_of_split split first found last (Fields.put field value)
  have asGiving : (fun (other : String) (record : Record) => if other = name then
      if record.hasId id = true then Fields.put field value record else record
        else record) = giving name field value [id] := by
    funext other record
    by_cases inCollection : other = name <;> simp [giving, inCollection]
  refine ⟨Fields.put field value record, ?_⟩
  rw [update_of_split split first found notId, ← changedRecords,
    insert_map_records (by simp [split]), asGiving]

/-- The records that hold an old value, found at the start, get the new one beside those
that got it at other places. -/
theorem mapRecords_giving_substituted (lawful : origin.Lawful)
    {places : Finset (String × String)} (notId : ∀ place ∈ places, place.2 ≠ idField) :
    (origin.mapRecords (Record.substituted places old new)).mapRecords
        (giving name field new ((origin.holding name field old).filterMap Record.id?)) =
      origin.mapRecords (Record.substituted (insert (name, field) places) old new) := by
  rw [mapRecords_mapRecords]
  apply mapRecords_congr
  intro other record member
  have sameId : Record.id? (record.substituted places old new other) = record.id? :=
    Record.id?_substituted notId
  unfold giving
  by_cases inCollection : other = name
  · subst inCollection
    have nodup := (Json.distinctNames_object.1 (lawful.distinctNames other record member)).1
    rw [Record.substituted_insert nodup]
    -- The ids were taken from the records at the start, and still tell them.
    have found : (((origin.holding other field old).filterMap Record.id?).any
        (Record.hasId (record.substituted places old new other))) = true ↔
          record.id?.isSome ∧ record.holds field old = true := by
      rw [List.any_eq_true]
      constructor
      · rintro ⟨id, isFollower, holdsId⟩
        obtain ⟨follower, isHolder, isId⟩ := List.mem_filterMap.1 isFollower
        obtain ⟨isStored, holds⟩ := mem_holding.1 isHolder
        rw [Record.hasId_congr sameId] at holdsId
        obtain rfl : follower = record :=
          lawful.idsUnique.eq_of_hasId isStored member isId holdsId
        exact ⟨by rw [isId]; rfl, holds⟩
      · rintro ⟨hasId, holds⟩
        obtain ⟨id, isId⟩ := Option.isSome_iff_exists.1 hasId
        refine ⟨id, List.mem_filterMap.2 ⟨record, mem_holding.2 ⟨member, holds⟩, isId⟩, ?_⟩
        rw [Record.hasId_congr sameId]
        exact Record.hasId_own (lawful.distinctNames other record member) isId
    simp only [found, true_and]
  · rw [Record.substituted_insert_of_ne inCollection, if_neg (fun both => inCollection both.1)]

/-- A place where nothing holds the old value adds nothing to a substitution. -/
theorem mapRecords_substituted_insert (lawful : origin.Lawful)
    {places : Finset (String × String)} (notId : ∀ place ∈ places, place.2 ≠ idField)
    (empty : origin.holding name field old = []) :
    origin.mapRecords (Record.substituted (insert (name, field) places) old new) =
      origin.mapRecords (Record.substituted places old new) := by
  rw [← mapRecords_giving_substituted lawful notId, empty]
  apply mapRecords_eq_self
  simp [giving]

end Collections

end DocStore
