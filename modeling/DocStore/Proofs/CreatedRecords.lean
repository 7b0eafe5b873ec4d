import DocStore.Proofs.DatabaseParts
import DocStore.Proofs.UniqueIds
import DocStore.Storage.Memory

/-!
# Created records

A record is checked before it is stored, and a record without an id gets one
afterwards.  What is stored is valid up to that id: it breaks the schema exactly
where the schema's own field for the id refuses the generated one.
-/

namespace DocStore

namespace Schema

variable {schema : Schema} {record : Record} {id : Json}

/-- Whether a field that the schema has for the id finds something wrong with an
id. -/
def RefusesId (schema : Schema) (id : Json) : Prop :=
  ∃ field, (idField, field) ∈ schema.fields ∧ field.issues ⟨idField, []⟩ id ≠ []

theorem issues_eq_nil_iff {lenient : Bool} :
    schema.issues record lenient = [] ↔
      ∀ name field, (name, field) ∈ schema.fields →
        fieldIssues lenient record name field = [] := by
  simp [issues, List.flatMap_eq_nil_iff]

theorem fieldIssues_congr {lenient : Bool} {name : String} {field : Field} {other : Record}
    (same : Fields.get? name record = Fields.get? name other) :
    fieldIssues lenient record name field = fieldIssues lenient other name field := by
  simp only [fieldIssues, same]

/-- A valid record that is given an id stays valid as far as the id is accepted. -/
theorem issues_withId_eq_nil_iff {lenient : Bool} (valid : schema.issues record lenient = []) :
    schema.issues (record.withId id) lenient = [] ↔ ¬ schema.RefusesId id := by
  have given : Fields.get? idField (record.withId id) = some id := by
    simp [Record.withId, Fields.get?]
  rw [issues_eq_nil_iff]
  constructor
  · rintro validNow ⟨field, declared, refused⟩
    have accepted := validNow idField field declared
    rw [fieldIssues, given] at accepted
    exact refused accepted
  · intro accepted name field declared
    by_cases isId : idField = name
    · subst isId
      rw [fieldIssues, given]
      exact not_not.1 fun refused => accepted ⟨field, declared, refused⟩
    · rw [fieldIssues_congr (Record.get?_withId_of_ne isId)]
      exact issues_eq_nil_iff.1 valid name field declared

theorem validated_ok {isNew lenient : Bool} {prepared : Record} {supply later : Supply}
    (answered : (schema.validated isNew lenient record).outcome supply = (.ok prepared, later)) :
    (schema.prepare isNew record supply).1 = prepared ∧
      schema.issues prepared lenient = [] := by
  obtain ⟨value, middle, ran, checked⟩ := Attempt.bind_ok_iff.1 answered
  have prepares : (schema.prepare isNew record supply).1 = value :=
    Except.ok.inj (congrArg Prod.fst ran)
  split at checked
  · rename_i valid
    obtain rfl : value = prepared := Except.ok.inj (congrArg Prod.fst checked)
    exact ⟨prepares, valid⟩
  · cases checked

end Schema

namespace Registry

variable {registry : Registry}

/-- Whether every schema stands under its own name, as `register` puts it. -/
def Keyed (registry : Registry) : Prop :=
  ∀ entry ∈ registry.schemas.entries, entry.2.name = entry.1

theorem keyed_empty : Keyed {} := by
  intro entry member
  cases member

theorem Keyed.register (keyed : registry.Keyed) (schema : Schema) :
    (registry.register schema).Keyed := by
  intro entry member
  rcases SortedMap.mem_place member with rfl | older
  · rfl
  · exact keyed entry older

theorem Keyed.registerAll (keyed : registry.Keyed) (schemas : List Schema) :
    (registry.registerAll schemas).Keyed := by
  induction schemas generalizing registry with
  | nil => exact keyed
  | cons schema rest ih => exact ih (keyed.register schema)

theorem Keyed.unregister (keyed : registry.Keyed) (name : String) :
    (registry.unregister name).Keyed := by
  unfold Registry.unregister
  split
  · exact fun entry member => keyed entry (List.mem_filter.1 member).1
  · exact keyed

end Registry

namespace Database

variable {A : Type}

/-- The reports on the records of a schema's collection. -/
def reportsOn (schema : Schema) (records : List Record) : List RecordReport :=
  records.filterMap fun record =>
    match schema.issues record false with
    | [] => none
    | issues => some ⟨schema.name, .orNull (Fields.get? idField record), issues⟩

theorem reports_eq (db : Database A) :
    db.reports = db.registry.schemas.entries.flatMap fun entry =>
      reportsOn entry.2 (db.store.collections.records entry.2.name) := by
  have opened : db.reports = db.registry.all.flatMap fun schema =>
      reportsOn schema (db.store.collections.records schema.name) := rfl
  rw [opened, Registry.all, SortedMap.values, List.flatMap_map]

theorem reportsOn_append (schema : Schema) (records : List Record) (record : Record) :
    reportsOn schema (records ++ [record]) = reportsOn schema records ↔
      schema.issues record false = [] := by
  unfold reportsOn
  rw [List.filterMap_append]
  cases found : schema.issues record false with
  | nil => simp [found]
  | cons issue rest => simp [found]

/-- The reports on a database stay when a record is added to a collection exactly if
the schema of the collection finds nothing wrong with the record. -/
theorem reports_eq_iff {db after : Database A} {collection : String} {schema : Schema}
    {record : Record} (keyed : db.registry.Keyed)
    (registered : db.registry.find? collection = some schema)
    (sameRegistry : after.registry = db.registry)
    (added : after.store.collections = db.store.collections.insert collection
      (db.store.collections.records collection ++ [record])) :
    after.reports = db.reports ↔ schema.issues record false = [] := by
  have stands := SortedMap.mem_entries_of_find? registered
  have increasing := db.registry.schemas.increasing
  obtain ⟨before, rest, split⟩ := List.append_of_mem stands
  rw [split, List.pairwise_append, List.pairwise_cons] at increasing
  obtain ⟨-, ⟨restAbove, -⟩, beforeBelow⟩ := increasing
  have named : schema.name = collection := keyed _ stands
  have elsewhere : ∀ entry ∈ before ++ rest,
      reportsOn entry.2 (after.store.collections.records entry.2.name) =
        reportsOn entry.2 (db.store.collections.records entry.2.name) := by
    intro entry member
    have stored : entry ∈ db.registry.schemas.entries := by
      rw [split]
      rcases List.mem_append.1 member with inBefore | inRest
      · exact List.mem_append_left _ inBefore
      · exact List.mem_append_right _ (List.mem_cons_of_mem _ inRest)
    have different : collection ≠ entry.2.name := by
      rw [keyed entry stored]
      rcases List.mem_append.1 member with inBefore | inRest
      · exact (String.ne_of_lt (beforeBelow entry inBefore _ List.mem_cons_self)).symm
      · exact String.ne_of_lt (restAbove entry inRest)
    rw [added, Collections.records_insert_of_ne different]
  have beforeSame := List.flatMap_congr fun entry member =>
    elsewhere entry (List.mem_append_left rest member)
  have restSame := List.flatMap_congr fun entry member =>
    elsewhere entry (List.mem_append_right before member)
  rw [reports_eq, reports_eq, sameRegistry, split]
  simp only [List.flatMap_append, List.flatMap_cons]
  rw [beforeSame, restSame, List.append_right_inj, List.append_left_inj, named, added,
    Collections.records_insert_self, reportsOn_append]

/-- Whether a record is prepared without an id, and the schema of its collection
refuses the one that it then gets. -/
def GetsRefusedId (db : Database A) (collection : String) (schema : Schema)
    (record : Record) : Prop :=
  ∃ id, (schema.prepare true record db.supply).1.id? = none ∧
    Collections.nextId collection (db.store.collections.records collection) = .ok id ∧
    schema.RefusesId id

variable [Adapter A]

/-- A prepared record is stored as it is, or with a generated id in front. -/
theorem onStore_add_ok {db after : Database A} {collection : String} {prepared created : Record}
    (committed : (onStore (Store.add collection prepared)).outcome db = (.ok created, after)) :
    after.registry = db.registry ∧
      after.store.collections = db.store.collections.insert collection
        (db.store.collections.records collection ++ [created]) ∧
      ((created = prepared ∧ ∃ id, prepared.id? = some id) ∨
        ∃ id, prepared.id? = none ∧
          Collections.nextId collection (db.store.collections.records collection) = .ok id ∧
          created = prepared.withId id) := by
  rw [onStore, Store.add_eq_commit, Attempt.onPart_outcome, Prod.mk.injEq] at committed
  obtain ⟨changed, made, kept⟩ := Store.commit_ok (Prod.ext committed.1 rfl)
  obtain ⟨rfl, source⟩ := Collections.add_ok made
  rw [← committed.2]
  refine ⟨rfl, kept, ?_⟩
  rcases source with ⟨rfl, id, own, -⟩ | generated
  · exact .inl ⟨rfl, id, own⟩
  · exact .inr generated

/-- A record that is created was prepared and found valid, and is stored as it was
prepared, or with a generated id in front. -/
theorem create_ok {db after : Database A} {collection : String} {schema : Schema}
    {record created : Record} (registered : db.registry.find? collection = some schema)
    (creation : (create collection record).outcome db = (.ok created, after)) :
    ∃ prepared, (schema.prepare true record db.supply).1 = prepared ∧
      schema.issues prepared false = [] ∧
      after.registry = db.registry ∧
      after.store.collections = db.store.collections.insert collection
        (db.store.collections.records collection ++ [created]) ∧
      ((created = prepared ∧ ∃ id, prepared.id? = some id) ∨
        ∃ id, prepared.id? = none ∧
          Collections.nextId collection (db.store.collections.records collection) = .ok id ∧
          created = prepared.withId id) := by
  obtain ⟨prepared, middle, preparing, committed⟩ := Attempt.bind_ok_iff.1 creation
  rw [prepare, Attempt.get_bind_outcome] at preparing
  simp only [registered, Attempt.onPart_outcome, Prod.mk.injEq] at preparing
  obtain ⟨validated, rfl⟩ := preparing
  obtain ⟨prepares, valid⟩ := Schema.validated_ok (Prod.ext validated rfl)
  obtain ⟨sameRegistry, added, source⟩ := onStore_add_ok committed
  exact ⟨prepared, prepares, valid, sameRegistry, added, source⟩

/-- A created record is valid under the schema of its collection, and nothing more is
reported of the database, exactly if the record does not get an id that the schema
refuses. -/
theorem created_valid_iff {db after : Database A} {collection : String} {schema : Schema}
    {record created : Record} (keyed : db.registry.Keyed)
    (registered : db.registry.find? collection = some schema)
    (creation : (create collection record).outcome db = (.ok created, after)) :
    after.store.collections.records collection =
        db.store.collections.records collection ++ [created] ∧
      (schema.issues created false = [] ↔ ¬ db.GetsRefusedId collection schema record) ∧
      (after.reports = db.reports ↔ ¬ db.GetsRefusedId collection schema record) := by
  obtain ⟨prepared, prepares, valid, sameRegistry, added, source⟩ :=
    create_ok registered creation
  have validIff :
      schema.issues created false = [] ↔ ¬ db.GetsRefusedId collection schema record := by
    rcases source with ⟨rfl, id, own⟩ | ⟨id, noId, next, rfl⟩
    · refine iff_of_true valid ?_
      rintro ⟨other, noId, -⟩
      rw [prepares, own] at noId
      cases noId
    · rw [Schema.issues_withId_eq_nil_iff valid, not_iff_not]
      constructor
      · exact fun refused => ⟨id, by rw [prepares, noId], next, refused⟩
      · rintro ⟨other, -, isNext, refused⟩
        obtain rfl : id = other := Except.ok.inj (next.symm.trans isNext)
        exact refused
  refine ⟨?_, validIff, ?_⟩
  · rw [added, Collections.records_insert_self]
  · rw [reports_eq_iff keyed registered sameRegistry added, validIff]

/-- The schema of a shelf whose ids are of a kind. -/
def shelfSchema (kind : TypeTag) : Schema :=
  { name := "books", fields := [(idField, .ofTypes [kind])] }

/-- A shelf without books. -/
def emptyShelf (kind : TypeTag) : Database Memory :=
  .ofStore (Registry.register {} (shelfSchema kind)) (.start 0 0)
    { storage := {}, key := "library" }

/-- The first book gets a number, which is valid where ids are numbers. -/
theorem created_numbered_book :
    ∃ created after,
      (create "books" [("title", .string "Emma")]).outcome (emptyShelf .number) =
        (.ok created, after) ∧
      (shelfSchema .number).issues created false = [] ∧
      after.reports = (emptyShelf .number).reports := by
  obtain ⟨created, after, creation⟩ : ∃ created after,
      (create "books" [("title", .string "Emma")]).outcome (emptyShelf .number) =
        (.ok created, after) := ⟨_, _, rfl⟩
  have registered : (emptyShelf .number).registry.find? "books" = some (shelfSchema .number) := rfl
  obtain ⟨-, valid, reported⟩ :=
    created_valid_iff (Registry.keyed_empty.register _) registered creation
  have accepted : ¬ (emptyShelf .number).GetsRefusedId "books" (shelfSchema .number)
      [("title", .string "Emma")] := by
    rintro ⟨id, -, next, field, declared, refused⟩
    obtain rfl : Json.ofInt 1 = id := Except.ok.inj next
    obtain rfl : field = .ofTypes [.number] := by simpa [shelfSchema] using declared
    exact refused rfl
  exact ⟨created, after, creation, valid.2 accepted, reported.2 accepted⟩

/-- Where ids are texts, the first book that comes without one is stored with a number
and reported at once. -/
theorem created_book_refused :
    ∃ after,
      (create "books" []).outcome (emptyShelf .string) = (.ok [(idField, .ofInt 1)], after) ∧
      (shelfSchema .string).issues [(idField, .ofInt 1)] false ≠ [] ∧
      after.reports ≠ (emptyShelf .string).reports := by
  refine ⟨_, rfl, ?_, ?_⟩
  · exact List.cons_ne_nil _ _
  · exact List.cons_ne_nil _ _

end Database

end DocStore
