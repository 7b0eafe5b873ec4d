import DocStore.Proofs.Edits
import DocStore.Proofs.GeneratedIds
import DocStore.Proofs.ValueEquality
import Mathlib.Data.List.Pairwise

/-!
# Unique ids under edits

In a lawful map of collections no two records of a collection have equal ids.  Every
edit leaves a lawful map lawful, except that a generated id may be one that is there
already.
-/

namespace DocStore

namespace Record

variable {record other : Record} {id : Json}

/-- Whether neither record has an id that the other one's is equal to. -/
def Apart (record other : Record) : Prop :=
  (∀ id, other.id? = some id → record.hasId id = false) ∧
    ∀ id, record.id? = some id → other.hasId id = false

theorem Apart.symm (apart : record.Apart other) : other.Apart record :=
  ⟨apart.2, apart.1⟩

instance : Std.Symm Apart :=
  ⟨fun _ _ => Apart.symm⟩

instance (record other : Record) : Decidable (record.Apart other) :=
  decidable_of_iff ((∀ id ∈ other.id?, record.hasId id = false) ∧
    ∀ id ∈ record.id?, other.hasId id = false) Iff.rfl

theorem Apart.hasId_eq_false {own : Json} (apart : record.Apart other)
    (isOwn : other.id? = some own) (equal : own.same id = true)
    (distinct : own.DistinctNames) (idDistinct : id.DistinctNames) :
    record.hasId id = false := by
  refine Bool.eq_false_iff.2 fun holds => ?_
  obtain ⟨held, isHeld, same⟩ := hasId_iff.1 holds
  have shared : record.hasId own = true :=
    hasId_iff.2 ⟨held, isHeld, Json.same_trans same (Json.same_symm distinct idDistinct equal)⟩
  rw [apart.1 own isOwn] at shared
  cases shared

/-- Equality of values is symmetric, so one direction is enough. -/
theorem apart_of_hasId (distinct : (Json.object record).DistinctNames)
    (otherDistinct : (Json.object other).DistinctNames)
    (free : ∀ id, other.id? = some id → record.hasId id = false) : record.Apart other := by
  refine ⟨free, fun id isId => Bool.eq_false_iff.2 fun holds => ?_⟩
  obtain ⟨own, isOwn, same⟩ := hasId_iff.1 holds
  have shared : record.hasId own = true :=
    hasId_iff.2 ⟨id, isId, Json.same_symm (distinctNames_id? otherDistinct isOwn)
      (distinctNames_id? distinct isId) same⟩
  rw [free own isOwn] at shared
  cases shared

/-- A record has its own id. -/
theorem hasId_own (distinct : (Json.object record).DistinctNames) (isId : record.id? = some id) :
    record.hasId id = true :=
  hasId_iff.2 ⟨id, isId, Json.same_refl id (distinctNames_id? distinct isId)⟩

theorem ne_null_of_hasId (found : record.hasId id = true) : id ≠ .null := by
  rintro rfl
  obtain ⟨own, isOwn, same⟩ := hasId_iff.1 found
  exact id?_ne_null isOwn (Json.same_null_right.1 same)

end Record

namespace Collections

variable {collections : Collections} {name : String} {id : Json}

/-- Whether no collection holds two records with equal ids. -/
def IdsUnique (collections : Collections) : Prop :=
  ∀ name, (collections.records name).Pairwise Record.Apart

/-- An id of a stored record finds no other one. -/
theorem IdsUnique.eq_of_hasId (unique : collections.IdsUnique) {record other : Record}
    (member : record ∈ collections.records name) (otherMember : other ∈ collections.records name)
    (isId : record.id? = some id) (found : other.hasId id = true) : record = other := by
  by_contra different
  rw [((unique name).forall member otherMember different).2 id isId] at found
  cases found

/-- Collections with unique ids, all of whose objects have distinct names. -/
structure Lawful (collections : Collections) : Prop where
  idsUnique : collections.IdsUnique
  distinctNames : ∀ name, ∀ record ∈ collections.records name,
    (Json.object record).DistinctNames

theorem lawful_empty : Collections.Lawful .empty :=
  ⟨by simp [IdsUnique, records_empty], by simp [records_empty]⟩

/-- The record that an id finds is the only one. -/
theorem Lawful.hasId_eq_false_of_split (lawful : collections.Lawful)
    {before after : List Record} {record : Record}
    (split : collections.records name = before ++ record :: after)
    (found : record.hasId id = true) (distinct : id.DistinctNames) :
    ∀ other ∈ before ++ after, other.hasId id = false := by
  intro other member
  have unique := lawful.idsUnique name
  have ownDistinct := lawful.distinctNames name record (by simp [split])
  rw [split] at unique
  obtain ⟨-, atRecord, apartBefore⟩ := List.pairwise_append.1 unique
  have apart : other.Apart record := by
    rcases List.mem_append.1 member with inBefore | inAfter
    · exact apartBefore other inBefore record List.mem_cons_self
    · exact ((List.pairwise_cons.1 atRecord).1 other inAfter).symm
  obtain ⟨own, isOwn, same⟩ := Record.hasId_iff.1 found
  exact apart.hasId_eq_false isOwn same (Record.distinctNames_id? ownDistinct isOwn) distinct

/-- In lawful collections a record is found by every key that is equal to its id. -/
theorem Lawful.find?_of_hasId (lawful : collections.Lawful) {record : Record}
    (member : record ∈ collections.records name) (distinct : id.DistinctNames)
    (holds : record.hasId id = true) : collections.find? name id = some record := by
  obtain ⟨before, after, split⟩ := List.append_of_mem member
  have onlyOne := lawful.hasId_eq_false_of_split split holds distinct
  exact find?_of_split split (fun other inBefore => onlyOne other (by simp [inBefore])) holds

theorem Lawful.find?_of_mem (lawful : collections.Lawful) {record : Record}
    (member : record ∈ collections.records name) (isId : record.id? = some id) :
    collections.find? name id = some record := by
  have distinct := lawful.distinctNames name record member
  exact lawful.find?_of_hasId member (Record.distinctNames_id? distinct isId)
    (Record.hasId_own distinct isId)

theorem Lawful.insert {records : List Record} (lawful : collections.Lawful)
    (apart : records.Pairwise Record.Apart)
    (distinct : ∀ record ∈ records, (Json.object record).DistinctNames) (name : String) :
    Collections.Lawful (collections.insert name records) := by
  constructor
  · intro other
    rw [records_insert]
    split_ifs
    · exact apart
    · exact lawful.idsUnique other
  · intro other record member
    rw [records_insert] at member
    split_ifs at member
    · exact distinct record member
    · exact lawful.distinctNames other record member

theorem lawful_create (lawful : collections.Lawful) (name : String) :
    (Edit.applied (create name) collections).Lawful := by
  unfold Edit.applied create
  by_cases known : collections.has name = true
  · simpa [known] using lawful
  · simpa [known] using lawful.insert .nil (by simp) name

theorem lawful_remove (lawful : collections.Lawful) (name : String) (id : Json) :
    (Edit.applied (remove name id) collections).Lawful := by
  unfold Edit.applied remove
  by_cases known : (collections.records name).any (·.hasId id) = true
  · have sublist := List.eraseP_sublist (p := (·.hasId id)) (l := collections.records name)
    simpa only [known, if_true] using lawful.insert
      ((lawful.idsUnique name).sublist sublist)
      (fun record member => lawful.distinctNames name record (sublist.subset member)) name
  · simpa [known] using lawful

theorem pairwise_snoc_apart (lawful : collections.Lawful) {record : Record}
    (distinct : (Json.object record).DistinctNames)
    (free : ∀ id, record.id? = some id →
      ∀ other ∈ collections.records name, other.hasId id = false) :
    (collections.records name ++ [record]).Pairwise Record.Apart := by
  refine List.pairwise_append.2 ⟨lawful.idsUnique name, by simp, fun other member _ isLast => ?_⟩
  rw [List.mem_singleton.1 isLast]
  exact Record.apart_of_hasId (lawful.distinctNames name other member) distinct
    fun id isId => free id isId other member

theorem lawful_add (lawful : collections.Lawful) {record : Record}
    (distinct : (Json.object record).DistinctNames)
    (free : record.id? = none → ¬ NextIdTaken name (collections.records name)) :
    (Edit.applied (add name record) collections).Lawful := by
  unfold Edit.applied
  rcases made : add name record collections with failure | ⟨added, after⟩
  · exact lawful
  · have keeps (isDistinct : (Json.object added).DistinctNames)
        (isFree : ∀ id, added.id? = some id →
          ∀ other ∈ collections.records name, other.hasId id = false) :
        Collections.Lawful
          (collections.insert name (collections.records name ++ [added])) := by
      refine lawful.insert (pairwise_snoc_apart lawful isDistinct isFree) ?_ name
      intro other member
      rcases List.mem_append.1 member with stored | isLast
      · exact lawful.distinctNames name other stored
      · rw [List.mem_singleton.1 isLast]
        exact isDistinct
    obtain ⟨rfl, ⟨rfl, id, own, isFree⟩ | ⟨id, none, next, rfl⟩⟩ := add_ok made
    · refine keeps distinct fun other isOther => ?_
      obtain rfl : id = other := by simpa [own] using isOther
      exact isFree
    · obtain ⟨largest, -, -, rfl⟩ := nextId_ok next
      refine keeps (Record.distinctNames_withId distinct trivial) fun other isOther => ?_
      rw [Record.id?_withId (by simp [Json.ofInt])] at isOther
      obtain rfl := Option.some.inj isOther
      intro stored member
      refine Bool.eq_false_iff.2 fun holds => free none ?_
      exact (nextIdTaken_iff next).2 ⟨stored, member, holds⟩

/-- A generated id that is there already is repeated. -/
theorem not_idsUnique_add {record : Record} (noId : record.id? = none)
    (taken : NextIdTaken name (collections.records name)) :
    ¬ (Edit.applied (add name record) collections).IdsUnique := by
  obtain ⟨id, next⟩ := taken.nextId_ok
  obtain ⟨stored, member, holds⟩ := (nextIdTaken_iff next).1 taken
  obtain ⟨largest, -, -, rfl⟩ := nextId_ok next
  intro unique
  have apart := unique name
  simp only [Edit.applied, add, identified, noId, next, bind, Except.bind, pure, Except.pure,
    records_insert_self] at apart
  have generated : (record.withId (.ofInt (largest + 1))).id? = some (.ofInt (largest + 1)) :=
    Record.id?_withId (by simp [Json.ofInt])
  have isApart := (List.pairwise_append.1 apart).2.2 stored member _ (List.mem_singleton.2 rfl)
  rw [isApart.1 _ generated] at holds
  cases holds

/-- The record that comes in the place of another is apart from the rest, if its new
id is free or equal to the one that the other was found by. -/
theorem pairwise_changed_apart (lawful : collections.Lawful) {before after : List Record}
    {record changed : Record} (split : collections.records name = before ++ record :: after)
    (found : record.hasId id = true)
    (distinct : (Json.object changed).DistinctNames) (idDistinct : id.DistinctNames)
    (free : ∀ newId, changed.id? = some newId → newId.same id = true ∨
      ∀ other ∈ before ++ after, other.hasId newId = false) :
    (before ++ changed :: after).Pairwise Record.Apart := by
  have unique := lawful.idsUnique name
  have allDistinct := lawful.distinctNames name
  rw [split] at unique allDistinct
  obtain ⟨beforeApart, restApart, across⟩ := List.pairwise_append.1 unique
  obtain ⟨recordApart, afterApart⟩ := List.pairwise_cons.1 restApart
  have otherFree := lawful.hasId_eq_false_of_split split found idDistinct
  have otherApart : ∀ other ∈ before ++ after, other.Apart changed := by
    intro other member
    have otherDistinct : (Json.object other).DistinctNames := by
      refine allDistinct other ?_
      rcases List.mem_append.1 member with inBefore | inAfter
      · exact List.mem_append_left _ inBefore
      · exact List.mem_append_right _ (List.mem_cons_of_mem _ inAfter)
    refine Record.apart_of_hasId otherDistinct distinct fun newId isNew => ?_
    rcases free newId isNew with equal | isFree
    · refine Bool.eq_false_iff.2 fun holds => ?_
      obtain ⟨held, isHeld, same⟩ := Record.hasId_iff.1 holds
      have shared : other.hasId id = true :=
        Record.hasId_iff.2 ⟨held, isHeld, Json.same_trans same equal⟩
      rw [otherFree other member] at shared
      cases shared
    · exact isFree other member
  refine List.pairwise_append.2 ⟨beforeApart, List.pairwise_cons.2 ⟨?_, afterApart⟩, ?_⟩
  · exact fun other inAfter => (otherApart other (List.mem_append_right _ inAfter)).symm
  · intro other inBefore next member
    rcases List.mem_cons.1 member with rfl | inAfter
    · exact otherApart other (List.mem_append_left _ inBefore)
    · exact across other inBefore next (List.mem_cons_of_mem _ inAfter)

theorem lawful_amend (lawful : collections.Lawful) {change : Record → Record}
    (idDistinct : id.DistinctNames)
    (changeDistinct : ∀ record : Record, (Json.object record).DistinctNames →
      (Json.object (change record)).DistinctNames) :
    (Edit.applied (amend name id change) collections).Lawful := by
  have outcome := amend_outcome collections name id change
  unfold Edit.applied
  generalize amend name id change collections = result at outcome
  cases outcome with
  | missing => exact lawful
  | taken => exact lawful
  | @changed before after record split _ found free =>
      have notNull := Record.ne_null_of_hasId found
      have allDistinct := lawful.distinctNames name
      rw [split] at allDistinct
      have distinct : (Json.object ((change record).identifiedBy id)).DistinctNames :=
        Record.distinctNames_identifiedBy (changeDistinct record (allDistinct record (by simp)))
          idDistinct
      refine lawful.insert
        (pairwise_changed_apart lawful split found distinct idDistinct ?_) ?_ name
      · intro newId isNew
        rw [Record.id?_identifiedBy _ notNull] at isNew
        obtain rfl := Option.some.inj isNew
        cases own : (change record).id? with
        | none => exact .inl (Json.same_refl id idDistinct)
        | some newId => exact free newId own
      · intro other member
        rcases List.mem_append.1 member with inBefore | inRest
        · exact allDistinct other (List.mem_append_left _ inBefore)
        · rcases List.mem_cons.1 inRest with rfl | inAfter
          · exact distinct
          · exact allDistinct other (List.mem_append_right _ (List.mem_cons_of_mem _ inAfter))

theorem lawful_update (lawful : collections.Lawful) (name : String) {patch : Record}
    (idDistinct : id.DistinctNames) (distinct : (Json.object patch).DistinctNames) :
    (Edit.applied (update name id patch) collections).Lawful :=
  lawful_amend lawful idDistinct fun _ recordDistinct =>
    recordDistinct.putAll (Json.distinctNames_object.1 distinct).2

theorem lawful_replace (lawful : collections.Lawful) (name : String) {record : Record}
    (idDistinct : id.DistinctNames) (distinct : (Json.object record).DistinctNames) :
    (Edit.applied (replace name id record) collections).Lawful :=
  lawful_amend lawful idDistinct fun _ _ => distinct

theorem pairwise_apart_of_repeatedId? {earlier records : List Record}
    (unique : repeatedId? earlier records = none)
    (earlierDistinct : ∀ record ∈ earlier, (Json.object record).DistinctNames)
    (distinct : ∀ record ∈ records, (Json.object record).DistinctNames) :
    records.Pairwise Record.Apart ∧
      ∀ record ∈ earlier, ∀ later ∈ records, record.Apart later := by
  induction records generalizing earlier with
  | nil => simp
  | cons record rest ih =>
      have recordDistinct := distinct record (by simp)
      have free : (∀ id, record.id? = some id →
          ∀ other ∈ earlier, other.hasId id = false) ∧
          repeatedId? (record :: earlier) rest = none := by
        cases own : record.id? with
        | none => simpa [repeatedId?, own] using unique
        | some id =>
            simp only [repeatedId?, own] at unique
            split_ifs at unique with taken
            refine ⟨?_, unique⟩
            intro other isOther
            obtain rfl := Option.some.inj isOther
            simpa using taken
      obtain ⟨restApart, across⟩ := ih free.2
        (by simpa [recordDistinct] using earlierDistinct)
        (fun other member => distinct other (List.mem_cons_of_mem _ member))
      refine ⟨List.pairwise_cons.2 ⟨across record (by simp), restApart⟩, ?_⟩
      intro other isEarlier later member
      rcases List.mem_cons.1 member with rfl | inRest
      · exact Record.apart_of_hasId (earlierDistinct other isEarlier) recordDistinct
          fun id isId => free.1 id isId other isEarlier
      · exact across other (List.mem_cons_of_mem _ isEarlier) later inRest

theorem lawful_swap (lawful : collections.Lawful) {incoming : Collections}
    (distinct : ∀ name, ∀ record ∈ incoming.records name, (Json.object record).DistinctNames) :
    (Edit.applied (swap incoming) collections).Lawful := by
  unfold Edit.applied swap
  cases repeated : incoming.repetition? with
  | some place => simpa using lawful
  | none =>
      refine ⟨fun name => ?_, distinct⟩
      unfold Collections.records
      cases found : incoming.get? name with
      | none => simp
      | some records =>
          have none := List.findSome?_eq_none_iff.1 repeated _
            (SortedMap.mem_entries_of_find? found)
          refine (pairwise_apart_of_repeatedId? (by simpa using none) (by simp) ?_).1
          intro record member
          exact distinct name record (by simpa [Collections.records, found] using member)

end Collections

end DocStore
