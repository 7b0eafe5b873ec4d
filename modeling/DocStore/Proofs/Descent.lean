import DocStore.Proofs.UniqueIds
import DocStore.Proofs.VisitMarks
import Mathlib.Data.List.Forall2
import Mathlib.Data.List.Pairwise

/-!
# What a deletion leaves

During a deletion the collections descend from those before it: records are gone, and
fields that policies set to null are null, but order, ids and all other fields stay.
-/

namespace DocStore

/-- Whether a delete policy puts null into a field of a collection. -/
def ReferenceGraph.Nulls (graph : ReferenceGraph) (collection field : String) : Prop :=
  ∃ owner, ∃ dependent ∈ graph.dependentsOf owner, dependent.onDelete = some .setNull ∧
    dependent.collection = collection ∧ dependent.field = field

namespace Record

variable {graph : ReferenceGraph} {collection : String} {record now before : Record}

/-- Whether a record is what deletions may have left of another one. -/
structure Descends (graph : ReferenceGraph) (collection : String)
    (now before : Record) : Prop where
  id?_eq : now.id? = before.id?
  get?_cases : ∀ field, Fields.get? field now = Fields.get? field before ∨
    graph.Nulls collection field ∧ Fields.get? field now = some .null
  eq_of_keeps : (∀ field, ¬ graph.Nulls collection field) → now = before

theorem Descends.refl (record : Record) : record.Descends graph collection record :=
  ⟨rfl, fun _ => .inl rfl, fun _ => rfl⟩

theorem Descends.trans {middle : Record} (later : Descends graph collection now middle)
    (earlier : Descends graph collection middle before) :
    Descends graph collection now before := by
  constructor
  · exact later.id?_eq.trans earlier.id?_eq
  · intro field
    rcases later.get?_cases field with same | nulled
    · rcases earlier.get?_cases field with sameBefore | ⟨nulls, isNull⟩
      · exact .inl (same.trans sameBefore)
      · exact .inr ⟨nulls, same.trans isNull⟩
    · exact .inr nulled
  · intro keeps
    exact (later.eq_of_keeps keeps).trans (earlier.eq_of_keeps keeps)

theorem Descends.linked?_eq {key : String} (descends : Descends graph collection now before)
    (keeps : ¬ graph.Nulls collection key) : now.linked? key = before.linked? key := by
  rcases descends.get?_cases key with same | ⟨nulls, -⟩
  · exact linked?_congr same
  · exact absurd nulls keeps

theorem Descends.holds {field : String} {value : Json}
    (descends : Descends graph collection now before) (notNull : value ≠ .null)
    (holds : now.holds field value = true) : before.holds field value = true := by
  obtain ⟨own, found, same⟩ := holds_iff.1 holds
  rcases descends.get?_cases field with unchanged | ⟨-, isNull⟩
  · exact holds_iff.2 ⟨own, unchanged ▸ found, same⟩
  · obtain rfl : Json.null = own := by simpa [isNull] using found
    exact absurd (Json.same_null_left.1 same) notNull

/-- The record with `null` in a field, and still with its id. -/
def nulled (record : Record) (field : String) (id : Json) : Record :=
  identifiedBy (Fields.putAll record [(field, .null)]) id

theorem descends_nulled {field : String} {id : Json} (nulls : graph.Nulls collection field)
    (isId : record.id? = some id) :
    Descends graph collection (record.nulled field id) record := by
  have notNull : id ≠ .null := id?_ne_null isId
  have nulled : record.nulled field id = identifiedBy (Fields.put field .null record) id := rfl
  rw [nulled]
  have idStays : (identifiedBy (Fields.put field .null record) id).id? = some id := by
    rw [id?_identifiedBy _ notNull]
    by_cases isIdField : field = idField
    · have gone : id? (Fields.put field .null record) = none := by
        rw [isIdField, id?, linked?, Fields.get?_put_self]
      rw [gone, Option.getD_none]
    · have same : id? (Fields.put field .null record) = some id := by
        rw [← isId]
        exact linked?_congr (Fields.get?_put_of_ne isIdField _ _)
      rw [same, Option.getD_some]
  constructor
  · exact idStays.trans isId.symm
  · intro other
    by_cases isIdField : idField = other
    · subst isIdField
      left
      rw [(linked?_eq_some.1 idStays).1, (linked?_eq_some.1 isId).1]
    · rw [get?_identifiedBy_of_ne isIdField]
      by_cases same : field = other
      · subst same
        exact .inr ⟨nulls, Fields.get?_put_self _ _ _⟩
      · exact .inl (Fields.get?_put_of_ne same _ _)
  · intro keeps
    exact absurd nulls (keeps field)

theorem not_holds_nulled {field : String} {id value : Json} (notId : field ≠ idField)
    (notNull : value ≠ .null) :
    (record.nulled field id).holds field value = false := by
  have isNull : Fields.get? field (record.nulled field id) = some .null := by
    rw [nulled, get?_identifiedBy_of_ne (Ne.symm notId)]
    exact Fields.get?_put_self _ _ _
  refine Bool.eq_false_iff.2 fun holds => ?_
  obtain ⟨own, found, same⟩ := holds_iff.1 holds
  obtain rfl : Json.null = own := by simpa [isNull] using found
  exact notNull (Json.same_null_left.1 same)

end Record

namespace Collections

variable {graph : ReferenceGraph} {collections now before : Collections} {name : String}
  {record : Record} {id : Json}

/-- Whether collections are what deletions may have left of others. -/
def Descends (graph : ReferenceGraph) (now before : Collections) : Prop :=
  ∀ name, List.SublistForall₂ (Record.Descends graph name) (now.records name)
    (before.records name)

theorem Descends.refl (collections : Collections) : collections.Descends graph collections := by
  intro name
  exact List.sublistForall₂_iff.2 ⟨_, List.forall₂_same.2 fun record _ => .refl record,
    List.Sublist.refl _⟩

theorem Descends.trans {middle : Collections} (later : Descends graph now middle)
    (earlier : Descends graph middle before) : Descends graph now before := by
  intro name
  have isTrans : IsTrans Record (Record.Descends graph name) :=
    ⟨fun _ _ _ => Record.Descends.trans⟩
  exact List.SublistForall₂.is_trans.trans _ _ _ (later name) (earlier name)

private theorem exists_of_sublistForall₂ {α β : Type} {related : α → β → Prop} {items : List α}
    {others : List β} (all : List.SublistForall₂ related items others) {item : α}
    (member : item ∈ items) : ∃ other ∈ others, related item other := by
  induction all with
  | nil => cases member
  | cons head _ ih =>
      rcases List.mem_cons.1 member with rfl | inRest
      · exact ⟨_, List.mem_cons_self, head⟩
      · obtain ⟨other, inOthers, isRelated⟩ := ih inRest
        exact ⟨other, List.mem_cons_of_mem _ inOthers, isRelated⟩
  | cons_right _ ih =>
      obtain ⟨other, inOthers, isRelated⟩ := ih member
      exact ⟨other, List.mem_cons_of_mem _ inOthers, isRelated⟩

private theorem pairwise_of_sublistForall₂ {α β : Type} {related : α → β → Prop}
    {property : α → α → Prop} {otherProperty : β → β → Prop} {items : List α} {others : List β}
    (all : List.SublistForall₂ related items others)
    (transfer : ∀ item next other after, related item other → related next after →
      otherProperty other after → property item next)
    (pairwise : others.Pairwise otherProperty) : items.Pairwise property := by
  induction all with
  | nil => exact .nil
  | cons head rest ih =>
      obtain ⟨first, tail⟩ := List.pairwise_cons.1 pairwise
      refine List.pairwise_cons.2 ⟨fun next member => ?_, ih tail⟩
      obtain ⟨after, inOthers, isRelated⟩ := exists_of_sublistForall₂ rest member
      exact transfer _ _ _ _ head isRelated (first after inOthers)
  | cons_right _ ih => exact ih (List.pairwise_cons.1 pairwise).2

theorem Descends.exists_before (descends : Descends graph now before)
    (member : record ∈ now.records name) :
    ∃ source ∈ before.records name, record.Descends graph name source :=
  exists_of_sublistForall₂ (descends name) member

/-- Whether a collection holds a record with an id. -/
def Stores (collections : Collections) (name : String) (id : Json) : Prop :=
  ∃ record ∈ collections.records name, record.id? = some id

theorem Descends.stores (descends : Descends graph now before) (stored : now.Stores name id) :
    before.Stores name id := by
  obtain ⟨record, member, isId⟩ := stored
  obtain ⟨source, isSource, descended⟩ := descends.exists_before member
  exact ⟨source, isSource, descended.id?_eq ▸ isId⟩

/-- Collections whose records can be told apart by their ids and by the marks of a
deletion: ids are unique, and texts or integers, and no name has a slash in it. -/
structure Addressed (collections : Collections) : Prop where
  idsUnique : collections.IdsUnique
  isKey : ∀ name, ∀ record ∈ collections.records name,
    ∃ id, record.id? = some id ∧ id.IsKey
  slashFree : ∀ name, ∀ record ∈ collections.records name, SlashFree name

theorem Addressed.eq_of_hasId {other : Record} (addressed : collections.Addressed)
    (member : record ∈ collections.records name) (isId : record.id? = some id)
    (otherMember : other ∈ collections.records name) (holds : other.hasId id = true) :
    other = record := by
  by_contra different
  have apart := (addressed.idsUnique name).forall otherMember member different
  rw [apart.1 id isId] at holds
  cases holds

theorem Addressed.hasId (addressed : collections.Addressed)
    (member : record ∈ collections.records name) (isId : record.id? = some id) :
    record.hasId id = true := by
  obtain ⟨own, isOwn, isKey⟩ := addressed.isKey name record member
  obtain rfl : own = id := by simpa [isOwn] using isId
  have distinct : own.DistinctNames := by
    cases own with
    | string _ => trivial
    | number _ => trivial
    | _ => exact isKey.elim
  exact Record.hasId_iff.2 ⟨own, isOwn, Json.same_refl own distinct⟩

theorem Addressed.eq_of_id? {other : Record} (addressed : collections.Addressed)
    (member : record ∈ collections.records name) (isId : record.id? = some id)
    (otherMember : other ∈ collections.records name) (otherIsId : other.id? = some id) :
    other = record :=
  addressed.eq_of_hasId member isId otherMember (addressed.hasId otherMember otherIsId)

theorem Addressed.isKey_of_id? (addressed : collections.Addressed)
    (member : record ∈ collections.records name) (isId : record.id? = some id) : id.IsKey := by
  obtain ⟨own, isOwn, isKey⟩ := addressed.isKey name record member
  obtain rfl : own = id := by simpa [isOwn] using isId
  exact isKey

theorem Addressed.eq_of_visitMark {other : String} {otherId : Json}
    (addressed : collections.Addressed) (stored : collections.Stores name id)
    (otherStored : collections.Stores other otherId)
    (same : visitMark other otherId = visitMark name id) : other = name ∧ otherId = id := by
  obtain ⟨record, member, isId⟩ := stored
  obtain ⟨otherRecord, otherMember, otherIsId⟩ := otherStored
  exact visitMark_injective (addressed.slashFree _ _ otherMember)
    (addressed.slashFree _ _ member) (addressed.isKey_of_id? otherMember otherIsId)
    (addressed.isKey_of_id? member isId) same

theorem Addressed.descend (addressed : before.Addressed) (descends : Descends graph now before) :
    now.Addressed := by
  constructor
  · intro name
    apply pairwise_of_sublistForall₂ (descends name) _ (addressed.idsUnique name)
    intro record next source after descended nextDescended apart
    have hasId_eq {now before : Record} (descended : now.Descends graph name before) (id : Json) :
        now.hasId id = before.hasId id := by
      rw [Record.hasId, descended.id?_eq, Record.hasId]
    constructor
    · intro id isId
      rw [hasId_eq descended]
      exact apart.1 id (nextDescended.id?_eq ▸ isId)
    · intro id isId
      rw [hasId_eq nextDescended]
      exact apart.2 id (descended.id?_eq ▸ isId)
  · intro name record member
    obtain ⟨source, isSource, descended⟩ := descends.exists_before member
    rw [descended.id?_eq]
    exact addressed.isKey name source isSource
  · intro name record member
    obtain ⟨source, isSource, -⟩ := descends.exists_before member
    exact addressed.slashFree name source isSource

theorem Descends.insert {records : List Record}
    (related : List.SublistForall₂ (Record.Descends graph name) records
      (collections.records name)) :
    Descends graph (collections.insert name records) collections := by
  intro other
  rw [records_insert]
  split_ifs with same
  · exact same ▸ related
  · exact Descends.refl collections other

/-- Erasing the first record with a stored id leaves the records with other ids. -/
theorem Addressed.mem_eraseP_iff (addressed : collections.Addressed)
    (member : record ∈ collections.records name) (isId : record.id? = some id)
    {stored : Record} :
    stored ∈ (collections.records name).eraseP (·.hasId id) ↔
      stored ∈ collections.records name ∧ stored.id? ≠ some id := by
  have holds := addressed.hasId member isId
  constructor
  · intro isLeft
    have isStored := List.mem_of_mem_eraseP isLeft
    refine ⟨isStored, fun storedId => ?_⟩
    have storedHolds := addressed.hasId isStored storedId
    obtain ⟨first, before, after, notBefore, firstHolds, split, erased⟩ :=
      List.exists_of_eraseP (p := (·.hasId id)) member holds
    have apart := addressed.idsUnique name
    rw [split] at apart
    rw [erased] at isLeft
    rcases List.mem_append.1 isLeft with inBefore | inAfter
    · exact notBefore stored inBefore storedHolds
    · have fromFirst := (List.pairwise_cons.1 (List.pairwise_append.1 apart).2.1).1
      have free := (fromFirst stored inAfter).1 id storedId
      rw [firstHolds] at free
      cases free
  · rintro ⟨isStored, different⟩
    rw [List.mem_eraseP_of_neg]
    · exact isStored
    · intro storedHolds
      obtain rfl := addressed.eq_of_hasId member isId isStored storedHolds
      exact different isId

/-- Removing a stored record. -/
theorem Addressed.remove (graph : ReferenceGraph) (addressed : collections.Addressed)
    (member : record ∈ collections.records name) (isId : record.id? = some id) :
    ∃ left, Collections.remove name id collections = .ok (true, some left) ∧
      Descends graph left collections ∧
      ∀ other otherId, left.Stores other otherId ↔
        collections.Stores other otherId ∧ ¬ (other = name ∧ otherId = id) := by
  have any : (collections.records name).any (·.hasId id) = true :=
    List.any_eq_true.2 ⟨record, member, addressed.hasId member isId⟩
  have removed : Collections.remove name id collections =
      .ok (true, some (collections.insert name
        ((collections.records name).eraseP (·.hasId id)))) := by
    simp only [Collections.remove, any, if_true]
  have isRefl : Std.Refl (Record.Descends graph name) := ⟨Record.Descends.refl⟩
  refine ⟨_, removed, Descends.insert List.eraseP_sublist.sublistForall₂, ?_⟩
  intro other otherId
  unfold Stores
  rw [records_insert]
  split_ifs with same
  · subst same
    constructor
    · rintro ⟨stored, isLeft, storedId⟩
      obtain ⟨isStored, different⟩ := (addressed.mem_eraseP_iff member isId).1 isLeft
      refine ⟨⟨stored, isStored, storedId⟩, ?_⟩
      rintro ⟨-, rfl⟩
      exact different storedId
    · rintro ⟨⟨stored, isStored, storedId⟩, different⟩
      refine ⟨stored, (addressed.mem_eraseP_iff member isId).2 ⟨isStored, ?_⟩, storedId⟩
      intro isRemoved
      exact different ⟨rfl, Option.some.inj (storedId.symm.trans isRemoved)⟩
  · have otherPlace : ¬ (other = name ∧ otherId = id) := fun equal => same equal.1.symm
    simp [otherPlace]

/-- Setting a field of a stored record to null. -/
theorem Addressed.setNull (addressed : collections.Addressed) {field : String}
    (nulls : graph.Nulls name field)
    (ownId : ∀ record ∈ collections.records name, record.hasId id = true →
      record.id? = some id)
    {answer : Option Record} {changed : Option Collections}
    (updated : update name id [(field, .null)] collections = .ok (answer, changed)) :
    Descends graph (changed.getD collections) collections ∧
      (∀ other otherId, (changed.getD collections).Stores other otherId ↔
        collections.Stores other otherId) ∧
      (field ≠ idField → ∀ record ∈ (changed.getD collections).records name,
        record.id? = some id → ∀ value, value ≠ .null → record.holds field value = false) := by
  have outcome := amend_outcome collections name id (·.putAll [(field, .null)])
  unfold update at updated
  rw [updated] at outcome
  cases outcome with
  | missing absent =>
      refine ⟨.refl _, fun _ _ => .rfl, ?_⟩
      intro _ record member isId
      have holds := addressed.hasId member isId
      rw [absent record member] at holds
      cases holds
  | @changed before after record split first found free =>
      have isId : record.id? = some id := ownId record (by rw [split]; simp) found
      have descended := Record.descends_nulled nulls isId
      have related : List.SublistForall₂ (Record.Descends graph name)
          (before ++ record.nulled field id :: after) (collections.records name) := by
        rw [split]
        refine List.sublistForall₂_iff.2 ⟨_, ?_, List.Sublist.refl _⟩
        exact List.rel_append (List.forall₂_same.2 fun other _ => .refl other)
          (.cons descended (List.forall₂_same.2 fun other _ => .refl other))
      have descends := Descends.insert related
      refine ⟨descends, ?_, ?_⟩
      · intro other otherId
        unfold Stores
        rw [Option.getD_some, records_insert]
        split_ifs with same
        · subst same
          have sameId : (Record.identifiedBy (Fields.putAll record [(field, .null)]) id).id? =
              record.id? := descended.id?_eq
          simp [split, or_and_right, exists_or, sameId]
        · rfl
      · intro notId stored member isStored value notNull
        have last : record.nulled field id ∈ Collections.records (collections.insert name
            (before ++ record.nulled field id :: after)) name := by
          simp
        obtain rfl := (addressed.descend descends).eq_of_id? last (descended.id?_eq ▸ isId)
          member isStored
        exact Record.not_holds_nulled notId notNull

end Collections

end DocStore
