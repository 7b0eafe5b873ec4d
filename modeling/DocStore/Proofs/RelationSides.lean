import DocStore.Proofs.ExpandedFields
import DocStore.Proofs.UniqueIds

/-!
# The two sides of a relation

Records can list those that point back at them, and those can show the record that they
point at.  The two sides are expanded in different ways, and agree: a record lists
another one exactly if that one shows it.
-/

namespace DocStore

/-- Whether a field of a collection lists the records of another one that point back at it
by a field of theirs. -/
structure Registry.Mirrors (registry : Registry) (source many target one : String) : Prop where
  lists : ∃ relation, registry.Declares source many relation ∧ relation.kind = .oneToMany ∧
    relation.collection = target ∧ relation.field = one
  pointsBack : ∃ relation, registry.Declares target one relation ∧ relation.kind = .manyToOne ∧
    relation.collection = source ∧ relation.field = idField

/-- A value that is equal to an id is not null. -/
theorem Record.ne_null_of_same {record : Record} {id link : Json} (isId : record.id? = some id)
    (same : link.same id = true) : link ≠ .null := by
  rintro rfl
  exact id?_ne_null isId (Json.same_null_left.1 same)

namespace Collections

variable {collections : Collections} {name : String} {record : Record} {id link : Json}

/-- Records that all have ids are stored once each. -/
theorem Lawful.nodup (lawful : collections.Lawful)
    (identified : ∀ record ∈ collections.records name, ∃ id, record.id? = some id) :
    (collections.records name).Nodup := by
  refine (lawful.idsUnique name).imp_of_mem fun {record other} member _ apart same => ?_
  subst same
  obtain ⟨id, isId⟩ := identified record member
  have holds := Record.hasId_own (lawful.distinctNames name record member) isId
  rw [apart.1 id isId] at holds
  cases holds

/-- A link leads to the record whose id it is equal to, and to no other. -/
theorem Lawful.head?_holding_idField (lawful : collections.Lawful)
    (member : record ∈ collections.records name) (isId : record.id? = some id)
    (distinct : link.DistinctNames) :
    (collections.holding name idField link).head? = some record ↔ link.same id = true := by
  have idDistinct := Record.distinctNames_id? (lawful.distinctNames name record member) isId
  have isGot := (Record.linked?_eq_some.1 isId).1
  constructor
  · intro isHead
    obtain ⟨-, holds⟩ := mem_holding.1 (List.mem_of_mem_head? isHead)
    obtain ⟨own, isOwn, same⟩ := Record.holds_iff.1 holds
    obtain rfl : own = id := Option.some.inj (isOwn.symm.trans isGot)
    exact Json.same_symm idDistinct distinct same
  · intro same
    have isHeld : record ∈ collections.holding name idField link := mem_holding.2
      ⟨member, Record.holds_iff.2 ⟨id, isGot, Json.same_symm distinct idDistinct same⟩⟩
    obtain ⟨first, isFirst⟩ := Option.isSome_iff_exists.1
      (List.isSome_head?.2 (List.ne_nil_of_mem isHeld))
    obtain ⟨firstMember, firstHolds⟩ := mem_holding.1 (List.mem_of_mem_head? isFirst)
    obtain ⟨own, isOwn, sameLink⟩ := Record.holds_iff.1 firstHolds
    have sameId : own.same id = true := Json.same_trans sameLink same
    have notNull : own ≠ .null := Record.ne_null_of_same isId sameId
    have found : first.hasId id = true :=
      Record.hasId_iff.2 ⟨own, Record.linked?_eq_some.2 ⟨isOwn, notNull⟩, sameId⟩
    rw [isFirst, lawful.idsUnique.eq_of_hasId member firstMember isId found]

end Collections

namespace ReferenceGraph

variable {registry : Registry} {collections : Collections}
  {source many target one : String} {record other : Record} {id : Json}

/-- A record lists those that hold its id in the field that points back. -/
theorem get?_expand_many (orderly : registry.Orderly)
    (mirrors : registry.Mirrors source many target one) (isId : record.id? = some id) :
    Fields.get? many ((ofRegistry registry).expand collections 1 source record) =
      some (.array ((collections.holding target one id).map .object)) := by
  obtain ⟨relation, declares, kind, rfl, rfl⟩ := mirrors.lists
  rw [get?_expand_of_declares orderly declares]
  simp only [related?, kind, isId, expand]
  rfl

/-- A record shows the one whose id its link is equal to. -/
theorem get?_expand_one_iff (orderly : registry.Orderly)
    (mirrors : registry.Mirrors source many target one) (lawful : collections.Lawful)
    (stored : record ∈ collections.records source) (isId : record.id? = some id)
    (otherStored : other ∈ collections.records target)
    (noObject : ∀ fields, Fields.get? one other ≠ some (.object fields)) :
    Fields.get? one ((ofRegistry registry).expand collections 1 target other) =
        some (.object record) ↔ other.holds one id = true := by
  obtain ⟨relation, declares, kind, rfl, isKeyed⟩ := mirrors.pointsBack
  rw [get?_expand_of_declares orderly declares]
  simp only [related?, kind, isKeyed, expand]
  have otherDistinct := lawful.distinctNames target other otherStored
  constructor
  · intro shows
    have leads := (Option.or_eq_some_iff.1 shows).resolve_right fun stays => noObject _ stays.2
    obtain ⟨link, isLink, leads⟩ := Option.bind_eq_some_iff.1 leads
    obtain ⟨related, isHead, isRecord⟩ := Option.bind_eq_some_iff.1 leads
    obtain rfl : related = record := by simpa using isRecord
    have isHeld := (Record.linked?_eq_some.1 isLink).1
    have same := (lawful.head?_holding_idField stored isId (otherDistinct.get? isHeld)).1 isHead
    exact Record.holds_iff.2 ⟨link, isHeld, same⟩
  · intro holds
    obtain ⟨link, isHeld, same⟩ := Record.holds_iff.1 holds
    have notNull : link ≠ .null := Record.ne_null_of_same isId same
    have isHead :=
      (lawful.head?_holding_idField stored isId (otherDistinct.get? isHeld)).2 same
    simp [Record.linked?_eq_some.2 ⟨isHeld, notNull⟩, isHead]

/-- A record lists those records that show it, once each and in their order. -/
theorem expand_lists_iff_shows (orderly : registry.Orderly)
    (mirrors : registry.Mirrors source many target one) (lawful : collections.Lawful)
    (identified : ∀ name, ∀ record ∈ collections.records name, ∃ id, record.id? = some id)
    (noObjects : ∀ other ∈ collections.records target, ∀ fields,
      Fields.get? one other ≠ some (.object fields))
    (stored : record ∈ collections.records source) :
    ∃ listed : List Record,
      Fields.get? many ((ofRegistry registry).expand collections 1 source record) =
          some (.array (listed.map .object)) ∧
        listed.Sublist (collections.records target) ∧ listed.Nodup ∧
        ∀ other ∈ collections.records target, other ∈ listed ↔
          Fields.get? one ((ofRegistry registry).expand collections 1 target other) =
            some (.object record) := by
  obtain ⟨id, isId⟩ := identified source record stored
  have inOrder : (collections.holding target one id).Sublist (collections.records target) :=
    List.filter_sublist
  refine ⟨_, get?_expand_many orderly mirrors isId, inOrder,
    (lawful.nodup (identified target)).sublist inOrder, fun other otherStored => ?_⟩
  rw [get?_expand_one_iff orderly mirrors lawful stored isId otherStored
    (noObjects other otherStored), Collections.mem_holding]
  exact and_iff_right otherStored

/-- The schema of a collection with one field, which has a relation. -/
def relatedSchema (name field : String) (relation : Relation) : Schema where
  name := name
  fields := [(field, (Field.ofTypes [.any]).withRules ({ · with relation := some relation }))]

/-- The schemas of authors, who have books, and of books, which have an author. -/
def library : Registry :=
  Registry.registerAll {}
    [relatedSchema "authors" "books" (.oneToMany "books" "author"),
      relatedSchema "books" "author" (.manyToOne "authors")]

theorem all_library : library.all =
    [relatedSchema "authors" "books" (.oneToMany "books" "author"),
      relatedSchema "books" "author" (.manyToOne "authors")] := by
  rfl

theorem mirrors_library : library.Mirrors "authors" "books" "books" "author" where
  lists := ⟨_, ⟨_, by rw [all_library]; exact List.mem_cons_self, rfl, List.mem_cons_self⟩,
    rfl, rfl, rfl⟩
  pointsBack := ⟨_, ⟨_, by rw [all_library]; exact List.mem_cons_of_mem _ List.mem_cons_self, rfl,
    List.mem_cons_self⟩, rfl, rfl, rfl⟩

/-- An author. -/
def austen : Record :=
  [(idField, .ofInt 1), ("name", .string "Austen")]

/-- The author, two of her books, one of which points at her with the double `1.0`, and two
books that lead to no author. -/
def holdings : Collections :=
  (SortedMap.insert .empty "authors" [austen]).insert "books"
    [[(idField, .ofInt 7), ("author", .ofInt 1)], [(idField, .ofInt 8), ("author", .null)],
      [(idField, .ofInt 5), ("author", .number (.double (Number.ofInt 1).toDouble))],
      [(idField, .ofInt 6), ("author", .ofInt 3)]]

theorem lawful_holdings : holdings.Lawful := by
  refine Collections.Lawful.insert (.insert Collections.lawful_empty ?_ ?_ _) ?_ ?_ _
  · decide +kernel
  · simp [Json.DistinctNames, Json.DistinctNames.DistinctNamesFields, austen, idField, Json.ofInt]
  · decide +kernel
  · simp [Json.DistinctNames, Json.DistinctNames.DistinctNamesFields, idField, Json.ofInt]

theorem identified_holdings (name : String) :
    ∀ record ∈ holdings.records name, ∃ id, record.id? = some id := by
  simp only [holdings, Collections.records_insert, Collections.records_empty]
  split_ifs <;> simp [austen, Record.id?, Record.linked?, Fields.get?, Json.ofInt]

/-- The author lists the two books that show her, however they write her id. -/
theorem expand_lists_two_books :
    ∃ listed : List Record,
      Fields.get? "books" ((ofRegistry library).expand holdings 1 "authors" austen) =
          some (.array (listed.map .object)) ∧
        listed.Sublist (holdings.records "books") ∧ listed.Nodup ∧ listed.length = 2 ∧
        ∀ other ∈ holdings.records "books", other ∈ listed ↔
          Fields.get? "author" ((ofRegistry library).expand holdings 1 "books" other) =
            some (.object austen) := by
  have distinct (name field : String) (relation : Relation) :
      ((relatedSchema name field relation).fields.map Prod.fst).Nodup := by simp [relatedSchema]
  have orderly : library.Orderly :=
    (Registry.orderly_empty.register (distinct ..)).register (distinct ..)
  have noObjects : ∀ other ∈ holdings.records "books", ∀ fields,
      Fields.get? "author" other ≠ some (.object fields) := by
    simp [holdings, Fields.get?, idField, Json.ofInt]
  have stored : austen ∈ holdings.records "authors" := by
    simp [holdings, Collections.records_insert]
  obtain ⟨listed, isListed, inOrder, once, agrees⟩ :=
    expand_lists_iff_shows orderly mirrors_library lawful_holdings identified_holdings noObjects
      stored
  refine ⟨listed, isListed, inOrder, once, ?_, agrees⟩
  have isId : austen.id? = some (.ofInt 1) := rfl
  have isHeld := get?_expand_many orderly mirrors_library isId ▸ isListed
  have same : (holdings.holding "books" "author" (.ofInt 1)).map Json.object =
      listed.map .object := by simpa using isHeld
  have two : (holdings.holding "books" "author" (.ofInt 1)).length = 2 := by decide +kernel
  rw [← two, ← List.length_map Json.object, ← same, List.length_map]

end ReferenceGraph

end DocStore
