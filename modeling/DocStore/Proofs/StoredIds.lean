import DocStore.Proofs.DeletionSteps

/-!
# Stored ids

Which ids a collection holds after a field of a record is given a value, and after a
record is removed.  The steps of a deletion bring in no new id, as long as no default is
given to a field `id`; where an id finds its own record only, they take none away but
that of the removed record.
-/

namespace DocStore

/-- Whether no delete policy gives a default to the ids of a collection. -/
def ReferenceGraph.KeepsIds (graph : ReferenceGraph) (name : String) : Prop :=
  ∀ owner, ∀ dependent ∈ graph.dependentsOf owner, dependent.onDelete = some .setDefault →
    dependent.collection = name → dependent.field ≠ idField

theorem ReferenceGraph.keepsIds_of_declared {graph : ReferenceGraph}
    (declared : ∀ pair ∈ graph.references.flatMap Reference.dependents,
      pair.2.onDelete = some .setDefault → pair.2.field ≠ idField) (name : String) :
    graph.KeepsIds name := by
  intro owner dependent member defaults _
  obtain ⟨⟨collection, declaredDependent⟩, isDeclared, isOwn⟩ := List.mem_filterMap.1 member
  simp only at isOwn
  split_ifs at isOwn
  obtain rfl := Option.some.inj isOwn
  exact declared _ isDeclared defaults

theorem ReferenceRules.Gives.keepsId {rules : ReferenceRules} {dependent : Dependent}
    {value : Json} (gives : rules.Gives dependent value)
    (keeps : rules.graph.KeepsIds dependent.collection) :
    dependent.field ≠ idField ∨ value = .null := by
  cases gives with
  | null => exact .inr rfl
  | drawn member defaults => exact .inl (keeps _ _ member defaults rfl)

/-- A record that is given a value keeps its id, or gets the one that it was found by. -/
theorem Record.id?_given {record : Record} {field : String} {id value : Json}
    (found : record.hasId id = true) (keeps : field ≠ idField ∨ value = .null) :
    (identifiedBy (Fields.putAll record [(field, value)]) id).id? = record.id? ∨
      (identifiedBy (Fields.putAll record [(field, value)]) id).id? = some id := by
  obtain ⟨own, isOwn, -⟩ := hasId_iff.1 found
  have notNull := ne_null_of_hasId found
  have put : Fields.putAll record [(field, value)] = Fields.put field value record := rfl
  rw [put, id?_identifiedBy _ notNull]
  by_cases isId : field = idField
  · right
    obtain rfl := keeps.resolve_left (not_not.2 isId)
    have gone : id? (Fields.put field .null record) = none := by
      rw [isId, id?, linked?, Fields.get?_put_self]
    rw [gone, Option.getD_none]
  · left
    have stays : id? (Fields.put field value record) = record.id? :=
      linked?_congr (Fields.get?_put_of_ne isId _ _)
    rw [stays, isOwn, Option.getD_some]

namespace Collections

variable {collections origin : Collections} {name other field : String} {id otherId value : Json}

theorem records_applied_remove (collections : Collections) (name other : String) (id : Json) :
    (Edit.applied (remove name id) collections).records other =
      if name = other then (collections.records name).eraseP (·.hasId id)
      else collections.records other := by
  unfold Edit.applied remove
  by_cases known : (collections.records name).any (·.hasId id) = true
  · simp only [known, if_true]
    exact records_insert collections other name _
  · have absent : ∀ record ∈ collections.records name, ¬ record.hasId id = true := by
      simpa using known
    simp only [known, Bool.false_eq_true, if_false, List.eraseP_of_forall_not absent]
    split_ifs with same
    · rw [same]
    · rfl

theorem records_applied_update_of_ne (different : name ≠ other) (id : Json) (patch : Record)
    (collections : Collections) :
    (Edit.applied (update name id patch) collections).records other =
      collections.records other := by
  have outcome := amend_outcome collections name id (·.putAll patch)
  unfold Edit.applied update
  generalize amend name id (·.putAll patch) collections = result at outcome
  cases outcome with
  | missing => rfl
  | taken => rfl
  | changed => exact records_insert_of_ne different _ _

theorem Stores.of_remove (stored : (Edit.applied (remove name id) collections).Stores other otherId) :
    collections.Stores other otherId := by
  obtain ⟨record, member, isId⟩ := stored
  rw [records_applied_remove] at member
  split_ifs at member with same
  · exact ⟨record, same ▸ List.mem_of_mem_eraseP member, isId⟩
  · exact ⟨record, member, isId⟩

theorem Stores.remove (stored : collections.Stores other otherId)
    (different : name = other → otherId.same id = false) :
    (Edit.applied (remove name id) collections).Stores other otherId := by
  obtain ⟨record, member, isId⟩ := stored
  refine ⟨record, ?_, isId⟩
  rw [records_applied_remove]
  split_ifs with same
  · rw [List.mem_eraseP_of_neg]
    · exact same ▸ member
    · simp [Record.hasId, isId, different same]
  · exact member

/-- Giving a field a value brings in no id but the one that the record was asked for
by. -/
theorem Stores.of_update (keeps : field ≠ idField ∨ value = .null)
    (stored : (Edit.applied (update name id [(field, value)]) collections).Stores other otherId) :
    collections.Stores other otherId ∨ other = name ∧ otherId = id := by
  have outcome := amend_outcome collections name id (·.putAll [(field, value)])
  unfold Edit.applied update at stored
  generalize amend name id (·.putAll [(field, value)]) collections = result at outcome stored
  cases outcome with
  | missing => exact .inl stored
  | taken => exact .inl stored
  | changed split first found free =>
      obtain ⟨record, member, isId⟩ := stored
      simp only [records_insert] at member
      split_ifs at member with same
      · subst same
        rw [List.mem_append, List.mem_cons] at member
        rcases member with before | rfl | after
        · exact .inl ⟨record, by simp [split, before], isId⟩
        · rcases Record.id?_given found keeps with stays | asked
          · exact .inl ⟨_, by rw [split]; simp, stays.symm.trans isId⟩
          · exact .inr ⟨rfl, Option.some.inj (isId.symm.trans asked)⟩
        · exact .inl ⟨record, by simp [split, after], isId⟩
      · exact .inl ⟨record, member, isId⟩

/-- Giving a field a value takes no id away, if the id that the record was asked for by
is equal to no other one. -/
theorem Stores.update (keeps : field ≠ idField ∨ value = .null)
    (exact : ∀ own, collections.Stores name own → own.same id = true → own = id)
    (stored : collections.Stores other otherId) :
    (Edit.applied (update name id [(field, value)]) collections).Stores other otherId := by
  have outcome := amend_outcome collections name id (·.putAll [(field, value)])
  unfold Edit.applied Collections.update
  generalize amend name id (·.putAll [(field, value)]) collections = result at outcome
  cases outcome with
  | missing => exact stored
  | taken => exact stored
  | @changed before after found split first holds free =>
      have sameId : (Record.identifiedBy (Fields.putAll found [(field, value)]) id).id? =
          found.id? := by
        obtain ⟨own, isOwn, same⟩ := Record.hasId_iff.1 holds
        rcases Record.id?_given holds keeps with stays | asked
        · exact stays
        · rw [asked, isOwn, exact own ⟨found, by simp [split], isOwn⟩ same]
      obtain ⟨record, member, isId⟩ := stored
      unfold Stores
      simp only [records_insert]
      split_ifs with same
      · subst same
        rw [split, List.mem_append, List.mem_cons] at member
        rcases member with before | rfl | after
        · exact ⟨record, by simp [before], isId⟩
        · exact ⟨_, by simp, sameId.trans isId⟩
        · exact ⟨record, by simp [after], isId⟩
      · exact ⟨record, member, isId⟩

/-- Equal ids of a collection are one id. -/
theorem IdsUnique.eq_of_same (unique : origin.IdsUnique) (stored : origin.Stores name id)
    (otherStored : origin.Stores name otherId) (same : id.same otherId = true) :
    id = otherId := by
  obtain ⟨record, member, isId⟩ := stored
  obtain ⟨other, otherMember, isOther⟩ := otherStored
  have found : record.hasId otherId = true := Record.hasId_iff.2 ⟨id, isId, same⟩
  obtain rfl : other = record := unique.eq_of_hasId otherMember member isOther found
  exact Option.some.inj (isId.symm.trans isOther)

theorem Stores.isSome_find? (stored : collections.Stores name id) (distinct : id.DistinctNames) :
    (collections.find? name id).isSome = true := by
  obtain ⟨record, member, isId⟩ := stored
  refine List.find?_isSome.2 ⟨record, member, ?_⟩
  exact Record.hasId_iff.2 ⟨id, isId, Json.same_refl id distinct⟩

/-- In lawful collections nothing is found by an id whose record has been removed. -/
theorem Lawful.find?_applied_remove (lawful : collections.Lawful) (distinct : id.DistinctNames) :
    (Edit.applied (remove name id) collections).find? name id = none := by
  refine find?_eq_none.2 fun record member => ?_
  rw [records_applied_remove, if_pos rfl] at member
  by_cases known : ∃ found ∈ collections.records name, found.hasId id = true
  · obtain ⟨found, isFound, holds⟩ := known
    obtain ⟨gone, before, after, -, goneHolds, split, erased⟩ :=
      List.exists_of_eraseP (p := (·.hasId id)) isFound holds
    rw [erased] at member
    exact lawful.hasId_eq_false_of_split split goneHolds distinct record member
  · exact Bool.eq_false_iff.2 fun holds => known ⟨record, List.mem_of_mem_eraseP member, holds⟩

end Collections

end DocStore
