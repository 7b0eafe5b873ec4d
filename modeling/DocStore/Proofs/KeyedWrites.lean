import DocStore.Proofs.SaveJournal
import DocStore.Proofs.UniqueIds
import DocStore.Storage.Memory

/-!
# Writes by id

A collection with unique ids is an ordered map from ids to records, equal ids being one
key.  Every call that writes a record by its id exchanges at most one record for at most
one other: the keys of the new record find it, those that only the old one had find
nothing, and for all others, in all collections, nothing is changed, nor in the order.
-/

namespace DocStore

namespace Collections

variable {collections before after : Collections} {name : String} {id : Json}

/-- What a write by id comes to: at one place of a collection the record `old`, if any,
gives way to the record `new`, if any. -/
structure Exchange (before after : Collections) (name : String) (old new : Option Record) :
    Prop where
  /-- The new record takes the place of the old one, or the last place. -/
  inPlace : ∃ front back, before.records name = front ++ old.toList ++ back ∧
    after.records name = front ++ new.toList ++ back ∧ (old = none → new ≠ none → back = [])
  others : ∀ other, other ≠ name → after.get? other = before.get? other
  ownId : ∀ record ∈ new, ∃ own, record.id? = some own ∧ after.find? name own = some record
  found : ∀ record ∈ new, ∀ key : Json, key.DistinctNames → record.hasId key = true →
    after.find? name key = some record
  gone : ∀ record ∈ old, ∀ key : Json, key.DistinctNames → record.hasId key = true →
    (∀ changed ∈ new, changed.hasId key = false) → after.find? name key = none
  kept : ∀ key : Json, (∀ record ∈ old, record.hasId key = false) →
    (∀ record ∈ new, record.hasId key = false) → after.find? name key = before.find? name key

/-- Between lawful collections the order of the records settles what keys find. -/
theorem Lawful.exchange {front back : List Record} {old new : Option Record}
    (lawful : before.Lawful) (afterLawful : after.Lawful)
    (was : before.records name = front ++ old.toList ++ back)
    (is : after.records name = front ++ new.toList ++ back)
    (last : old = none → new ≠ none → back = [])
    (others : ∀ other, other ≠ name → after.get? other = before.get? other)
    (hasOwnId : ∀ record ∈ new, ∃ own, record.id? = some own) :
    Exchange before after name old new where
  inPlace := ⟨front, back, was, is, last⟩
  others := others
  ownId := by
    rintro record isNew
    obtain ⟨own, isOwn⟩ := hasOwnId record isNew
    have member : record ∈ after.records name := by simp [is, Option.mem_def.1 isNew]
    exact ⟨own, isOwn, afterLawful.find?_of_mem member isOwn⟩
  found := by
    rintro record isNew key distinct holds
    have member : record ∈ after.records name := by simp [is, Option.mem_def.1 isNew]
    exact afterLawful.find?_of_hasId member distinct holds
  gone := by
    rintro record isOld key distinct holds notNew
    obtain rfl := Option.mem_def.1 isOld
    have split : before.records name = front ++ record :: back := by simpa using was
    have onlyOne := lawful.hasId_eq_false_of_split split holds distinct
    refine find?_eq_none.2 fun other member => ?_
    rw [is, List.mem_append, List.mem_append, Option.mem_toList] at member
    rcases member with (inFront | isNew) | inBack
    · exact onlyOne other (List.mem_append_left _ inFront)
    · exact notNew other isNew
    · exact onlyOne other (List.mem_append_right _ inBack)
  kept := by
    intro key notOld notNew
    have noOld : old.toList.find? (·.hasId key) = none := by simpa using notOld
    have noNew : new.toList.find? (·.hasId key) = none := by simpa using notNew
    simp only [find?, was, is, List.find?_append, noOld, noNew]

theorem Lawful.exchange_none (lawful : collections.Lawful) (name : String) :
    Exchange collections collections name none none :=
  have records : collections.records name =
      collections.records name ++ Option.toList none ++ [] := by simp
  lawful.exchange lawful records records (fun _ isNew => absurd rfl isNew) (fun _ _ => rfl)
    (fun _ isNew => nomatch isNew)

theorem get?_insert_of_ne {other : String} (different : other ≠ name) (collections : Collections)
    (records : List Record) :
    SortedMap.get? (collections.insert name records) other = collections.get? other := by
  rw [SortedMap.get?_insert, if_neg (Ne.symm different)]

/-- An amendment that is not refused exchanges the record that the id finds, if there is
one, for its amended version. -/
theorem Lawful.exchange_amend (lawful : collections.Lawful) {change : Record → Record}
    {answer : Option Record} {made : Option Collections}
    (amended : amend name id change collections = .ok (answer, made))
    (afterLawful : (made.getD collections).Lawful) :
    answer = (collections.find? name id).map (fun record => (change record).identifiedBy id) ∧
      Exchange collections (made.getD collections) name (collections.find? name id) answer := by
  have outcome := amend_outcome collections name id change
  rw [amended] at outcome
  cases outcome with
  | missing absent =>
      rw [find?_eq_none.2 absent]
      exact ⟨rfl, lawful.exchange_none name⟩
  | @changed front back record split first found free =>
      rw [find?_of_split split first found]
      have was : collections.records name = front ++ (some record).toList ++ back := by
        simp [split]
      refine ⟨rfl, lawful.exchange afterLawful was (by simp) (by simp) ?_ ?_⟩
      · exact fun other different => get?_insert_of_ne different collections _
      · rintro written ⟨⟩
        exact ⟨_, Record.id?_identifiedBy _ (Record.ne_null_of_hasId found)⟩

/-- A removal takes the record that the id finds, if there is one. -/
theorem Lawful.exchange_remove (lawful : collections.Lawful) {answer : Bool}
    {made : Option Collections} (removed : remove name id collections = .ok (answer, made))
    (afterLawful : (made.getD collections).Lawful) :
    answer = (collections.find? name id).isSome ∧
      Exchange collections (made.getD collections) name (collections.find? name id) none := by
  simp only [remove] at removed
  split_ifs at removed with known
  · obtain ⟨rfl, rfl⟩ := Prod.mk.inj (Except.ok.inj removed)
    obtain ⟨stored, member, holdsStored⟩ := List.any_eq_true.1 known
    obtain ⟨record, front, back, first, holds, split, erased⟩ :=
      List.exists_of_eraseP (p := (·.hasId id)) member holdsStored
    have found : collections.find? name id = some record :=
      find?_of_split split (fun other inFront => by simpa using first other inFront) holds
    rw [found]
    have was : collections.records name = front ++ (some record).toList ++ back := by
      simp [split]
    refine ⟨rfl, lawful.exchange afterLawful was (by simp [erased]) (by simp) ?_ (by simp)⟩
    exact fun other different => get?_insert_of_ne different collections _
  · obtain ⟨rfl, rfl⟩ := Prod.mk.inj (Except.ok.inj removed)
    have absent : collections.find? name id = none := find?_eq_none.2 (by simpa using known)
    rw [absent]
    exact ⟨rfl, lawful.exchange_none name⟩

/-- A record that is added with its own id comes last. -/
theorem Lawful.exchange_add (lawful : collections.Lawful) {record added : Record}
    {made : Option Collections} (ownId : record.id? = some id)
    (done : add name record collections = .ok (added, made))
    (afterLawful : (made.getD collections).Lawful) :
    added = record ∧ Exchange collections (made.getD collections) name none (some record) := by
  obtain ⟨rfl, ⟨rfl, -⟩ | ⟨-, noId, -⟩⟩ := add_ok done
  · have was : collections.records name =
        collections.records name ++ Option.toList none ++ [] := by simp
    refine ⟨rfl, lawful.exchange afterLawful was (by simp) (by simp) ?_ ?_⟩
    · exact fun other different => get?_insert_of_ne different collections _
    · rintro written ⟨⟩
      exact ⟨id, ownId⟩
  · rw [ownId] at noId
    cases noId

end Collections

namespace StoreCall

variable {A : Type} [Adapter A]

/-- Whether a call writes a record of a collection by its id; one that is added brings its
own. -/
def WritesById (name : String) : StoreCall → Prop
  | add other record => other = name ∧ ∃ id, record.id? = some id
  | update other _ _ => other = name
  | replace other _ _ => other = name
  | remove other _ => other = name
  | create _ => False
  | swap _ => False

/-- Whether the names of every object among the arguments are distinct. -/
def DistinctNames : StoreCall → Prop
  | create _ => True
  | add _ record => (Json.object record).DistinctNames
  | update _ id patch => id.DistinctNames ∧ (Json.object patch).DistinctNames
  | replace _ id record => id.DistinctNames ∧ (Json.object record).DistinctNames
  | remove _ id => id.DistinctNames
  | swap incoming =>
    ∀ name, ∀ record ∈ incoming.records name, (Json.object record).DistinctNames

/-- Which record a call that writes by id exchanges for which, and what it answers. -/
def Writes (collections : Collections) (old new : Option Record) :
    (call : StoreCall) → call.Answer → Prop
  | add _ record, answer => old = none ∧ new = some record ∧ answer = record
  | update name id patch, answer =>
    old = collections.find? name id ∧ answer = new ∧
      new = old.map fun record => Record.identifiedBy (Fields.putAll record patch) id
  | replace name id record, answer =>
    old = collections.find? name id ∧ answer = new ∧
      new = old.map fun _ => record.identifiedBy id
  | remove name id, answer =>
    old = collections.find? name id ∧ new = none ∧ answer = old.isSome
  | create _, _ => False
  | swap _, _ => False

theorem lawful_applied {collections : Collections} {call : StoreCall} {name : String}
    (lawful : collections.Lawful) (byId : call.WritesById name) (distinct : call.DistinctNames) :
    (Edit.applied call.edit collections).Lawful := by
  cases call with
  | create => exact byId.elim
  | swap => exact byId.elim
  | add other record =>
      obtain ⟨-, id, ownId⟩ := byId
      exact Collections.lawful_add lawful distinct (by simp [ownId])
  | update other id patch => exact Collections.lawful_update lawful other distinct.1 distinct.2
  | replace other id record => exact Collections.lawful_replace lawful other distinct.1 distinct.2
  | remove other id => exact Collections.lawful_remove lawful other id

/-- A call by id that does not fail exchanges the record which the id finds, if any, for
the record that is written, if any, and leaves the ids unique. -/
theorem run_exchanges {store after : Store A} {call : StoreCall} {answer : call.Answer}
    {name : String} (lawful : store.collections.Lawful) (byId : call.WritesById name)
    (distinct : call.DistinctNames) (ran : call.run.outcome store = (.ok answer, after)) :
    after.collections.Lawful ∧ ∃ old new, call.Writes store.collections old new answer ∧
      Collections.Exchange store.collections after.collections name old new := by
  rw [run_eq_commit] at ran
  obtain ⟨made, edited, isAfter⟩ := Store.commit_ok ran
  have afterLawful : (made.getD store.collections).Lawful := by
    have applied := lawful_applied lawful byId distinct
    rw [Edit.applied, edited] at applied
    cases made <;> exact applied
  rw [isAfter]
  refine ⟨afterLawful, ?_⟩
  cases call with
  | create => exact byId.elim
  | swap => exact byId.elim
  | add other record =>
      obtain ⟨rfl, id, ownId⟩ := byId
      obtain ⟨isAnswer, exchange⟩ := lawful.exchange_add ownId edited afterLawful
      exact ⟨none, some record, ⟨rfl, rfl, isAnswer⟩, exchange⟩
  | update other id patch =>
      obtain rfl : other = name := byId
      obtain ⟨isAnswer, exchange⟩ := lawful.exchange_amend edited afterLawful
      exact ⟨_, answer, ⟨rfl, rfl, isAnswer⟩, exchange⟩
  | replace other id record =>
      obtain rfl : other = name := byId
      obtain ⟨isAnswer, exchange⟩ := lawful.exchange_amend edited afterLawful
      exact ⟨_, answer, ⟨rfl, rfl, isAnswer⟩, exchange⟩
  | remove other id =>
      obtain rfl : other = name := byId
      obtain ⟨isAnswer, exchange⟩ := lawful.exchange_remove edited afterLawful
      exact ⟨_, none, ⟨rfl, rfl, isAnswer⟩, exchange⟩

/-- A shelf of two books, with a leaf between them that has no id. -/
def shelf : Store Memory :=
  { collections := SortedMap.insert .empty "books"
      [[(idField, .ofInt 1), ("title", .string "Emma")], [("title", .string "Loose leaf")],
        [(idField, .ofInt 2), ("title", .string "Persuasion")]]
    storage := {}
    key := "library" }

theorem shelf_lawful : shelf.collections.Lawful := by
  apply Collections.lawful_empty.insert
  · decide +kernel
  · simp [Json.DistinctNames, Json.DistinctNames.DistinctNamesFields, idField, Json.ofInt]

/-- The call that gives the first book, asked for by the double `1.0`, a text for an id. -/
abbrev rekeying : StoreCall :=
  update "books" (.number (.double ⟨false, Double.leastNormal, 1022, by decide⟩))
    [(idField, .string "emma")]

/-- The first book is found by its new id alone, and the second one as before. -/
theorem run_exchanges_rekeyed :
    ∃ renamed after, rekeying.run.outcome shelf = (.ok (some renamed), after) ∧
      after.collections.find? "books" (.string "emma") = some renamed ∧
      after.collections.find? "books" (.ofInt 1) = none ∧
      after.collections.find? "books" (.ofInt 2) = shelf.collections.find? "books" (.ofInt 2) := by
  have byId : rekeying.WritesById "books" := rfl
  have distinct : rekeying.DistinctNames := by
    simp [DistinctNames, Json.DistinctNames, Json.DistinctNames.DistinctNamesFields]
  have answers : (rekeying.run.outcome shelf).1.toOption.map (fun answer : Option Record =>
      answer.map fun renamed => (renamed.hasId (.string "emma"), renamed.hasId (.ofInt 1),
        renamed.hasId (.ofInt 2))) = some (some (true, false, false)) := by decide +kernel
  have addressed : (shelf.collections.find? "books"
      (.number (.double ⟨false, Double.leastNormal, 1022, by decide⟩))).map (fun record =>
        (record.hasId (.ofInt 1), record.hasId (.ofInt 2))) = some (true, false) := by
    decide +kernel
  rcases ran : rekeying.run.outcome shelf with ⟨failure | answer, after⟩
  · rw [ran] at answers
    cases answers
  · obtain ⟨-, old, new, ⟨isOld, isNew, -⟩, exchange⟩ :=
      run_exchanges shelf_lawful byId distinct ran
    rw [ran] at answers
    obtain ⟨renamed, isAnswer, isEmma⟩ := Option.map_eq_some_iff.1 (Option.some.inj answers)
    obtain ⟨first, isFirst, wasFirst⟩ := Option.map_eq_some_iff.1 addressed
    simp only [Prod.mk.injEq] at isEmma wasFirst
    obtain rfl : some renamed = new := isAnswer ▸ isNew
    obtain rfl : old = some first := isOld.trans isFirst
    refine ⟨renamed, after, by rw [isAnswer], ?_, ?_, ?_⟩
    · exact exchange.found renamed rfl _ trivial isEmma.1
    · exact exchange.gone first rfl _ trivial wasFirst.1 (by simpa using isEmma.2.1)
    · exact exchange.kept _ (by simpa using wasFirst.2) (by simpa using isEmma.2.2)

end StoreCall

end DocStore
