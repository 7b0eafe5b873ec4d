import DocStore.Proofs.LawfulUpkeep
import DocStore.Proofs.RecordSubstitution
import DocStore.Proofs.SaveJournal
import Mathlib.Algebra.BigOperators.Group.Finset.Basic

/-!
# Records that follow a new id

Where no save fails, the records that follow a new id come out as by one simultaneous
substitution, although they are found before the first change and then given the new id
one by one and field by field.
-/

namespace DocStore

namespace Journaled

variable {A : Type} {before middle after : Journaled A}

/-- Whether one of the saves since has failed. -/
def FailedSince (before after : Journaled A) : Prop :=
  ∃ saves, after.journal = saves ++ before.journal ∧ ∃ save ∈ saves, save.succeeded = false

theorem FailedSince.of_suffix (grown : before.journal <:+ middle.journal)
    (failed : middle.FailedSince after) : before.FailedSince after := by
  obtain ⟨saves, journal⟩ := grown
  obtain ⟨later, laterJournal, save, isLater, notSucceeded⟩ := failed
  exact ⟨later ++ saves, by rw [laterJournal, ← journal, List.append_assoc], save,
    List.mem_append_left _ isLater, notSucceeded⟩

end Journaled

namespace Dependent

/-- The places of the fields that get a new key. -/
def cascadingPlaces (dependents : List Dependent) : Finset (String × String) :=
  ((dependents.filter (·.onUpdate = some .cascade)).map fun dependent =>
    (dependent.collection, dependent.field)).toFinset

variable {dependent : Dependent} {dependents : List Dependent}

theorem cascadingPlaces_cons_undeclared (undeclared : dependent.onUpdate = none) :
    cascadingPlaces (dependent :: dependents) = cascadingPlaces dependents := by
  simp [cascadingPlaces, undeclared]

theorem cascadingPlaces_cons_cascade (cascades : dependent.onUpdate = some .cascade) :
    cascadingPlaces (dependent :: dependents) =
      insert (dependent.collection, dependent.field) (cascadingPlaces dependents) := by
  simp [cascadingPlaces, cascades]

end Dependent

/-- The places of the fields that get a new id of a collection. -/
def ReferenceGraph.idPlaces (graph : ReferenceGraph) (collection : String) :
    Finset (String × String) :=
  Dependent.cascadingPlaces ((graph.dependentsOf collection).filter (·.key = idField))

/-- How many records with ids hold a value at a place. -/
def Collections.followerCount (collections : Collections) (value : Json)
    (place : String × String) : Nat :=
  (collections.holding place.1 place.2 value).countP (·.id?.isSome)

namespace Workspace

variable {A α β : Type}

/-- Whether an attempt comes to an answer and to given collections, unless a save fails. -/
inductive Makes (attempt : Attempt (Workspace (Journaled A)) α)
    (space : Workspace (Journaled A)) (answer : α) (made : Collections) : Prop where
  | done {after : Workspace (Journaled A)} (ran : attempt.outcome space = (.ok answer, after))
      (isMade : after.store.collections = made)
      (grown : space.store.storage.journal <:+ after.store.storage.journal)
  | unsaved {failure : Failure} {after : Workspace (Journaled A)}
      (ran : attempt.outcome space = (.error failure, after))
      (failed : space.store.storage.FailedSince after.store.storage)

namespace Makes

variable {space : Workspace (Journaled A)} {answer : α} {made : Collections}

theorem pure (answer : α) (space : Workspace (Journaled A)) :
    Makes (Pure.pure answer) space answer space.store.collections :=
  .done rfl rfl List.suffix_rfl

theorem bind {first : Attempt (Workspace (Journaled A)) α}
    {next : α → Attempt (Workspace (Journaled A)) β} {last : β} {lastMade : Collections}
    (firstMakes : Makes first space answer made)
    (nextMakes : ∀ middle, middle.store.collections = made →
      Makes (next answer) middle last lastMade) :
    Makes (first >>= next) space last lastMade := by
  cases firstMakes with
  | @unsaved failure middle ran failed =>
      have stops : (first >>= next).outcome space = (.error failure, middle) := by
        rw [Attempt.bind_outcome, ran]
      exact .unsaved stops failed
  | @done middle ran isMade grown =>
      cases nextMakes middle isMade with
      | done nextRan nextMade nextGrown =>
          refine .done ?_ nextMade (grown.trans nextGrown)
          rw [Attempt.bind_outcome, ran]
          exact nextRan
      | @unsaved failure after nextRan failed =>
          have stops : (first >>= next).outcome space = (.error failure, after) := by
            rw [Attempt.bind_outcome, ran]
            exact nextRan
          exact .unsaved stops (failed.of_suffix grown)

/-- Where no save fails, there is an answer. -/
theorem of_saved {attempt : Attempt (Workspace (Journaled A)) α}
    (makes : Makes attempt space answer made)
    (saved : ¬ space.store.storage.FailedSince (attempt.outcome space).2.store.storage) :
    (attempt.outcome space).1 = .ok answer ∧
      (attempt.outcome space).2.store.collections = made := by
  cases makes with
  | done ran isMade => exact ⟨congrArg Prod.fst ran, by rwa [ran]⟩
  | unsaved ran failed =>
      rw [ran] at saved
      exact absurd failed saved

end Makes

variable [Adapter A] {rules : ReferenceRules} {space : Workspace (Journaled A)}
  {dependent : Dependent} {id old new : Json}

/-- An edit with an effect is made and saved. -/
theorem onStore_makes {edit : Edit α} {answer : α} {changed : Collections}
    (edits : edit space.store.collections = .ok (answer, some changed)) :
    Makes (onStore (Store.commit edit)) space answer changed := by
  have journal := Store.persist_journal { space.store with collections := changed }
  have unsaved := Store.persist_error_iff { space.store with collections := changed }
  have ran : (onStore (Store.commit edit)).outcome space =
      ((Store.persist.outcome { space.store with collections := changed }).1.map fun _ => answer,
        { space with
          store := (Store.persist.outcome { space.store with collections := changed }).2 }) := by
    rw [onStore, Attempt.onPart_outcome, Store.commit_made edits]
  cases persisted : (Store.persist.outcome { space.store with collections := changed }).1 with
  | ok _ =>
      rw [persisted] at ran
      exact .done ran rfl ⟨[_], journal.symm⟩
  | error failure =>
      rw [persisted] at ran unsaved
      obtain ⟨problem, rfl⟩ := Store.persist_error (Prod.ext persisted rfl)
      exact .unsaved ran ⟨[_], journal, _, List.mem_singleton_self _, unsaved.1 ⟨problem, rfl⟩⟩

theorem setField_makes (lawful : space.Lawful) (distinct : id.DistinctNames)
    (notId : dependent.field ≠ idField)
    (known : ∃ record ∈ space.store.collections.records dependent.collection,
      record.hasId id = true) (value : Json) :
    Makes (setField dependent id value) space true (space.store.collections.mapRecords
      (Collections.giving dependent.collection dependent.field value [id])) := by
  obtain ⟨changed, updated⟩ :=
    Collections.Lawful.update_eq lawful distinct notId known value
  apply (onStore_makes updated).bind
  intro middle isMade
  exact isMade ▸ Makes.pure true middle

theorem followOne_makes (rules : ReferenceRules) (old : Json) (matching : List Record)
    (lawful : space.Lawful) (distinct : id.DistinctNames)
    (notId : dependent.field ≠ idField)
    (known : ∃ record ∈ space.store.collections.records dependent.collection,
      record.hasId id = true) :
    Makes (followOne rules ⟨⟨dependent, old, new⟩, .cascade, matching⟩ id) space 1
      (space.store.collections.mapRecords
        (Collections.giving dependent.collection dependent.field new [id])) := by
  apply (Makes.pure (some new) space).bind
  intro middle sameCollections
  have middleLawful : middle.Lawful := by
    rwa [Lawful, sameCollections]
  rw [← sameCollections] at known ⊢
  apply (setField_makes middleLawful distinct notId known new).bind
  intro after isMade
  exact isMade ▸ Makes.pure 1 after

/-- The records that are found come out changed all at once. -/
theorem followIds_makes (rules : ReferenceRules) (old : Json) (matching : List Record)
    {ids : List Json} (lawful : space.Lawful)
    (newDistinct : new.DistinctNames) (notId : dependent.field ≠ idField)
    (known : ∀ id ∈ ids, id.DistinctNames ∧
      ∃ record ∈ space.store.collections.records dependent.collection, record.hasId id = true)
    (count : Nat) :
    Makes (ids.foldlM (fun count id => do
        return count + (← followOne rules ⟨⟨dependent, old, new⟩, .cascade, matching⟩ id)) count)
      space (count + ids.length) (space.store.collections.mapRecords
        (Collections.giving dependent.collection dependent.field new ids)) := by
  induction ids generalizing space count with
  | nil =>
      rw [Collections.mapRecords_eq_self (by simp [Collections.giving])]
      exact Makes.pure count space
  | cons id ids ih =>
      obtain ⟨distinct, isKnown⟩ := known id List.mem_cons_self
      have first : Makes (do
          return count + (← followOne rules ⟨⟨dependent, old, new⟩, .cascade, matching⟩ id))
          space (count + 1) (space.store.collections.mapRecords
            (Collections.giving dependent.collection dependent.field new [id])) := by
        apply (followOne_makes rules old matching lawful distinct notId isKnown).bind
        exact fun middle isMade => isMade ▸ Makes.pure (count + 1) middle
      rw [List.foldlM_cons]
      apply first.bind
      intro middle isMade
      have middleLawful : middle.Lawful := by
        rw [Lawful, isMade]
        exact Collections.Lawful.mapRecords_giving lawful notId newDistinct [id]
      -- The first change leaves the ids of the others where they are.
      have stillKnown : ∀ id ∈ ids, id.DistinctNames ∧
          ∃ record ∈ middle.store.collections.records dependent.collection,
            record.hasId id = true := by
        intro other member
        obtain ⟨otherDistinct, isKnown⟩ := known other (List.mem_cons_of_mem id member)
        rw [isMade]
        exact ⟨otherDistinct,
          Collections.exists_hasId_mapRecords (Collections.id?_giving notId [id] _) isKnown⟩
      have rest := ih middleLawful stillKnown (count + 1)
      rw [isMade, Collections.mapRecords_mapRecords] at rest
      simp only [Collections.giving_giving notId] at rest
      rwa [List.length_cons, Nat.add_comm ids.length, ← Nat.add_assoc]

/-- Gives the records of one group the new value; adds their number to a count. -/
def followGroup (rules : ReferenceRules) (group : Followers) (count : Nat) :
    Attempt (Workspace A) Nat :=
  (group.matching.filterMap Record.id?).foldlM (fun count id => do
    return count + (← followOne rules group id)) count

variable {origin : Collections} {places : Finset (String × String)}

theorem followGroup_makes (lawful : origin.Lawful) (newDistinct : new.DistinctNames)
    (notId : dependent.field ≠ idField) (placesNotId : ∀ place ∈ places, place.2 ≠ idField)
    (isStart : space.store.collections = origin.mapRecords (Record.substituted places old new))
    (count : Nat) :
    Makes (followGroup rules ⟨⟨dependent, old, new⟩, .cascade,
        origin.holding dependent.collection dependent.field old⟩ count) space
      (count + origin.followerCount old (dependent.collection, dependent.field))
      (origin.mapRecords (Record.substituted
        (insert (dependent.collection, dependent.field) places) old new)) := by
  have keepsId (name : String) (record : Record) :
      Record.id? (record.substituted places old new name) = record.id? :=
    Record.id?_substituted placesNotId
  have startLawful : space.Lawful := by
    rw [Lawful, isStart]
    apply lawful.mapRecords keepsId
    exact fun name record distinct => Record.distinctNames_substituted distinct newDistinct
  have known : ∀ id ∈ (origin.holding dependent.collection dependent.field old).filterMap
      Record.id?, id.DistinctNames ∧
        ∃ record ∈ space.store.collections.records dependent.collection,
          record.hasId id = true := by
    intro id member
    obtain ⟨follower, isHolder, isId⟩ := List.mem_filterMap.1 member
    have isStored := (Collections.mem_holding.1 isHolder).1
    have followerDistinct := lawful.distinctNames _ follower isStored
    have distinct := Record.distinctNames_id? followerDistinct isId
    have found : follower.hasId id = true := Record.hasId_own followerDistinct isId
    rw [isStart]
    exact ⟨distinct, Collections.exists_hasId_mapRecords (keepsId _) ⟨follower, isStored, found⟩⟩
  have makes := followIds_makes rules old
    (origin.holding dependent.collection dependent.field old) startLawful newDistinct notId known
    count
  rwa [isStart, Collections.mapRecords_giving_substituted lawful placesNotId,
    List.length_filterMap_eq_countP] at makes

/-- Whether groups of followers, carried out after a substitution at some places, add more
places to it, and count the fields at those that are new. -/
def Substitute (rules : ReferenceRules) (origin : Collections) (old new : Json)
    (places more : Finset (String × String)) (groups : List Followers) : Prop :=
  ∀ (space : Workspace (Journaled A)) (count : Nat),
    space.store.collections = origin.mapRecords (Record.substituted places old new) →
    Makes (groups.foldlM (fun count group => followGroup rules group count) count) space
      (count + ∑ place ∈ more \ places, origin.followerCount old place)
      (origin.mapRecords (Record.substituted (places ∪ more) old new))

namespace Substitute

variable {more : Finset (String × String)} {groups : List Followers}

theorem nil : Substitute (A := A) rules origin old new places ∅ [] := by
  intro space count isStart
  rw [Finset.empty_sdiff, Finset.sum_empty, Finset.union_empty, ← isStart]
  exact Makes.pure count space

theorem again {place : String × String} (seen : place ∈ places)
    (substitute : Substitute (A := A) rules origin old new places more groups) :
    Substitute (A := A) rules origin old new places (insert place more) groups := by
  unfold Substitute
  rwa [Finset.insert_sdiff_of_mem _ seen, Finset.union_insert,
    Finset.insert_eq_of_mem (Finset.mem_union_left _ seen)]

/-- A sum over places that are not seen yet, by the first of them. -/
theorem sum_insert_sdiff {place : String × String} (fresh : place ∉ places)
    (weight : String × String → Nat) :
    ∑ other ∈ insert place more \ places, weight other =
      weight place + ∑ other ∈ more \ insert place places, weight other := by
  have parts : insert place more \ places = insert place (more \ insert place places) := by
    ext other
    by_cases same : other = place
    · simp [same, fresh]
    · simp [same]
  rw [parts, Finset.sum_insert (by simp)]

variable (lawful : origin.Lawful) (placesNotId : ∀ place ∈ places, place.2 ≠ idField)
  (fresh : (dependent.collection, dependent.field) ∉ places)
  (rest : Substitute (A := A) rules origin old new
    (insert (dependent.collection, dependent.field) places) more groups)

include lawful placesNotId fresh rest

/-- Nothing holds the old value at the first new place. -/
theorem idle (none : origin.holding dependent.collection dependent.field old = []) :
    Substitute (A := A) rules origin old new places
      (insert (dependent.collection, dependent.field) more) groups := by
  intro space count isStart
  rw [sum_insert_sdiff fresh, Finset.union_insert, ← Finset.insert_union,
    Collections.followerCount, none, List.countP_nil, Nat.zero_add]
  apply rest
  rw [isStart, Collections.mapRecords_substituted_insert lawful placesNotId none]

/-- The first group is that of the first new place. -/
theorem cons (newDistinct : new.DistinctNames) (notId : dependent.field ≠ idField) :
    Substitute (A := A) rules origin old new places
      (insert (dependent.collection, dependent.field) more)
      (⟨⟨dependent, old, new⟩, .cascade,
        origin.holding dependent.collection dependent.field old⟩ :: groups) := by
  intro space count isStart
  rw [sum_insert_sdiff fresh, Finset.union_insert, ← Finset.insert_union, List.foldlM_cons,
    ← Nat.add_assoc]
  apply (followGroup_makes lawful newDistinct notId placesNotId isStart count).bind
  exact fun middle isMade => rest middle _ isMade

end Substitute

/-- What is planned is carried out as one substitution. -/
theorem plan_substitutes (rules : ReferenceRules) (old : Json) (lawful : origin.Lawful)
    (newDistinct : new.DistinctNames) {dependents : List Dependent}
    (follow : ∀ dependent ∈ dependents, dependent.key = idField ∧
      (dependent.onUpdate = none ∨
        dependent.onUpdate = some .cascade ∧ dependent.field ≠ idField))
    {seen : List (String × String × String)}
    (sameSeen : ∀ name field, (name, field, idField) ∈ seen ↔ (name, field) ∈ places)
    (placesNotId : ∀ place ∈ places, place.2 ≠ idField) :
    ∃ groups, KeyChange.plan origin seen (dependents.map (⟨·, old, new⟩)) = .ok groups ∧
      Substitute (A := A) rules origin old new places
        (Dependent.cascadingPlaces dependents) groups := by
  -- The places seen by the plan are those of the substitution so far.
  induction dependents generalizing seen places with
  | nil => exact ⟨[], rfl, .nil⟩
  | cons dependent rest ih =>
      obtain ⟨isId, policy⟩ := follow dependent List.mem_cons_self
      have followRest := fun other member => follow other (List.mem_cons_of_mem dependent member)
      rw [List.map_cons]
      rcases policy with undeclared | ⟨cascades, notId⟩
      · rw [KeyChange.plan_undeclared undeclared,
          Dependent.cascadingPlaces_cons_undeclared undeclared]
        exact ih followRest sameSeen placesNotId
      · have isPlace : (KeyChange.mk dependent old new).place ∈ seen ↔
            (dependent.collection, dependent.field) ∈ places := by
          rw [← sameSeen, KeyChange.place, isId]
        rw [Dependent.cascadingPlaces_cons_cascade cascades]
        by_cases before : (dependent.collection, dependent.field) ∈ places
        · obtain ⟨groups, planned, substitute⟩ := ih followRest sameSeen placesNotId
          rw [KeyChange.plan_seen cascades (isPlace.2 before)]
          exact ⟨groups, planned, substitute.again before⟩
        · have seenNow : ∀ name field,
              (name, field, idField) ∈ (KeyChange.mk dependent old new).place :: seen ↔
                (name, field) ∈ insert (dependent.collection, dependent.field) places := by
            intro name field
            simp [KeyChange.place, isId, sameSeen]
          have notIdNow : ∀ place ∈ insert (dependent.collection, dependent.field) places,
              place.2 ≠ idField := by
            simpa [notId] using placesNotId
          obtain ⟨groups, planned, substitute⟩ := ih followRest seenNow notIdNow
          rw [KeyChange.plan_unseen cascades (mt isPlace.1 before), planned]
          by_cases none : (KeyChange.mk dependent old new).holders origin = []
          · rw [if_pos (by simpa using none)]
            exact ⟨groups, rfl, substitute.idle lawful placesNotId before none⟩
          · rw [if_neg (by simpa using none), if_neg (by decide)]
            exact ⟨_, rfl, substitute.cons lawful placesNotId before newDistinct notId⟩

/-- Where no save fails, the records of all collections come out with the new id in place
of the old one, in every field that follows it, as by one substitution.  The answer counts
the fields of records that get it, each once. -/
theorem followIdChange_substitutes {collection : String} (lawful : space.Lawful)
    (newDistinct : new.DistinctNames)
    (follow : ∀ dependent ∈ rules.graph.dependentsOf collection, dependent.key = idField →
      dependent.onUpdate = none ∨
        dependent.onUpdate = some .cascade ∧ dependent.field ≠ idField)
    (saved : ¬ space.store.storage.FailedSince
      ((followIdChange rules collection old new).outcome space).2.store.storage) :
    ((followIdChange rules collection old new).outcome space).1 =
        .ok (∑ place ∈ rules.graph.idPlaces collection,
          space.store.collections.followerCount old place) ∧
      ((followIdChange rules collection old new).outcome space).2.store.collections =
        space.store.collections.mapRecords
          (Record.substituted (rules.graph.idPlaces collection) old new) := by
  have followKeyed : ∀ dependent ∈ (rules.graph.dependentsOf collection).filter
      (·.key = idField), dependent.key = idField ∧ (dependent.onUpdate = none ∨
        dependent.onUpdate = some .cascade ∧ dependent.field ≠ idField) := by
    intro dependent member
    obtain ⟨isDependent, isId⟩ := List.mem_filter.1 member
    exact ⟨by simpa using isId, follow dependent isDependent (by simpa using isId)⟩
  have noneSeen : ∀ name field, (name, field, idField) ∈ ([] : List (String × String × String)) ↔
      (name, field) ∈ (∅ : Finset (String × String)) := by simp
  obtain ⟨groups, planned, substitute⟩ :=
    plan_substitutes (A := A) rules old lawful newDistinct followKeyed noneSeen (by simp)
  have unchanged : space.store.collections =
      space.store.collections.mapRecords (Record.substituted ∅ old new) := by
    rw [Collections.mapRecords_eq_self]
    exact fun _ _ _ => Record.substituted_empty
  have all := substitute space 0 unchanged
  rw [Nat.zero_add, Finset.sdiff_empty, Finset.empty_union] at all
  have ran : (followIdChange rules collection old new).outcome space =
      (groups.foldlM (fun count group => followGroup rules group count) 0).outcome space := by
    rw [followIdChange, followChanges, Attempt.get_bind_outcome, ReferenceGraph.idChanges, planned]
    rfl
  rw [ran] at saved ⊢
  exact all.of_saved saved

/-- Rules for people with bosses and mentors; that of the bosses is declared from both
sides. -/
def peopleRules : ReferenceRules :=
  .ofRegistry (Registry.register {} {
    name := "people"
    fields := [
      ("boss", (Field.ofTypes [.number]).withRules fun rules =>
        { rules with
          relation := some { Relation.manyToOne "people" with onUpdate := some .cascade } }),
      ("mentor", (Field.ofTypes [.number]).withRules fun rules =>
        { rules with
          relation := some { Relation.manyToOne "people" with onUpdate := some .cascade } }),
      ("reports", (Field.ofTypes [.array]).withRules fun rules =>
        { rules with
          relation := some
            { Relation.oneToMany "people" "boss" with onUpdate := some .cascade } })] })

/-- People of whom one has a boss for a mentor too, and one has no id. -/
def people : Workspace (Journaled Memory) :=
  ⟨{ collections := SortedMap.insert .empty "people"
       [[(idField, .ofInt 1)],
        [("boss", .ofInt 1), (idField, .ofInt 2), ("mentor", .ofInt 1)],
        [("boss", .ofInt 1)]]
     storage := ⟨{}, []⟩
     key := "library" },
    .start 0 0⟩

theorem people_lawful : people.Lawful := by
  apply Collections.lawful_empty.insert
  · decide +kernel
  · simp [Json.DistinctNames, Json.DistinctNames.DistinctNamesFields, idField, Json.ofInt]

/-- The one who has the boss for a mentor too gets the new id twice. -/
theorem followIdChange_people :
    ((followIdChange peopleRules "people" (.ofInt 1) (.ofInt 9)).outcome people).1 = .ok 2 ∧
      ((followIdChange peopleRules "people" (.ofInt 1)
        (.ofInt 9)).outcome people).2.store.collections.records "people" =
          [[(idField, .ofInt 1)],
            [("boss", .ofInt 9), (idField, .ofInt 2), ("mentor", .ofInt 9)],
            [("boss", .ofInt 1)]] := by
  have allSaved : ((followIdChange peopleRules "people" (.ofInt 1)
      (.ofInt 9)).outcome people).2.store.storage.journal.all (·.succeeded) = true := by
    decide +kernel
  have saved : ¬ people.store.storage.FailedSince
      ((followIdChange peopleRules "people" (.ofInt 1)
        (.ofInt 9)).outcome people).2.store.storage := by
    rintro ⟨saves, journal, save, member, notSucceeded⟩
    rw [journal] at allSaved
    rw [List.all_eq_true.1 allSaved save (List.mem_append_left _ member)] at notSucceeded
    cases notSucceeded
  have distinct : (Json.ofInt 9).DistinctNames := trivial
  obtain ⟨answer, made⟩ :=
    followIdChange_substitutes people_lawful distinct (by decide +kernel) saved
  have places : peopleRules.graph.idPlaces "people" =
      {("people", "boss"), ("people", "mentor")} := by decide +kernel
  have count : ∑ place ∈ peopleRules.graph.idPlaces "people",
      people.store.collections.followerCount (.ofInt 1) place = 2 := by decide +kernel
  have same : (Json.ofInt 1).same (.ofInt 1) = true := by decide +kernel
  have otherFields : idField ≠ "boss" ∧ idField ≠ "mentor" := by decide
  have isId : Record.id? [("boss", .ofInt 1), (idField, .ofInt 2), ("mentor", .ofInt 1)] =
      some (.ofInt 2) := rfl
  have noId : Record.id? [("boss", .ofInt 1)] = none := rfl
  refine ⟨by rw [answer, count], ?_⟩
  rw [made, Collections.records_mapRecords, places]
  simp [people, Record.substituted, same, otherFields, isId, noId]

end Workspace

end DocStore
