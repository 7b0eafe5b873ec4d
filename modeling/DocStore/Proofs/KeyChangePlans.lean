import DocStore.Proofs.ValueEquality
import DocStore.Reference.KeyChange

/-!
# Plans of key changes

Of the changes of one place only the first one that declares an update policy
decides.  A plan fails exactly when a deciding restriction meets a record that holds
the old key.
-/

namespace DocStore

namespace ReferenceGraph

/-- The id that is put back into a new version is no change of the id. -/
theorem keyChanges_withId (graph : ReferenceGraph) (collection : String) {old new : Record}
    {id : Json} (found : old.hasId id = true) :
    graph.keyChanges collection old (new.withId id) =
      (graph.keyChanges collection old new).filter
        fun change => decide (change.dependent.key ≠ idField) := by
  unfold keyChanges
  rw [List.filter_filterMap]
  refine List.filterMap_congr fun dependent _ => ?_
  cases linked : old.linked? dependent.key with
  | none => rfl
  | some oldValue =>
      by_cases isId : dependent.key = idField
      · obtain ⟨own, isOwn, same⟩ := Record.hasId_iff.1 found
        have ownIs : own = oldValue := by
          rw [Record.id?, ← isId, linked] at isOwn
          exact (Option.some.inj isOwn).symm
        have stays : oldValue.same (Json.orNull (Fields.get? dependent.key (new.withId id))) =
            true := by
          rw [isId, Record.withId, Fields.get?, if_pos rfl]
          exact ownIs ▸ same
        simp only [stays, if_true]
        split_ifs <;> simp [Option.filter, isId]
      · simp only [Record.get?_withId_of_ne (Ne.symm isId)]
        split_ifs <;> simp [Option.filter, isId]

theorem mem_keyChanges {graph : ReferenceGraph} {collection : String} {old new : Record}
    {change : KeyChange} (member : change ∈ graph.keyChanges collection old new) :
    change.dependent ∈ graph.dependentsOf collection ∧
      change.new = Json.orNull (Fields.get? change.dependent.key new) := by
  obtain ⟨dependent, isDependent, made⟩ := List.mem_filterMap.1 member
  split at made
  · cases made
  · simp only at made
    split_ifs at made
    obtain rfl := Option.some.inj made
    exact ⟨isDependent, rfl⟩

theorem keyChanges_self (graph : ReferenceGraph) (collection : String) {record : Record}
    (distinct : (Json.object record).DistinctNames) :
    graph.keyChanges collection record record = [] := by
  refine List.filterMap_eq_nil_iff.2 fun dependent _ => ?_
  cases linked : record.linked? dependent.key with
  | none => rfl
  | some value =>
      have found := (Record.linked?_eq_some.1 linked).1
      have same := Json.same_refl value (distinct.get? found)
      simp [found, Json.orNull, same]

end ReferenceGraph

namespace KeyChange

variable {collections : Collections} {seen : List (String × String × String)}
  {change : KeyChange} {changes : List KeyChange}

/-- The records that hold the old key of a change. -/
def holders (change : KeyChange) (collections : Collections) : List Record :=
  collections.holding change.dependent.collection change.dependent.field change.old

theorem plan_undeclared (undeclared : change.dependent.onUpdate = none) :
    plan collections seen (change :: changes) = plan collections seen changes := by
  simp only [plan, undeclared]

theorem plan_seen {action : ReferenceAction}
    (declared : change.dependent.onUpdate = some action) (before : change.place ∈ seen) :
    plan collections seen (change :: changes) = plan collections seen changes := by
  have contained : seen.contains change.place = true := List.contains_iff_mem.2 before
  simp only [plan, declared, contained, if_true]

/-- How the first change of a place comes out. -/
theorem plan_unseen {action : ReferenceAction}
    (declared : change.dependent.onUpdate = some action) (fresh : change.place ∉ seen) :
    plan collections seen (change :: changes) =
      if (change.holders collections).isEmpty then
        plan collections (change.place :: seen) changes
      else if action = .restrict then
        .error (.referenced
          (.keyInUse change.old change.dependent.collection change.dependent.field))
      else
        (plan collections (change.place :: seen) changes).map
          (⟨change, action, change.holders collections⟩ :: ·) := by
  have absent : seen.contains change.place = false :=
    Bool.eq_false_iff.2 fun contained => fresh (List.contains_iff_mem.1 contained)
  simp only [plan, declared, absent, Bool.false_eq_true, if_false, holders]
  cases plan collections (change.place :: seen) changes <;> rfl

/-- A plan fails for the references to what changes, and for nothing else. -/
theorem plan_error {failure : Failure}
    (failed : plan collections seen changes = .error failure) :
    ∃ problem, failure = .referenced problem := by
  induction changes generalizing seen with
  | nil => simp [plan] at failed
  | cons change rest ih =>
      cases declared : change.dependent.onUpdate with
      | none =>
          rw [plan_undeclared declared] at failed
          exact ih failed
      | some action =>
          by_cases before : change.place ∈ seen
          · rw [plan_seen declared before] at failed
            exact ih failed
          · rw [plan_unseen declared before] at failed
            split_ifs at failed
            · exact ih failed
            · exact ⟨_, (Except.error.inj failed).symm⟩
            · cases others : plan collections (change.place :: seen) rest with
              | error reason =>
                  rw [others] at failed
                  obtain rfl := Except.error.inj failed
                  exact ih others
              | ok more => simp [others, Except.map] at failed

/-- Whether a change is the first one of its place with an update policy. -/
def Decides (changes : List KeyChange) (change : KeyChange) : Prop :=
  changes.find? (fun other =>
    other.dependent.onUpdate.isSome && decide (other.place = change.place)) = some change

theorem Decides.mem (decides : Decides changes change) : change ∈ changes :=
  List.mem_of_find?_eq_some decides

theorem decides_of_filter {changes : List KeyChange} {change : KeyChange}
    (decides : Decides (changes.filter fun other => decide (other.dependent.key ≠ idField))
      change) : Decides changes change := by
  have kept : change.dependent.key ≠ idField := by simpa using (List.mem_filter.1 decides.mem).2
  unfold Decides at decides ⊢
  rw [List.find?_filter] at decides
  rw [← decides]
  congr 1
  funext other
  by_cases same : other.place = change.place
  · have keys : other.dependent.key = change.dependent.key := congrArg (·.2.2) same
    simp [same, keys, kept]
  · simp [same]

theorem decides_cons_undeclared {first : KeyChange} (undeclared : first.dependent.onUpdate = none) :
    Decides (first :: changes) change ↔ Decides changes change := by
  simp [Decides, undeclared]

theorem decides_cons_of_ne {first : KeyChange} (different : first.place ≠ change.place) :
    Decides (first :: changes) change ↔ Decides changes change := by
  simp [Decides, different]

theorem decides_cons_self {action : ReferenceAction}
    (declared : change.dependent.onUpdate = some action) : Decides (change :: changes) change := by
  simp [Decides, declared]

theorem eq_of_decides_cons {first : KeyChange} {action : ReferenceAction}
    (declared : first.dependent.onUpdate = some action) (same : first.place = change.place)
    (decides : Decides (first :: changes) change) : first = change := by
  simpa [Decides, declared, same] using decides

/-- What is planned are changes that decide, each with its policy and the records that hold
its old key. -/
theorem mem_plan {groups : List Followers} {group : Followers}
    (planned : plan collections seen changes = .ok groups) (member : group ∈ groups) :
    group.change.place ∉ seen ∧ Decides changes group.change ∧
      group.change.dependent.onUpdate = some group.action ∧
      group.matching = group.change.holders collections := by
  induction changes generalizing seen groups with
  | nil =>
      obtain rfl : [] = groups := by simpa [plan] using planned
      simp at member
  | cons change rest ih =>
      cases declared : change.dependent.onUpdate with
      | none =>
          rw [plan_undeclared declared] at planned
          obtain ⟨fresh, decides, follows⟩ := ih planned member
          exact ⟨fresh, (decides_cons_undeclared declared).2 decides, follows⟩
      | some action =>
          by_cases before : change.place ∈ seen
          · rw [plan_seen declared before] at planned
            obtain ⟨fresh, decides, follows⟩ := ih planned member
            have different : change.place ≠ group.change.place := fun same => fresh (same ▸ before)
            exact ⟨fresh, (decides_cons_of_ne different).2 decides, follows⟩
          · -- Past the first change its place is seen, so what comes later is of other places.
            have later {groups : List Followers}
                (planned : plan collections (change.place :: seen) rest = .ok groups)
                (member : group ∈ groups) :
                group.change.place ∉ seen ∧ Decides (change :: rest) group.change ∧
                  group.change.dependent.onUpdate = some group.action ∧
                  group.matching = group.change.holders collections := by
              obtain ⟨fresh, decides, follows⟩ := ih planned member
              simp only [List.mem_cons, not_or] at fresh
              exact ⟨fresh.2, (decides_cons_of_ne (Ne.symm fresh.1)).2 decides, follows⟩
            rw [plan_unseen declared before] at planned
            split_ifs at planned
            · exact later planned member
            · cases others : plan collections (change.place :: seen) rest with
              | error failure => simp [others, Except.map] at planned
              | ok more =>
                  obtain rfl := by simpa [others, Except.map] using planned
                  rcases List.mem_cons.1 member with rfl | inOthers
                  · exact ⟨before, decides_cons_self declared, declared, rfl⟩
                  · exact later others inOthers

/-- Whether a change may not be made: it decides, restricts, and meets a record that
holds the old key. -/
structure Forbidden (collections : Collections) (changes : List KeyChange)
    (change : KeyChange) : Prop where
  decides : Decides changes change
  restricts : change.dependent.onUpdate = some .restrict
  held : change.holders collections ≠ []

/-- A plan fails exactly when one of the changes of unseen places is forbidden. -/
theorem plan_error_iff (collections : Collections) (seen : List (String × String × String))
    (changes : List KeyChange) :
    (∃ failure, plan collections seen changes = .error failure) ↔
      ∃ change, change.place ∉ seen ∧ Forbidden collections changes change := by
  induction changes generalizing seen with
  | nil =>
      constructor
      · rintro ⟨failure, failed⟩
        simp [plan] at failed
      · rintro ⟨change, -, forbidden⟩
        simpa using forbidden.decides.mem
  | cons first rest ih =>
      have same_of_skipped (skips : ∀ change : KeyChange, change.place ∉ seen →
          (Decides (first :: rest) change ↔ Decides rest change)) :
          (∃ change, change.place ∉ seen ∧ Forbidden collections rest change) ↔
            ∃ change, change.place ∉ seen ∧ Forbidden collections (first :: rest) change := by
        refine exists_congr fun change => and_congr_right fun fresh => ?_
        exact ⟨fun ⟨decides, restricts, held⟩ => ⟨(skips change fresh).2 decides, restricts, held⟩,
          fun ⟨decides, restricts, held⟩ => ⟨(skips change fresh).1 decides, restricts, held⟩⟩
      cases declared : first.dependent.onUpdate with
      | none =>
          rw [plan_undeclared declared, ih]
          exact same_of_skipped fun change _ => decides_cons_undeclared declared
      | some action =>
          by_cases before : first.place ∈ seen
          · rw [plan_seen declared before, ih]
            exact same_of_skipped fun change fresh =>
              decides_cons_of_ne fun same => fresh (same ▸ before)
          · -- Past the first change its place is seen, so either it is the forbidden one
            -- or a change of another place is.
            have parts : (∃ change, change.place ∉ seen ∧
                Forbidden collections (first :: rest) change) ↔
                (action = .restrict ∧ first.holders collections ≠ []) ∨
                  ∃ change, change.place ∉ first.place :: seen ∧
                    Forbidden collections rest change := by
              constructor
              · rintro ⟨change, fresh, decides, restricts, held⟩
                by_cases same : first.place = change.place
                · obtain rfl := eq_of_decides_cons declared same decides
                  exact .inl ⟨by simpa [declared] using restricts, held⟩
                · refine .inr ⟨change, by simp [fresh, Ne.symm same], ?_, restricts, held⟩
                  exact (decides_cons_of_ne same).1 decides
              · rintro (⟨rfl, held⟩ | ⟨change, fresh, decides, restricts, held⟩)
                · exact ⟨first, before, decides_cons_self declared, declared, held⟩
                · simp only [List.mem_cons, not_or] at fresh
                  refine ⟨change, fresh.2, ?_, restricts, held⟩
                  exact (decides_cons_of_ne (Ne.symm fresh.1)).2 decides
            rw [plan_unseen declared before, parts, ← ih]
            by_cases empty : first.holders collections = []
            · simp [empty]
            · have notEmpty : (first.holders collections).isEmpty = false := by simpa using empty
              by_cases restricts : action = .restrict
              · simp [notEmpty, restricts, empty]
              · cases plan collections (first.place :: seen) rest <;>
                  simp [notEmpty, restricts, Except.map]

end KeyChange

end DocStore
