import DocStore.Proofs.DatabaseParts
import DocStore.Proofs.RefusedFollowing
import DocStore.Storage.Memory

/-!
# Verdicts on key changes

A change of a key is refused for the references to it exactly when a dependent stands
against it that leads its place, that is, comes before all others of its place that
declare an update policy.  A restriction which is declared only on the second side of
a relation, after another policy on the first side, has no say.
-/

namespace DocStore

namespace Dependent

/-- What tells dependents apart. -/
def place (dependent : Dependent) : String × String × String :=
  (dependent.collection, dependent.field, dependent.key)

/-- Whether a dependent is the first one of its place with an update policy. -/
def Leads (dependents : List Dependent) (dependent : Dependent) : Prop :=
  dependents.find? (fun other =>
    other.onUpdate.isSome && decide (other.place = dependent.place)) = some dependent

/-- Whether a dependent stands against the change of a record: it restricts, its key
is given up, and a stored record holds the old value of the key. -/
structure StandsAgainst (collections : Collections) (old new : Record)
    (dependent : Dependent) : Prop where
  restricts : dependent.onUpdate = some .restrict
  held : ∃ value, old.linked? dependent.key = some value ∧
    value.same (Json.orNull (Fields.get? dependent.key new)) = false ∧
    ∃ record ∈ collections.records dependent.collection,
      record.holds dependent.field value = true

end Dependent

/-- The change of the key of one dependent, if there is one. -/
def Dependent.keyChange? (old new : Record) (dependent : Dependent) : Option KeyChange :=
  match old.linked? dependent.key with
  | none => none
  | some oldValue =>
    let newValue := Json.orNull (Fields.get? dependent.key new)
    if oldValue.same newValue then none else some ⟨dependent, oldValue, newValue⟩

theorem KeyChange.place_eq (change : KeyChange) : change.place = change.dependent.place :=
  rfl

namespace ReferenceGraph

variable {graph : ReferenceGraph} {collection : String} {old new : Record}
  {dependent : Dependent} {change : KeyChange}

theorem keyChange?_eq_some :
    dependent.keyChange? old new = some change ↔
      ∃ value, old.linked? dependent.key = some value ∧
        value.same (Json.orNull (Fields.get? dependent.key new)) = false ∧
        change = ⟨dependent, value, Json.orNull (Fields.get? dependent.key new)⟩ := by
  unfold Dependent.keyChange?
  cases old.linked? dependent.key with
  | none => simp
  | some value =>
      cases same : value.same (Json.orNull (Fields.get? dependent.key new)) with
      | true => simp [same]
      | false =>
          simp only [same, Bool.false_eq_true, if_false, Option.some.injEq]
          constructor
          · rintro rfl
            exact ⟨value, rfl, same, rfl⟩
          · rintro ⟨_, rfl, -, rfl⟩
            rfl

/-- Whether the key of a dependent changes is settled by its place. -/
theorem any_keyChange? (changes : dependent.keyChange? old new = some change)
    (other : Dependent) :
    (other.keyChange? old new).any (fun others =>
        others.dependent.onUpdate.isSome && decide (others.place = change.place)) =
      (other.onUpdate.isSome && decide (other.place = dependent.place)) := by
  obtain ⟨value, linked, differs, rfl⟩ := keyChange?_eq_some.1 changes
  by_cases same : other.place = dependent.place
  · have sameKey : other.key = dependent.key := congrArg (·.2.2) same
    rw [← sameKey] at linked differs
    rw [keyChange?_eq_some.2 ⟨value, linked, differs, rfl⟩]
    rfl
  · have notSame : decide (other.place = dependent.place) = false := decide_eq_false same
    rw [notSame, Bool.and_false]
    cases changed : other.keyChange? old new with
    | none => rfl
    | some others =>
        obtain ⟨otherValue, -, -, rfl⟩ := keyChange?_eq_some.1 changed
        simp [KeyChange.place_eq, same]

/-- Among the changes of keys one decides exactly when its dependent leads. -/
theorem decides_iff_leads :
    KeyChange.Decides (graph.keyChanges collection old new) change ↔
      change.dependent.Leads (graph.dependentsOf collection) ∧
        change.dependent.keyChange? old new = some change := by
  have ofChanges : graph.keyChanges collection old new =
      (graph.dependentsOf collection).filterMap (·.keyChange? old new) := rfl
  unfold KeyChange.Decides Dependent.Leads
  rw [ofChanges, List.find?_filterMap]
  constructor
  · intro decides
    obtain ⟨dependent, first, changes⟩ := Option.bind_eq_some_iff.1 decides
    obtain ⟨value, -, -, rfl⟩ := keyChange?_eq_some.1 changes
    simp only [any_keyChange? changes] at first
    exact ⟨first, changes⟩
  · rintro ⟨first, changes⟩
    apply Option.bind_eq_some_iff.2
    refine ⟨change.dependent, ?_, changes⟩
    simp only [any_keyChange? changes]
    exact first

end ReferenceGraph

namespace KeyChange

theorem exists_forbidden_iff {graph : ReferenceGraph} {collections : Collections}
    {collection : String} {old new : Record} :
    (∃ change, Forbidden collections (graph.keyChanges collection old new) change) ↔
      ∃ dependent ∈ graph.dependentsOf collection,
        dependent.Leads (graph.dependentsOf collection) ∧
          dependent.StandsAgainst collections old new := by
  constructor
  · rintro ⟨change, decides, restricts, held⟩
    obtain ⟨leads, changes⟩ := ReferenceGraph.decides_iff_leads.1 decides
    obtain ⟨value, linked, differs, made⟩ := ReferenceGraph.keyChange?_eq_some.1 changes
    have oldValue : change.old = value := congrArg KeyChange.old made
    obtain ⟨record, isHolder⟩ := List.exists_mem_of_ne_nil _ held
    obtain ⟨member, holds⟩ := Collections.mem_holding.1 isHolder
    rw [oldValue] at holds
    exact ⟨change.dependent, List.mem_of_find?_eq_some leads, leads, restricts,
      value, linked, differs, record, member, holds⟩
  · rintro ⟨dependent, -, leads, restricts, value, linked, differs, record, member, holds⟩
    have changes := ReferenceGraph.keyChange?_eq_some.2 ⟨value, linked, differs, rfl⟩
    refine ⟨⟨dependent, value, Json.orNull (Fields.get? dependent.key new)⟩,
      ReferenceGraph.decides_iff_leads.2 ⟨leads, changes⟩, restricts, ?_⟩
    exact List.ne_nil_of_mem (Collections.mem_holding.2 ⟨member, holds⟩)

end KeyChange

/-- Whether an attempt fails for the references between records. -/
def Attempt.Referenced {σ α : Type} (attempt : Attempt σ α) (state : σ) : Prop :=
  ∃ problem, (attempt.outcome state).1 = .error (.referenced problem)

instance {σ α : Type} (attempt : Attempt σ α) (state : σ) :
    Decidable (attempt.Referenced state) :=
  decidable_of_iff ((match (attempt.outcome state).1 with
      | .error (.referenced _) => true
      | _ => false) = true) <| by
    unfold Attempt.Referenced
    split
    · rename_i problem failed
      exact iff_of_true rfl ⟨problem, failed⟩
    · rename_i other
      refine iff_of_false Bool.false_ne_true ?_
      rintro ⟨problem, failed⟩
      exact other problem failed

namespace Workspace

variable {A : Type} {rules : ReferenceRules} {collection : String} {old new : Record}
  {space : Workspace A}

theorem checkKeyChanges_referenced_iff :
    (checkKeyChanges rules collection old new).Referenced space ↔
      ∃ change, KeyChange.Forbidden space.store.collections
        (rules.graph.keyChanges collection old new) change := by
  rcases checkKeyChanges_outcome rules collection old new space with
    ⟨forbidden, problem, refused⟩ | ⟨allowed, checked⟩
  · exact iff_of_true ⟨problem, by rw [refused]⟩ forbidden
  · refine iff_of_false ?_ (not_exists.2 allowed)
    rintro ⟨problem, refused⟩
    rw [checked] at refused
    cases refused

variable [Adapter A] {changes : List KeyChange}

theorem followChanges_referenced_iff :
    (followChanges rules changes).Referenced space ↔
      ∃ change, KeyChange.Forbidden space.store.collections changes change := by
  constructor
  · rintro ⟨problem, refused⟩
    exact (followChanges_refused (Prod.ext refused rfl) trivial).1
  · rintro ⟨change, forbidden⟩
    obtain ⟨failure, failed⟩ :=
      (KeyChange.plan_error_iff _ [] _).2 ⟨change, by simp, forbidden⟩
    obtain ⟨problem, rfl⟩ := KeyChange.plan_error failed
    refine ⟨problem, ?_⟩
    rw [followChanges, Attempt.get_bind_outcome, failed]
    rfl

theorem followChanges_of_referenced (refused : (followChanges rules changes).Referenced space) :
    ((followChanges rules changes).outcome space).2 = space := by
  obtain ⟨problem, failed⟩ := refused
  exact (followChanges_refused (Prod.ext failed rfl) trivial).2

end Workspace

namespace Database

variable {A : Type} [Adapter A]

/-- A change of a record is refused for the references to it, by the check and by the
records that would follow, exactly if a leading dependent stands against it; then no
record has been changed. -/
theorem keyChanges_referenced_iff (collection : String) (old new : Record)
    (db : Database A) :
    ((checkKeyChanges collection old new).Referenced db ↔
      ∃ dependent ∈ db.graphInUse.dependentsOf collection,
        dependent.Leads (db.graphInUse.dependentsOf collection) ∧
          dependent.StandsAgainst db.store.collections old new) ∧
    ((followKeyChanges collection old new).Referenced db ↔
      ∃ dependent ∈ db.graphInUse.dependentsOf collection,
        dependent.Leads (db.graphInUse.dependentsOf collection) ∧
          dependent.StandsAgainst db.store.collections old new) ∧
    ((followKeyChanges collection old new).Referenced db →
      ((followKeyChanges collection old new).outcome db).2.store = db.store) := by
  obtain ⟨known, checks⟩ := byRules_outcome
    (fun rules => Workspace.checkKeyChanges (A := A) rules collection old new) db
  obtain ⟨knownLater, follows⟩ := byRules_outcome
    (fun rules => Workspace.followKeyChanges (A := A) rules collection old new) db
  have checkIff : (checkKeyChanges collection old new).Referenced db ↔
      (Workspace.checkKeyChanges ⟨db.registry, db.graphInUse⟩ collection old new).Referenced
        ⟨db.store, db.supply⟩ := by
    unfold Attempt.Referenced checkKeyChanges
    rw [checks]
    rfl
  have followIff : (followKeyChanges collection old new).Referenced db ↔
      (Workspace.followKeyChanges ⟨db.registry, db.graphInUse⟩ collection old new).Referenced
        ⟨db.store, db.supply⟩ := by
    unfold Attempt.Referenced followKeyChanges
    rw [follows]
    rfl
  refine ⟨?_, ?_, fun refused => ?_⟩
  · rw [checkIff, Workspace.checkKeyChanges_referenced_iff, KeyChange.exists_forbidden_iff]
  · rw [followIff, Workspace.followKeyChanges, Workspace.followChanges_referenced_iff,
      KeyChange.exists_forbidden_iff]
  · have stays := Workspace.followChanges_of_referenced (followIff.1 refused)
    unfold followKeyChanges
    rw [follows]
    exact congrArg Workspace.store stays

/-- An author with a book.  Both sides declare the relation between them. -/
def sharedRelation (onAuthors onBooks : ReferenceAction) : Database Memory :=
  .ofStore
    (Registry.registerAll {} [
      { name := "authors"
        fields := [("books", (Field.ofTypes [.array]).withRules fun rules =>
          { rules with
            relation := some
              { Relation.oneToMany "books" "author" with onUpdate := some onAuthors } })] },
      { name := "books"
        fields := [("author", (Field.ofTypes [.number]).withRules fun rules =>
          { rules with
            relation := some
              { Relation.manyToOne "authors" with onUpdate := some onBooks } })] }])
    (.start 0 0)
    { collections := (SortedMap.insert .empty "authors" [[(idField, .ofInt 1)]]).insert
        "books" [[(idField, .ofInt 7), ("author", .ofInt 1)]]
      storage := {}
      key := "library" }

/-- How books depend on authors by the declaration of one side. -/
def bookDependent (action : ReferenceAction) (declaredIn : String) : Dependent :=
  ⟨"books", "author", idField, none, some action, declaredIn⟩

theorem book_standsAgainst (onAuthors onBooks : ReferenceAction) (declaredIn : String) :
    (bookDependent .restrict declaredIn).StandsAgainst
      (sharedRelation onAuthors onBooks).store.collections
      [(idField, .ofInt 1)] [(idField, .ofInt 2)] := by
  have differs : (Json.ofInt 1).same (.ofInt 2) = false := by decide +kernel
  have holds : Record.holds [(idField, .ofInt 7), ("author", .ofInt 1)] "author"
      (.ofInt 1) = true := by decide +kernel
  exact ⟨rfl, .ofInt 1, rfl, differs, _, List.mem_singleton_self _, holds⟩

/-- A restriction that the first side declares refuses, and nothing is changed. -/
theorem keyChange_refused_by_first_side :
    (checkKeyChanges "authors" [(idField, .ofInt 1)] [(idField, .ofInt 2)]).Referenced
        (sharedRelation .restrict .cascade) ∧
      ((followKeyChanges "authors" [(idField, .ofInt 1)] [(idField, .ofInt 2)]).outcome
        (sharedRelation .restrict .cascade)).2.store =
          (sharedRelation .restrict .cascade).store := by
  obtain ⟨checks, follows, stays⟩ := keyChanges_referenced_iff "authors" [(idField, .ofInt 1)]
    [(idField, .ofInt 2)] (sharedRelation .restrict .cascade)
  have member : bookDependent .restrict "authors" ∈
      (sharedRelation .restrict .cascade).graphInUse.dependentsOf "authors" := by
    decide +kernel
  have leads : (bookDependent .restrict "authors").Leads
      ((sharedRelation .restrict .cascade).graphInUse.dependentsOf "authors") := by
    unfold Dependent.Leads
    decide +kernel
  have stands := book_standsAgainst .restrict .cascade "authors"
  exact ⟨checks.2 ⟨_, member, leads, stands⟩, stays (follows.2 ⟨_, member, leads, stands⟩)⟩

/-- A restriction that only the second side declares stands against the change of a key
and does not refuse it. -/
theorem keyChange_allowed_by_first_side :
    ∃ dependent ∈ (sharedRelation .cascade .restrict).graphInUse.dependentsOf "authors",
      dependent.StandsAgainst (sharedRelation .cascade .restrict).store.collections
        [(idField, .ofInt 1)] [(idField, .ofInt 2)] ∧
      ¬ (checkKeyChanges "authors" [(idField, .ofInt 1)] [(idField, .ofInt 2)]).Referenced
        (sharedRelation .cascade .restrict) ∧
      ¬ (followKeyChanges "authors" [(idField, .ofInt 1)] [(idField, .ofInt 2)]).Referenced
        (sharedRelation .cascade .restrict) := by
  have notReferenced {α : Type} {attempt : Attempt (Database Memory) α} {db : Database Memory}
      (succeeds : (attempt.outcome db).1.isOk = true) : ¬ attempt.Referenced db := by
    rintro ⟨problem, refused⟩
    rw [refused] at succeeds
    cases succeeds
  refine ⟨bookDependent .restrict "books", ?_, book_standsAgainst .cascade .restrict "books",
    notReferenced ?_, notReferenced ?_⟩
  · decide +kernel
  · decide +kernel
  · decide +kernel

end Database

end DocStore
