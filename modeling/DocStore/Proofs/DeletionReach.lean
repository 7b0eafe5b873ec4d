import DocStore.Proofs.DatabaseParts
import DocStore.Proofs.DeletionInvariant
import DocStore.Storage.Memory

/-!
# What deletions take

A deletion that succeeds takes the records that it reaches along cascading references,
and no others, and leaves nothing that points at a record it took, as far as there is
a policy for the reference.
-/

namespace DocStore

namespace Cascade

variable {A : Type} {graph : ReferenceGraph} {origin : Collections}
  {source : String × Record} {first last : Cascade A} {name : String} {id : Json}

/-- In the end, all records that were come to are gone. -/
theorem Progress.gone_of_visited (progress : Progress graph origin source first last)
    (fresh : first.visited = []) (visited : visitMark name id ∈ last.visited) :
    ¬ last.held.Stores name id := by
  intro stored
  have earlier := progress.closes_new name id stored visited
  rw [fresh] at earlier
  cases earlier

theorem Inv.settled_in_the_end (inv : Inv graph origin last) (addressed : origin.Addressed)
    (progress : Progress graph origin source first last) (fresh : first.visited = [])
    {record : Record} (member : record ∈ origin.records name) (isId : record.id? = some id)
    (gone : ¬ last.held.Stores name id) {dependent : Dependent}
    (isDependent : dependent ∈ graph.dependentsOf name) (clears : dependent.Clears)
    {value : Json} (linked : record.linked? dependent.key = some value)
    {left : Record} (isLeft : left ∈ last.held.records dependent.collection) :
    left.holds dependent.field value = false := by
  refine Bool.eq_false_iff.2 fun holds => ?_
  obtain ⟨own, isOwn, -⟩ := (addressed.descend inv.descends).isKey _ left isLeft
  have visited := inv.settled_of_gone name record member id isId gone dependent isDependent clears
    value linked left isLeft holds own isOwn
  exact progress.gone_of_visited fresh visited ⟨left, isLeft, isOwn⟩

theorem Inv.sublist (inv : Inv graph origin last)
    (noNulls : ∀ field, ¬ graph.Nulls name field) :
    (last.held.records name).Sublist (origin.records name) := by
  obtain ⟨kept, related, sublist⟩ := List.sublistForall₂_iff.1 (inv.descends name)
  have same : last.held.records name = kept := by
    rw [← List.forall₂_eq_eq_eq]
    exact related.imp fun _ _ descended => descended.eq_of_keeps noNulls
  exact same ▸ sublist

theorem Inv.mem_iff_stores (inv : Inv graph origin last)
    (noNulls : ∀ field, ¬ graph.Nulls name field) (addressed : origin.Addressed)
    {record : Record} (member : record ∈ origin.records name) (isId : record.id? = some id) :
    record ∈ last.held.records name ↔ last.held.Stores name id := by
  refine ⟨fun isLeft => ⟨record, isLeft, isId⟩, ?_⟩
  rintro ⟨left, isLeft, leftId⟩
  have same := addressed.eq_of_id? member isId ((inv.sublist noNulls).subset isLeft) leftId
  exact same ▸ isLeft

/-- What is reached is gone: a record that is gone leaves nothing that points at it. -/
theorem Inv.gone_of_reached (inv : Inv graph origin last)
    (noNulls : ∀ name field, ¬ graph.Nulls name field) (addressed : origin.Addressed)
    {record : Record} (progress : Progress graph origin (name, record) first last)
    (fresh : first.visited = []) (member : record ∈ origin.records name)
    (isId : record.id? = some id) (visited : visitMark name id ∈ last.visited)
    {reached : String × Record}
    (path : Relation.ReflTransGen (graph.Takes origin) (name, record) reached) :
    reached.2 ∈ origin.records reached.1 ∧
      ∀ reachedId, reached.2.id? = some reachedId → ¬ last.held.Stores reached.1 reachedId := by
  induction path with
  | refl =>
      refine ⟨member, fun otherId isOther => ?_⟩
      obtain rfl : id = otherId := by simpa [isId] using isOther
      exact progress.gone_of_visited fresh visited
  | @tail taker taken _ takes ih =>
      obtain ⟨takerMember, takerGone⟩ := ih
      obtain ⟨isTaken, dependent, isDependent, cascades, sameName, value, linked, holds⟩ := takes
      refine ⟨isTaken, fun takenId isTakenId stored => ?_⟩
      have isLeft := (inv.mem_iff_stores (noNulls _) addressed isTaken isTakenId).2 stored
      obtain ⟨takerId, isTakerId, -⟩ := addressed.isKey _ _ takerMember
      have clears : dependent.Clears := ⟨by simp [cascades], by simp [cascades]⟩
      have free := inv.settled_in_the_end addressed progress fresh takerMember isTakerId
        (takerGone takerId isTakerId) isDependent clears linked (sameName ▸ isLeft)
      rw [holds] at free
      cases free

end Cascade

namespace Workspace

variable {A : Type} [Adapter A]

theorem delete_outcome (rules : ReferenceRules) (collection : String) (id : Json)
    (space : Workspace A) :
    (delete rules collection id).outcome space =
      (((Cascade.deleteWithin rules space.store.collections.cascadeDepth collection id).outcome
          ⟨space, []⟩).1,
        ((Cascade.deleteWithin rules space.store.collections.cascadeDepth collection id).outcome
          ⟨space, []⟩).2.space) :=
  rfl

end Workspace

namespace Database

variable {A : Type} [Adapter A] {db after : Database A} {collection : String} {id : Json}
  {record : Record}

/-- A deletion that succeeds is a walk from nothing visited. -/
theorem delete_ok {answer : Bool}
    (deleted : (delete collection id).outcome db = (.ok answer, after))
    (addressed : db.store.collections.Addressed) (keeps : db.graphInUse.KeepsKeys)
    (member : record ∈ db.store.collections.records collection)
    (isId : record.id? = some id) :
    ∃ first last : Cascade A, first.visited = [] ∧ last.held = after.store.collections ∧
      Cascade.Inv db.graphInUse db.store.collections last ∧
      Cascade.Progress db.graphInUse db.store.collections (collection, record) first last ∧
      visitMark collection id ∈ last.visited := by
  obtain ⟨known, ruled⟩ := rules_outcome db
  unfold delete at deleted
  rw [Attempt.bind_outcome, ruled] at deleted
  simp only at deleted
  rw [onSpace_outcome, Workspace.delete_outcome, Prod.mk.injEq] at deleted
  have firstInv : Cascade.Inv db.graphInUse db.store.collections
      (⟨⟨db.store, db.supply⟩, []⟩ : Cascade A) := by
    refine ⟨.refl _, ?_, ?_⟩
    · intro name stored isStored otherId isOther gone
      exact absurd ⟨stored, isStored, isOther⟩ gone
    · intro name stored isStored otherId isOther gone
      exact absurd ⟨stored, isStored, isOther⟩ gone
  have deletes : Cascade.Deletes db.graphInUse db.store.collections
      (Cascade.deleteWithin (A := A) ⟨db.registry, db.graphInUse⟩
        db.store.collections.cascadeDepth) :=
    Cascade.deleteWithin_deletes ⟨db.registry, db.graphInUse⟩ addressed keeps _
  obtain ⟨inv, progress, visited⟩ := deletes collection record member id isId
    ⟨⟨db.store, db.supply⟩, []⟩ _ answer firstInv (Prod.ext deleted.1 rfl)
  refine ⟨_, _, rfl, ?_, inv, progress, visited⟩
  rw [← deleted.2]
  rfl

/-- An author and some books, which point at authors by a field. -/
def shelf (field : String) (action : ReferenceAction) (books : List Record) : Database Memory :=
  .ofStore
    (Registry.register {} {
      name := "books"
      fields := [(field, (Field.ofTypes [.any]).withRules fun rules =>
        { rules with
          relation := some { Relation.manyToOne "authors" with onDelete := some action } })] })
    (.start 0 0)
    { collections := (SortedMap.insert .empty "authors" [[(idField, .string "ada")]]).insert
        "books" books
      storage := {}
      key := "library" }

theorem dependentsOf_shelf {field : String} {action : ReferenceAction} {books : List Record}
    {owner : String} {dependent : Dependent}
    (member : dependent ∈ (shelf field action books).graphInUse.dependentsOf owner) :
    owner = "authors" ∧ dependent = ⟨"books", field, idField, some action, none, "books"⟩ := by
  have references : (shelf field action books).graphInUse.references =
      [⟨"books", field, { Relation.manyToOne "authors" with onDelete := some action }⟩] := by
    rw [shelf, graphInUse_ofStore]
    rfl
  simpa [ReferenceGraph.dependentsOf, references, Reference.dependents, Relation.manyToOne,
    eq_comm] using member

theorem addressed_shelf (field : String) (action : ReferenceAction) {books : List Record}
    (apart : books.Pairwise Record.Apart)
    (isKey : ∀ book ∈ books, ∃ id, book.id? = some id ∧ id.IsKey) :
    (shelf field action books).store.collections.Addressed := by
  have records (name : String) : (shelf field action books).store.collections.records name =
      if "books" = name then books
      else if "authors" = name then [[(idField, .string "ada")]] else [] := by
    simp [shelf, ofStore, Collections.records_insert, Collections.records_empty]
  constructor
  · intro name
    rw [records]
    split_ifs
    · exact apart
    · exact List.pairwise_singleton _ _
    · exact .nil
  · intro name record member
    rw [records] at member
    split_ifs at member
    · exact isKey record member
    · obtain rfl := List.mem_singleton.1 member
      exact ⟨.string "ada", rfl, trivial⟩
    · cases member
  · intro name record member
    rw [records] at member
    split_ifs at member with books authors
    · subst books
      decide
    · subst authors
      decide
    · cases member

/-- A deletion that only cascades or is restricted takes exactly the records that it
reaches, and leaves the others as they are, in their order. -/
theorem delete_takes_reachable
    (actions : ∀ owner, ∀ dependent ∈ db.graphInUse.dependentsOf owner,
      dependent.onDelete = none ∨ dependent.onDelete = some .cascade ∨
        dependent.onDelete = some .restrict)
    (addressed : db.store.collections.Addressed)
    (member : record ∈ db.store.collections.records collection) (isId : record.id? = some id)
    (deleted : (delete collection id).outcome db = (.ok true, after)) (name : String) :
    (after.store.collections.records name).Sublist (db.store.collections.records name) ∧
      ∀ other ∈ db.store.collections.records name,
        other ∈ after.store.collections.records name ↔
          ¬ Relation.ReflTransGen (db.graphInUse.Takes db.store.collections)
            (collection, record) (name, other) := by
  have noNulls : ∀ name field, ¬ db.graphInUse.Nulls name field := by
    rintro name field ⟨owner, dependent, isDependent, nulls, -⟩
    simpa [nulls] using actions owner dependent isDependent
  have keeps : db.graphInUse.KeepsKeys := by
    constructor
    · intro owner dependent isDependent sets
      simpa [sets] using actions owner dependent isDependent
    · intro owner dependent isDependent nulls
      exact absurd ⟨owner, dependent, isDependent, nulls, rfl, rfl⟩ (noNulls _ _)
  obtain ⟨first, last, fresh, held, inv, progress, visited⟩ :=
    delete_ok deleted addressed keeps member isId
  rw [← held]
  refine ⟨inv.sublist (noNulls name), fun other isOther => ?_⟩
  obtain ⟨otherId, isOtherId, -⟩ := addressed.isKey name other isOther
  rw [inv.mem_iff_stores (noNulls name) addressed isOther isOtherId]
  constructor
  · intro stored path
    have reached := inv.gone_of_reached noNulls addressed progress fresh member isId visited path
    exact reached.2 otherId isOtherId stored
  · intro unreached
    by_contra gone
    have marked := inv.visited_of_gone name other isOther otherId isOtherId gone
    rcases progress.reaches name other isOther otherId isOtherId marked with earlier | path
    · rw [fresh] at earlier
      cases earlier
    · exact unreached path

/-- A shelf with one book of its author, whom the book follows, and another book. -/
def cascadingShelf : Database Memory :=
  shelf "author" .cascade [[(idField, .string "x"), ("author", .string "ada")],
    [(idField, .string "y"), ("author", .string "bob")]]

theorem delete_author_with_books :
    ∃ after, (delete "authors" (.string "ada")).outcome cascadingShelf = (.ok true, after) ∧
      ∀ name, (after.store.collections.records name).Sublist
          (cascadingShelf.store.collections.records name) ∧
        ∀ other ∈ cascadingShelf.store.collections.records name,
          other ∈ after.store.collections.records name ↔
            ¬ Relation.ReflTransGen
              (cascadingShelf.graphInUse.Takes cascadingShelf.store.collections)
              ("authors", [(idField, .string "ada")]) (name, other) := by
  have answers : ((delete "authors" (.string "ada")).outcome cascadingShelf).1.toOption =
      some true := by decide +kernel
  obtain ⟨after, deleted⟩ := Attempt.exists_of_toOption answers
  refine ⟨after, deleted, delete_takes_reachable ?_ ?_ List.mem_cons_self rfl deleted⟩
  · intro owner dependent member
    obtain ⟨-, rfl⟩ := dependentsOf_shelf member
    exact .inr (.inl rfl)
  · refine addressed_shelf _ _ (List.pairwise_pair.2 ⟨?_, ?_⟩) ?_
    · intro id isId
      obtain rfl : Json.string "y" = id := Option.some.inj isId
      rfl
    · intro id isId
      obtain rfl : Json.string "x" = id := Option.some.inj isId
      rfl
    · intro book member
      rcases List.mem_pair.1 member with rfl | rfl
      · exact ⟨.string "x", rfl, trivial⟩
      · exact ⟨.string "y", rfl, trivial⟩

/-- After a deletion that succeeds nothing points at a record that it took, by way of
a dependent with a delete policy, other than an id that was to be set to null. -/
theorem delete_leaves_no_reference (keeps : db.graphInUse.KeepsKeys)
    (addressed : db.store.collections.Addressed)
    (member : record ∈ db.store.collections.records collection) (isId : record.id? = some id)
    (deleted : (delete collection id).outcome db = (.ok true, after))
    {name : String} {taken : Record} (isTaken : taken ∈ db.store.collections.records name)
    (gone : ∀ left ∈ after.store.collections.records name, left.id? ≠ taken.id?)
    {dependent : Dependent} (isDependent : dependent ∈ db.graphInUse.dependentsOf name)
    (clears : dependent.Clears) {value : Json}
    (linked : taken.linked? dependent.key = some value) :
    ∀ left ∈ after.store.collections.records dependent.collection,
      left.holds dependent.field value = false := by
  obtain ⟨first, last, fresh, held, inv, progress, -⟩ :=
    delete_ok deleted addressed keeps member isId
  rw [← held] at gone ⊢
  obtain ⟨takenId, isTakenId, -⟩ := addressed.isKey name taken isTaken
  intro left isLeft
  refine inv.settled_in_the_end addressed progress fresh isTaken isTakenId ?_ isDependent clears
    linked isLeft
  rintro ⟨other, isOther, otherId⟩
  exact gone other isOther (otherId.trans isTakenId.symm)

theorem keepsKeys_shelf {field : String} {books : List Record} :
    (shelf field .setNull books).graphInUse.KeepsKeys := by
  constructor
  · intro owner dependent member
    obtain ⟨-, rfl⟩ := dependentsOf_shelf member
    simp
  · intro owner dependent member _ keyed isKeyed
    obtain ⟨-, rfl⟩ := dependentsOf_shelf member
    have isAuthors : "books" = "authors" := (dependentsOf_shelf isKeyed).1
    exact absurd isAuthors (by decide)

/-- A book loses its author. -/
theorem delete_author_of_book :
    ∃ after, (delete "authors" (.string "ada")).outcome
        (shelf "author" .setNull [[(idField, .string "x"), ("author", .string "ada")]]) =
          (.ok true, after) ∧
      ∀ left ∈ after.store.collections.records "books",
        left.holds "author" (.string "ada") = false := by
  have answers : ((delete "authors" (.string "ada")).outcome
      (shelf "author" .setNull [[(idField, .string "x"), ("author", .string "ada")]])).1.toOption =
        some true := by decide +kernel
  have emptied : (((delete "authors" (.string "ada")).outcome
      (shelf "author" .setNull
        [[(idField, .string "x"), ("author", .string "ada")]])).2.store.collections.records
          "authors").isEmpty = true := by decide +kernel
  obtain ⟨after, deleted⟩ := Attempt.exists_of_toOption answers
  rw [deleted, List.isEmpty_iff] at emptied
  have addressed : (shelf "author" .setNull
      [[(idField, .string "x"), ("author", .string "ada")]]).store.collections.Addressed := by
    refine addressed_shelf _ _ (List.pairwise_singleton _ _) fun book member => ?_
    obtain rfl := List.mem_singleton.1 member
    exact ⟨.string "x", rfl, trivial⟩
  have dependents : (⟨"books", "author", idField, some .setNull, none, "books"⟩ : Dependent) ∈
      (shelf "author" .setNull
        [[(idField, .string "x"), ("author", .string "ada")]]).graphInUse.dependentsOf
          "authors" := by decide +kernel
  exact ⟨after, deleted, delete_leaves_no_reference keepsKeys_shelf addressed List.mem_cons_self
    rfl deleted List.mem_cons_self (by simp [emptied]) dependents
    ⟨by decide, by decide⟩ rfl⟩

/-- A book whose id is that of its author keeps it. -/
theorem delete_leaves_own_id :
    ∃ after, (delete "authors" (.string "ada")).outcome
        (shelf idField .setNull [[(idField, .string "ada")]]) = (.ok true, after) ∧
      (shelf idField .setNull [[(idField, .string "ada")]]).graphInUse.KeepsKeys ∧
      (shelf idField .setNull [[(idField, .string "ada")]]).store.collections.Addressed ∧
      after.store.collections.records "authors" = [] ∧
      ∃ dependent ∈ (shelf idField .setNull
          [[(idField, .string "ada")]]).graphInUse.dependentsOf "authors",
        dependent.onDelete ≠ none ∧
          ∃ left ∈ after.store.collections.records dependent.collection,
            left.holds dependent.field (.string "ada") = true := by
  have answers : ((delete "authors" (.string "ada")).outcome
      (shelf idField .setNull [[(idField, .string "ada")]])).1.toOption = some true := by
    decide +kernel
  have emptied : (((delete "authors" (.string "ada")).outcome
      (shelf idField .setNull [[(idField, .string "ada")]])).2.store.collections.records
        "authors").isEmpty = true := by decide +kernel
  have remains : (((delete "authors" (.string "ada")).outcome
      (shelf idField .setNull [[(idField, .string "ada")]])).2.store.collections.records
        "books").any (·.holds idField (.string "ada")) = true := by decide +kernel
  obtain ⟨after, deleted⟩ := Attempt.exists_of_toOption answers
  rw [deleted, List.isEmpty_iff] at emptied
  rw [deleted] at remains
  obtain ⟨left, isLeft, holds⟩ := List.any_eq_true.1 remains
  refine ⟨after, deleted, keepsKeys_shelf, ?_, emptied,
    ⟨"books", idField, idField, some .setNull, none, "books"⟩, by decide +kernel, by decide,
    left, isLeft, holds⟩
  refine addressed_shelf _ _ (List.pairwise_singleton _ _) fun book member => ?_
  obtain rfl := List.mem_singleton.1 member
  exact ⟨.string "ada", rfl, trivial⟩

end Database

end DocStore
