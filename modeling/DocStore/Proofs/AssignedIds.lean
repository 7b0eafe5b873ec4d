import DocStore.Proofs.GeneratedIds
import DocStore.Proofs.SaveJournal
import DocStore.Storage.Memory
import Mathlib.Data.Finset.Max

/-!
# Assigned ids

The id that a record without one gets is told by the integers among the ids of its
collection, be they written as integers or as doubles: it is the next one after the
largest of them, and there is none if one of them is no signed word or the largest is the
last signed word.  A record that cannot get an id leaves the store as it was.
-/

namespace DocStore

/-- Whether a number is an integer `n`, as an integer or as a double of that value. -/
def Number.Is : Number → Int → Prop
  | .int m, n => m.val = n
  | .double x, n => x.units = n * (Double.unitsPerOne : Int)

theorem Number.whole?_eq_some_iff {number : Number} {n : Int} :
    number.whole? = some n ↔ number.Is n := by
  cases number with
  | int m => simp [whole?, Is]
  | double x => simp [whole?, Is, Double.units_eq_mul_iff]

/-- Whether the id of a record is an integer `n`. -/
def Record.HasIntegerId (record : Record) (n : Int) : Prop :=
  ∃ number : Number, record.id? = some (.number number) ∧ number.Is n

theorem Record.hasIntegerId_iff {record : Record} {n : Int} :
    record.HasIntegerId n ↔ ∃ id, record.id? = some id ∧ id.whole? = some n := by
  constructor
  · rintro ⟨number, isId, value⟩
    exact ⟨.number number, isId, Number.whole?_eq_some_iff.2 value⟩
  · rintro ⟨id, isId, whole⟩
    cases id with
    | number number => exact ⟨number, isId, Number.whole?_eq_some_iff.1 whole⟩
    | _ => simp [Json.whole?] at whole

namespace Collections

variable {name : String} {records : List Record} {largest : Int}

/-- The integers among the ids of some records, and zero. -/
def integerIds (records : List Record) : Set Int :=
  {n | n = 0 ∨ ∃ record ∈ records, record.HasIntegerId n}

theorem mem_integerIds {n : Int} :
    n ∈ integerIds records ↔
      n = 0 ∨ ∃ id ∈ records.filterMap Record.id?, id.whole? = some n := by
  refine or_congr Iff.rfl ⟨?_, ?_⟩
  · rintro ⟨record, member, isInteger⟩
    obtain ⟨id, isId, whole⟩ := Record.hasIntegerId_iff.1 isInteger
    exact ⟨id, List.mem_filterMap.2 ⟨record, member, isId⟩, whole⟩
  · rintro ⟨id, isId, whole⟩
    obtain ⟨record, member, isId⟩ := List.mem_filterMap.1 isId
    exact ⟨record, member, Record.hasIntegerId_iff.2 ⟨id, isId, whole⟩⟩

theorem integerIds_eq (records : List Record) :
    integerIds records =
      {n | n ∈ 0 :: (records.filterMap Record.id?).filterMap Json.whole?} := by
  ext n
  rw [mem_integerIds, Set.mem_ofPred_eq, List.mem_cons]
  exact or_congr Iff.rfl List.mem_filterMap.symm

theorem exists_isGreatest_integerIds (records : List Record) :
    ∃ largest, IsGreatest (integerIds records) largest := by
  rw [integerIds_eq, ← List.coe_toFinset]
  exact ⟨_, Finset.isGreatest_max' _ ⟨0, by simp⟩⟩

/-- Whether there is a next id after the ids of some records, the largest integer among
which is given: all of these are signed words, and the largest is not the last one. -/
structure HasNextId (records : List Record) (largest : Int) : Prop where
  fits : ∀ n ∈ integerIds records, Integer.least ≤ n ∧ n ≤ Integer.signedMost
  notLast : largest < Integer.signedMost

/-- The search for the largest id ends well exactly if all integers are signed words. -/
theorem largestId_cases (name : String) (start : Int) (ids : List Json) :
    (∃ largest, largestId name start ids = .ok largest ∧
      ∀ id ∈ ids, ∀ n, id.whole? = some n → Integer.least ≤ n ∧ n ≤ Integer.signedMost) ∨
    ∃ last ∈ ids, ∃ n, largestId name start ids = .error (.idsExhausted name last) ∧
      last.whole? = some n ∧ ¬ (Integer.least ≤ n ∧ n ≤ Integer.signedMost) := by
  induction ids generalizing start with
  | nil => exact .inl ⟨start, rfl, by simp⟩
  | cons id rest ih =>
      cases whole : id.whole? with
      | none =>
          simp only [largestId, whole]
          refine (ih start).imp ?_ ?_
          · rintro ⟨largest, found, fits⟩
            exact ⟨largest, found, by simpa [whole] using fits⟩
          · rintro ⟨last, inRest, failed⟩
            exact ⟨last, List.mem_cons_of_mem _ inRest, failed⟩
      | some n =>
          simp only [largestId, whole]
          split_ifs with within
          · refine (ih (max start n)).imp ?_ ?_
            · rintro ⟨largest, found, fits⟩
              refine ⟨largest, found, fun other member m isWhole => ?_⟩
              rcases List.mem_cons.1 member with rfl | inRest
              · obtain rfl : n = m := by simpa [whole] using isWhole
                exact within
              · exact fits other inRest m isWhole
            · rintro ⟨last, inRest, failed⟩
              exact ⟨last, List.mem_cons_of_mem _ inRest, failed⟩
          · exact .inr ⟨id, List.mem_cons_self, n, rfl, whole, within⟩

/-- The next id is one more than the largest integer, if there is a next one. -/
theorem nextId_of_hasNextId (name : String) (isLargest : IsGreatest (integerIds records) largest)
    (hasNext : HasNextId records largest) :
    nextId name records = .ok (.ofInt (largest + 1)) := by
  rcases largestId_cases name 0 (records.filterMap Record.id?) with
    ⟨found, isFound, -⟩ | ⟨last, member, n, -, whole, misses⟩
  · obtain ⟨nonneg, bounded, attained⟩ := largestId_ok isFound
    have isGreatest : IsGreatest (integerIds records) found := by
      refine ⟨mem_integerIds.2 attained, fun n isInteger => ?_⟩
      rcases mem_integerIds.1 isInteger with rfl | ⟨id, member, whole⟩
      · exact nonneg
      · exact bounded id member n whole
    obtain rfl : found = largest := isGreatest.unique isLargest
    simp [nextId, isFound, hasNext.notLast, bind, Except.bind, pure, Except.pure]
  · exact absurd (hasNext.fits n (mem_integerIds.2 (.inr ⟨last, member, whole⟩))) misses

theorem nextId_of_not_hasNextId (name : String)
    (isLargest : IsGreatest (integerIds records) largest)
    (noNext : ¬ HasNextId records largest) :
    ∃ last, nextId name records = .error (.idsExhausted name last) := by
  rcases largestId_cases name 0 (records.filterMap Record.id?) with
    ⟨found, isFound, fits⟩ | ⟨last, -, n, failed, -, -⟩
  · obtain ⟨nonneg, bounded, attained⟩ := largestId_ok isFound
    have full : ¬ found < Integer.signedMost := by
      intro room
      refine noNext ⟨fun n isInteger => ?_, ?_⟩
      · rcases mem_integerIds.1 isInteger with rfl | ⟨id, member, whole⟩
        · decide
        · exact fits id member n whole
      · rcases mem_integerIds.1 isLargest.1 with rfl | ⟨id, member, whole⟩
        · decide
        · exact (bounded id member largest whole).trans_lt room
    exact ⟨.ofInt found, by simp [nextId, isFound, full, bind, Except.bind]⟩
  · exact ⟨last, by simp [nextId, failed, bind, Except.bind]⟩

variable {collections : Collections} {record : Record}

/-- The id that is assigned is an integer, which a signed word can hold. -/
theorem add_of_hasNextId (noId : record.id? = none)
    (isLargest : IsGreatest (integerIds (collections.records name)) largest)
    (hasNext : HasNextId (collections.records name) largest) :
    ∃ id : Integer, id.val = largest + 1 ∧ id.isSigned = true ∧
      add name record collections =
        .ok (record.withId (.number (.int id)), some (collections.insert name
          (collections.records name ++ [record.withId (.number (.int id))]))) := by
  have nonneg : 0 ≤ largest := isLargest.2 (.inl rfl)
  have room := hasNext.notLast
  have fits : Integer.least ≤ largest + 1 ∧ largest + 1 ≤ Integer.most := by
    simp only [Integer.least, Integer.most, Integer.signedMost] at *
    omega
  have isInteger : Json.ofInt (largest + 1) = .number (.int ⟨largest + 1, fits⟩) := by
    simp [Json.ofInt, Number.ofInt, Integer.ofInt?, fits]
  refine ⟨⟨largest + 1, fits⟩, rfl, ?_, ?_⟩
  · simp only [Integer.isSigned, decide_eq_true_eq]
    omega
  · have next := nextId_of_hasNextId name isLargest hasNext
    rw [isInteger] at next
    simp [add, identified, noId, next, bind, Except.bind, pure, Except.pure]

theorem add_of_not_hasNextId (noId : record.id? = none)
    (isLargest : IsGreatest (integerIds (collections.records name)) largest)
    (noNext : ¬ HasNextId (collections.records name) largest) :
    ∃ last, add name record collections = .error (.idsExhausted name last) := by
  obtain ⟨last, failed⟩ := nextId_of_not_hasNextId name isLargest noNext
  exact ⟨last, by simp [add, identified, noId, failed, bind, Except.bind]⟩

end Collections

namespace StoreCall

open Collections

variable {A : Type} [Adapter A]

/-- A record without an id is stored at the end of its collection, with the integer after
the largest one for an id, in front of its other fields; if there is no such integer among
the signed words, it is refused, by a collection that is there, and the store stays as it
is. -/
theorem add_run_assigns (store : Store A) (name : String) {record : Record}
    (noId : record.id? = none) :
    ∃ largest, IsGreatest (integerIds (store.collections.records name)) largest ∧
      (HasNextId (store.collections.records name) largest →
        ∃ id : Integer, id.val = largest + 1 ∧ id.isSigned = true ∧
          let added : Record := (idField, .number (.int id)) :: Fields.erase idField record
          let held : Collections :=
            store.collections.insert name (store.collections.records name ++ [added])
          ((add name record).run.outcome store).2.collections = held ∧
            ((add name record).run.outcome store).1 =
              (Store.persist.outcome { store with collections := held }).1.map fun _ => added) ∧
      (¬ HasNextId (store.collections.records name) largest →
        store.collections.has name = true ∧
          ∃ last, (add name record).run.outcome store =
            (.error (.idsExhausted name last), store)) := by
  obtain ⟨largest, isLargest⟩ := exists_isGreatest_integerIds (store.collections.records name)
  refine ⟨largest, isLargest, fun hasNext => ?_, fun noNext => ?_⟩
  · obtain ⟨id, value, signed, made⟩ := add_of_hasNextId noId isLargest hasNext
    rw [run_eq_commit]
    have ran := Store.commit_made made
    refine ⟨id, value, signed, ?_, ?_⟩
    · exact (congrArg (·.2.collections) ran).trans (Store.persist_collections _)
    · exact congrArg Prod.fst ran
  · obtain ⟨last, refused⟩ := add_of_not_hasNextId noId isLargest noNext
    rw [run_eq_commit]
    exact ⟨has_of_add_refused refused, last, Store.commit_refused refused⟩

/-- A drawer whose ids are a text, a negative integer, the double `7.0` and a truth value;
one sheet has none. -/
def drawer : Store Memory :=
  { collections := SortedMap.insert .empty "drafts"
      [[(idField, .string "8")], [(idField, .ofInt (-5))],
        [(idField, .number (.double ⟨false, 7881299347898368, 1024, by decide⟩))],
        [("title", .string "Plan")], [(idField, .bool true)]]
    storage := {}
    key := "library" }

theorem integerIds_drawer :
    Collections.integerIds (drawer.collections.records "drafts") = {0, -5, 7} := by
  have ids : ((drawer.collections.records "drafts").filterMap Record.id?).filterMap Json.whole? =
      [-5, 7] := by decide +kernel
  rw [Collections.integerIds_eq, ids]
  ext n
  simp

/-- A draft with `null` for an id gets the one after seven, in front. -/
theorem add_run_assigns_eight :
    ∃ id : Integer, id.val = 8 ∧
      ((add "drafts" [("title", .string "Sanditon"), (idField, .null)]).run.outcome
        drawer).2.collections.records "drafts" =
          drawer.collections.records "drafts" ++
            [[(idField, .number (.int id)), ("title", .string "Sanditon")]] := by
  have noId : Record.id? [("title", .string "Sanditon"), (idField, .null)] = none := rfl
  obtain ⟨largest, isLargest, assigns, -⟩ := add_run_assigns drawer "drafts" noId
  rw [integerIds_drawer] at isLargest
  have isSeven : largest = 7 := by
    have bound : (7 : Int) ≤ largest := isLargest.2 (by simp)
    have member := isLargest.1
    simp only [Set.mem_insert_iff, Set.mem_singleton_iff] at member
    omega
  have fits : ∀ n ∈ Collections.integerIds (drawer.collections.records "drafts"),
      Integer.least ≤ n ∧ n ≤ Integer.signedMost := by
    rw [integerIds_drawer]
    simp [Integer.least, Integer.signedMost]
  obtain ⟨id, value, -, stored, -⟩ := assigns ⟨fits, by rw [isSeven]; decide⟩
  refine ⟨id, by omega, ?_⟩
  rw [stored, Collections.records_insert_self]
  rfl

end StoreCall

end DocStore
