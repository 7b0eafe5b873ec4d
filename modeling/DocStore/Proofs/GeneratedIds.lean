import DocStore.Proofs.FieldLookup
import DocStore.Proofs.NearestDouble
import DocStore.Store.Edit

/-!
# Generated ids

A record without an id gets the whole number after the largest one among the ids.
That number is exact, and values are compared through doubles, so the new id is
free exactly when its nearest double is not that of the largest id.
-/

namespace DocStore

open Binary64

namespace Number

/-- A number whose double is nearest to an integer is a whole number with that
nearest double. -/
theorem whole?_of_units {n : Number} {m : Int} (units : n.toDouble.units = nearestUnits m) :
    ∃ k, n.whole? = some k ∧ nearestUnits k = nearestUnits m := by
  cases n with
  | int value =>
      rw [toDouble_int_units] at units
      exact ⟨value.val, rfl, units⟩
  | double x =>
      have whole : x.isWhole = true := Double.isWhole_of_units units
      refine ⟨x.truncate, by simp [whole?, whole], ?_⟩
      rw [Double.nearestUnits_truncate whole]
      exact units

theorem units_of_whole? {n : Number} {k : Int} (whole : n.whole? = some k) :
    n.toDouble.units = nearestUnits k := by
  cases n with
  | int value =>
      obtain rfl : value.val = k := by simpa [whole?] using whole
      exact toDouble_int_units value
  | double x =>
      obtain ⟨isWhole, rfl⟩ : x.isWhole = true ∧ x.truncate = k := by
        simpa [whole?] using whole
      exact (Double.nearestUnits_truncate isWhole).symm

theorem ofInt_units {m : Int} (least : Integer.least ≤ m) (most : m ≤ Integer.most) :
    (ofInt m).toDouble.units = nearestUnits m := by
  have fits : ofInt m = .int ⟨m, least, most⟩ := by
    simp [ofInt, Integer.ofInt?, least, most]
  rw [fits, toDouble_int_units]

end Number

namespace Json

/-- What is equal to a whole number. -/
theorem same_ofInt {value : Json} {m : Int} (least : Integer.least ≤ m)
    (most : m ≤ Integer.most) :
    value.same (.ofInt m) = true ↔
      ∃ n, value = .number n ∧ n.toDouble.units = nearestUnits m := by
  rw [← Number.ofInt_units least most]
  cases value <;> simp [same, sameBy, ofInt, Number.same]

end Json

namespace Collections

/-- The largest whole number bounds all, and is one of them or the least allowed. -/
theorem largestId_ok {name : String} {start largest : Int} {ids : List Json}
    (found : largestId name start ids = .ok largest) :
    start ≤ largest ∧ (∀ id ∈ ids, ∀ n, id.whole? = some n → n ≤ largest) ∧
      (largest = start ∨ ∃ id ∈ ids, id.whole? = some largest) := by
  induction ids generalizing start with
  | nil =>
      obtain rfl : start = largest := by simpa [largestId] using found
      simp
  | cons id ids ih =>
      cases whole : id.whole? with
      | none =>
          obtain ⟨le, bounded, attained⟩ := ih (by simpa [largestId, whole] using found)
          refine ⟨le, by simpa [whole] using bounded, attained.imp_right ?_⟩
          rintro ⟨other, member, isWhole⟩
          exact ⟨other, by simp [member], isWhole⟩
      | some n =>
          by_cases fits : Integer.least ≤ n ∧ n ≤ Integer.signedMost
          · have later : largestId name (max start n) ids = .ok largest := by
              simpa [largestId, whole, fits] using found
            obtain ⟨le, bounded, attained⟩ := ih later
            refine ⟨by omega, ?_, ?_⟩
            · intro other member m isWhole
              rcases List.mem_cons.1 member with rfl | inRest
              · obtain rfl : n = m := by simpa [whole] using isWhole
                omega
              · exact bounded other inRest m isWhole
            · rcases attained with atStart | ⟨other, member, isWhole⟩
              · rcases le_total start n with less | less
                · exact .inr ⟨id, by simp, by rw [whole, atStart, max_eq_right less]⟩
                · exact .inl (by rw [atStart, max_eq_left less])
              · exact .inr ⟨other, by simp [member], isWhole⟩
          · simp [largestId, whole, fits] at found

theorem nearestUnits_succ_ne {m : Int} (nonneg : 0 ≤ m) (small : m + 1 < 2 ^ 53) :
    nearestUnits m ≠ nearestUnits (m + 1) := by
  rw [nearestUnits_of_small (by omega), nearestUnits_of_small (by omega)]
  obtain ⟨bits, -, unitsEq⟩ := exists_unitsPerOne_eq
  have positive : 0 < Double.unitsPerOne := by
    rw [unitsEq]
    exact Nat.two_pow_pos bits
  intro equal
  have := Int.eq_of_mul_eq_mul_right (by omega) equal
  omega

/-- The id after the largest one is held already exactly when the two are equal. -/
theorem exists_hasId_next_iff {name : String} {records : List Record} {largest : Int}
    (found : largestId name 0 (records.filterMap Record.id?) = .ok largest)
    (room : largest < Integer.signedMost) :
    (∃ record ∈ records, record.hasId (.ofInt (largest + 1)) = true) ↔
      (Json.ofInt largest).same (.ofInt (largest + 1)) = true := by
  obtain ⟨nonneg, bounded, attained⟩ := largestId_ok found
  have least : Integer.least ≤ largest + 1 := by simp only [Integer.least]; omega
  have most : largest + 1 ≤ Integer.most := by
    simp only [Integer.most, Integer.signedMost] at *; omega
  have units : (Number.ofInt largest).toDouble.units = nearestUnits largest :=
    Number.ofInt_units (by simp only [Integer.least]; omega)
      (by simp only [Integer.most] at *; omega)
  have equal_iff : (Json.ofInt largest).same (.ofInt (largest + 1)) = true ↔
      nearestUnits largest = nearestUnits (largest + 1) := by
    rw [Json.same_ofInt least most, ← units]
    simp [Json.ofInt]
  rw [equal_iff]
  constructor
  · rintro ⟨record, member, holds⟩
    obtain ⟨own, isOwn, same⟩ := Record.hasId_iff.1 holds
    obtain ⟨n, rfl, nUnits⟩ := (Json.same_ofInt least most).1 same
    obtain ⟨k, whole, kUnits⟩ := Number.whole?_of_units nUnits
    have le : k ≤ largest :=
      bounded _ (List.mem_filterMap.2 ⟨record, member, isOwn⟩) k whole
    exact le_antisymm (nearestUnits_mono (by omega)) (kUnits ▸ nearestUnits_mono le)
  · intro equal
    -- Small integers have doubles of their own, so the largest id is not just the start.
    rcases attained with rfl | ⟨id, member, whole⟩
    · exact absurd equal (nearestUnits_succ_ne le_rfl (by norm_num))
    · obtain ⟨record, inRecords, isOwn⟩ := List.mem_filterMap.1 member
      cases id with
      | number n =>
          refine ⟨record, inRecords, Record.hasId_iff.2 ⟨_, isOwn, ?_⟩⟩
          refine (Json.same_ofInt least most).2 ⟨n, rfl, ?_⟩
          rw [Number.units_of_whole? whole, equal]
      | _ => simp [Json.whole?] at whole

theorem nextId_ok {name : String} {records : List Record} {id : Json}
    (made : nextId name records = .ok id) :
    ∃ largest, largestId name 0 (records.filterMap Record.id?) = .ok largest ∧
      largest < Integer.signedMost ∧ id = .ofInt (largest + 1) := by
  unfold nextId at made
  cases found : largestId name 0 (records.filterMap Record.id?) with
  | error failure => simp [found, bind, Except.bind] at made
  | ok largest =>
      by_cases room : largest < Integer.signedMost
      · refine ⟨largest, rfl, room, ?_⟩
        simpa [found, room, bind, Except.bind, pure, Except.pure, eq_comm] using made
      · simp [found, room, bind, Except.bind] at made

/-- Whether the id that a record without one would get among others is equal to the
largest id that is there. -/
def NextIdTaken (name : String) (records : List Record) : Prop :=
  ∃ largest, largestId name 0 (records.filterMap Record.id?) = .ok largest ∧
    largest < Integer.signedMost ∧ (Json.ofInt largest).same (.ofInt (largest + 1)) = true

instance (name : String) (records : List Record) : Decidable (NextIdTaken name records) :=
  match found : largestId name 0 (records.filterMap Record.id?) with
  | .ok largest =>
    decidable_of_iff (largest < Integer.signedMost ∧
        (Json.ofInt largest).same (.ofInt (largest + 1)) = true) (by
      constructor
      · exact fun ⟨room, same⟩ => ⟨largest, found, room, same⟩
      · rintro ⟨other, otherFound, taken⟩
        obtain rfl : largest = other := by simpa [found] using otherFound
        exact taken)
  | .error _ => .isFalse fun ⟨_, otherFound, _⟩ => by simp [found] at otherFound

/-- A generated id is held already exactly when its double is that of the largest
id. -/
theorem nextIdTaken_iff {name : String} {records : List Record} {id : Json}
    (made : nextId name records = .ok id) :
    NextIdTaken name records ↔ ∃ record ∈ records, record.hasId id = true := by
  obtain ⟨largest, found, room, rfl⟩ := nextId_ok made
  rw [exists_hasId_next_iff found room, NextIdTaken]
  constructor
  · rintro ⟨other, otherFound, -, same⟩
    obtain rfl : largest = other := by simpa [found] using otherFound
    exact same
  · exact fun same => ⟨largest, found, room, same⟩

theorem NextIdTaken.nextId_ok {name : String} {records : List Record}
    (taken : NextIdTaken name records) : ∃ id, nextId name records = .ok id := by
  obtain ⟨largest, found, room, -⟩ := taken
  exact ⟨.ofInt (largest + 1), by simp [nextId, found, room, bind, Except.bind, pure, Except.pure]⟩

end Collections

end DocStore
