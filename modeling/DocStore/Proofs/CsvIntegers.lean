import DocStore.Proofs.CsvRoundTrip
import DocStore.Proofs.IntegerOrder
import DocStore.Proofs.TypedNumbers

/-!
# Integers in CSV text

A cell is typed as a signed word before it is typed as a double.  So an integer comes back
from its cell if it fits a signed word, and any larger one comes back as its nearest double,
a multiple of `2 ^ 11`.  Inside an array the larger ones come back too, because there they
are read as JSON.
-/

namespace DocStore

open Binary64

namespace Integer

/-- The parts of the text of an integer. -/
def numberText (n : Integer) : Json.NumberText :=
  .natural (n.val < 0) n.val.natAbs

theorem spelled_numberText (n : Integer) : n.numberText.Spelled n.text.toList where
  grammatical := Json.NumberText.grammatical_natural _ _
  spelled := by
    refine ⟨[], .none, ?_⟩
    by_cases negative : n.val < 0 <;>
      simp [numberText, Json.NumberText.natural, Json.NumberText.fractionText, text, negative]

theorem signedWhole_numberText (n : Integer) : n.numberText.signedWhole = n.val := by
  simp only [numberText, Json.NumberText.natural, Json.NumberText.signedWhole,
    naturalOfDigits_toDigits, decide_eq_true_eq]
  split_ifs <;> omega

/-- The text of an integer is typed as its nearest double where doubles are typed. -/
theorem read?_text (n : Integer) :
    ∃ x : Double, Binary64.read? n.text.toList = some (.finite x) ∧
      x.units = nearestInt n.val * Double.unitsPerOne := by
  have stored : Integer.ofInt? n.numberText.signedWhole = some n := by
    simp [signedWhole_numberText, Integer.ofInt?, n.fits]
  obtain ⟨x, nearest, units⟩ := Json.NumberText.nearest_of_ofInt? rfl rfl stored
  refine ⟨x, ?_, ?_⟩
  · rw [Json.NumberText.read?_spelledBody n.spelled_numberText, nearest]
  · rw [units, Number.toDouble_int_units, nearestUnits_eq]

/-- An integer past the signed words has 64 bits, of which the last 11 are rounded. -/
theorem nearestInt_of_unsigned {n : Integer} (unsigned : n.isSigned = false) :
    nearestInt n.val = roundEven n.val.natAbs 2048 * 2048 := by
  have large : signedMost < n.val := by simpa [isSigned] using unsigned
  simp only [signedMost] at large
  -- The leading bit is bit 63: the integer lies between `2 ^ 63` and `2 ^ 64`.
  have bits : Nat.log2 n.val.natAbs = 63 := by
    rw [Nat.log2_eq_iff (by omega)]
    have := n.natAbs_lt
    omega
  rw [nearestInt, if_neg (by omega), roundedUnits, bits]
  rfl

/-- The nearest double of an integer past the signed words has its value only where that is a
multiple of `2 ^ 11`. -/
theorem nearestInt_eq_iff {n : Integer} (unsigned : n.isSigned = false) :
    nearestInt n.val = n.val ↔ 2048 ∣ n.val := by
  rw [nearestInt_of_unsigned unsigned]
  constructor
  · intro same
    exact ⟨roundEven n.val.natAbs 2048, by omega⟩
  · rintro ⟨quotient, product⟩
    have large : signedMost < n.val := by simpa [isSigned] using unsigned
    simp only [signedMost] at large
    have parts : n.val.natAbs = quotient.natAbs * 2048 := by omega
    rw [parts, roundEven_mul _ (by decide)]
    omega

theorem nearestInt_close (n : Integer) : (nearestInt n.val - n.val).natAbs ≤ 1024 := by
  have near := nearestInt_near n.natAbs_lt
  omega

end Integer

open Integer

namespace Csv

/-- What comes back of an integer: itself, if it fits a signed word, and otherwise its
nearest double. -/
inductive ComesBackAs (n : Integer) : Json → Prop where
  | kept (signed : n.isSigned = true) : ComesBackAs n n.toJson
  | rounded {x : Double} (unsigned : n.isSigned = false)
      (nearest : x.units = nearestInt n.val * Double.unitsPerOne) :
      ComesBackAs n (.number (.double x))

variable {n : Integer}

theorem ComesBackAs.eq_iff {value : Json} (back : ComesBackAs n value) :
    value = n.toJson ↔ n.isSigned = true := by
  cases back with
  | kept signed => simp [signed]
  | rounded unsigned => simp [unsigned]

theorem exists_givesBack (n : Integer) :
    ∃ value, GivesBack (cellOf (some n.toJson)) value ∧ ComesBackAs n value := by
  cases sign : n.isSigned with
  | true => exact ⟨_, givesBack_typed (Json.readNumber?_text sign), .kept sign⟩
  | false =>
      obtain ⟨x, read, units⟩ := n.read?_text
      have typed : Json.readNumber? n.text = some (.double x) := by
        rw [Json.readNumber?, trimBlanks_eq_self fun c member => isBlank_text member]
        simp [readInt64?_text, sign, read, toDouble?]
      exact ⟨_, givesBack_typed typed, .rounded sign units⟩

theorem valueOf_cellOf_array (integers : List Integer) :
    valueOf (cellOf (some (.array (integers.map toJson)))) = .array (integers.map toJson) := by
  have numbers : (Json.array (integers.map toJson)).NumbersIn Number.IsInteger :=
    Json.numbersIn_list fun _ _ => trivial
  have distinct : (Json.array (integers.map toJson)).DistinctNames := by
    refine Json.distinctNames_array.2 fun item member => ?_
    obtain ⟨n, -, rfl⟩ := List.mem_map.1 member
    trivial
  have shallow : (Json.array (integers.map toJson)).nesting ≤ Json.maxNesting := by
    refine Nat.succ_le_succ (Json.nestingItems_le.2 fun item member => ?_)
    obtain ⟨n, -, rfl⟩ := List.mem_map.1 member
    exact Nat.zero_le _
  have read := Json.read?_compact numbers shallow distinct
  rw [Json.compact, Json.compactChars] at read
  exact (givesBack_bracket (.inr rfl) read).back

/-- The fields of records in a text come back as their cells are read. -/
theorem read_write_retyped {collections : Collections}
    (trimmed : ∀ entry ∈ collections.entries, trim entry.1 = entry.1)
    (tabular : ∀ entry ∈ collections.entries, ∀ record ∈ entry.2, Tabular record) :
    ∃ back, Csv.read (Csv.write collections) = .ok back ∧
      List.Forall₂ (fun one other => one.1 = other.1 ∧
        List.Forall₂ (fun record read => (retyped record).Perm read) one.2 other.2)
        collections.entries back.entries := by
  obtain ⟨back, read, same⟩ := readRows_tables .empty .outside 1 collections.entries
    collections.increasing (fun _ _ _ isOld => absurd isOld List.not_mem_nil) trimmed tabular
  refine ⟨back, ?_, ?_⟩
  · rw [Csv.read, Csv.write, String.toList_ofList, Rows.read_write (head?_write collections)]
    exact read
  · rw [same]
    refine List.forall₂_map_right_iff.2 (List.forall₂_same.2 fun entry member => ⟨rfl, ?_⟩)
    exact forall₂_perm_retyped (tabular entry member)

theorem get?_of_perm_retyped {record back : Record} (distinct : (record.map Prod.fst).Nodup)
    (perm : (retyped record).Perm back) (name : String) :
    Fields.get? name back = readCell? (cellOf (Fields.get? name record)) := by
  rw [← get?_retyped distinct]
  have nodup : ((retyped record).map Prod.fst).Nodup :=
    (names_retyped_sublist record).nodup distinct
  have backNodup : (back.map Prod.fst).Nodup := (perm.map Prod.fst).nodup nodup
  apply Option.ext
  intro value
  constructor
  · exact fun found => Fields.get?_of_mem nodup (perm.mem_iff.2 (Fields.mem_of_get? found))
  · exact fun found => Fields.get?_of_mem backNodup (perm.mem_iff.1 (Fields.mem_of_get? found))

/-- Whether what comes back of an integer is in one record wherever the integer is in
another. -/
def ComesBackIn (n : Integer) (record back : Record) : Prop :=
  ∀ name, Fields.get? name record = some n.toJson →
    ∃ value, Fields.get? name back = some value ∧ ComesBackAs n value ∧
      (value = n.toJson ↔ n.isSigned = true)

theorem comesBackIn_of_retyped {record back : Record} (tabular : Tabular record)
    (perm : (retyped record).Perm back) : ComesBackIn n record back := by
  intro name held
  obtain ⟨value, read, comesBack⟩ := exists_givesBack n
  refine ⟨value, ?_, comesBack, comesBack.eq_iff⟩
  rw [get?_of_perm_retyped tabular.distinct perm, held, read.readCell?]

/-- From its cell an integer comes back exactly if it fits a signed word.  A larger one comes
back as its nearest double: another kind of number, and another value unless the integer is a
multiple of `2 ^ 11`.  Among others in an array it comes back.  So in a text of collections,
whatever their records hold beside it, a field with a signed word is kept and a field with a
larger integer is not. -/
theorem integer_comes_back_iff (n : Integer) :
    (valueOf (cellOf (some n.toJson)) = n.toJson ↔ n.isSigned = true) ∧
    (n.isSigned = false →
      ∃ x : Double, valueOf (cellOf (some n.toJson)) = .number (.double x) ∧
        x.units = nearestInt n.val * Double.unitsPerOne ∧
        (nearestInt n.val = n.val ↔ 2048 ∣ n.val) ∧
        (nearestInt n.val - n.val).natAbs ≤ 1024) ∧
    (∀ before behind : List Integer,
      valueOf (cellOf (some (.array ((before ++ n :: behind).map toJson)))) =
        .array ((before ++ n :: behind).map toJson)) ∧
    ∀ collections : Collections,
      (∀ entry ∈ collections.entries, trim entry.1 = entry.1) →
      (∀ entry ∈ collections.entries, ∀ record ∈ entry.2, Tabular record) →
      ∃ back, ExchangeFormat.csv.read (ExchangeFormat.csv.write collections) = .ok back ∧
        List.Forall₂ (fun one other => one.1 = other.1 ∧
          List.Forall₂ (ComesBackIn n) one.2 other.2) collections.entries back.entries := by
  refine ⟨?_, fun unsigned => ?_, fun _ _ => valueOf_cellOf_array _, ?_⟩
  · obtain ⟨value, read, comesBack⟩ := exists_givesBack n
    rw [read.back]
    exact comesBack.eq_iff
  · obtain ⟨value, read, comesBack⟩ := exists_givesBack n
    cases comesBack with
    | kept signed =>
        rw [signed] at unsigned
        cases unsigned
    | rounded _ nearest =>
        exact ⟨_, read.back, nearest, nearestInt_eq_iff unsigned, n.nearestInt_close⟩
  · intro collections trimmed tabular
    obtain ⟨back, read, same⟩ := read_write_retyped trimmed tabular
    refine ⟨back, read, ((List.forall₂_and_left _ _).2 ⟨tabular, same⟩).imp ?_⟩
    rintro one other ⟨tabularRecords, named, records⟩
    refine ⟨named, ((List.forall₂_and_left _ _).2 ⟨tabularRecords, records⟩).imp ?_⟩
    rintro record back ⟨tabular, perm⟩
    exact comesBackIn_of_retyped tabular perm

/-- The largest signed word, the integer behind it, and the largest of all. -/
def wordEdges : Integer × Integer × Integer :=
  (⟨signedMost, by decide⟩, ⟨signedMost + 1, by decide⟩, ⟨most, by decide⟩)

/-- A ledger whose records hold a large integer beside a text, nothing, or nothing else. -/
def ledger : Collections where
  entries := [("ledger", [
    [("note", .string "a, b"), ("sum", wordEdges.1.toJson)],
    [("sum", wordEdges.2.1.toJson), ("note", .null)],
    [("sum", wordEdges.2.2.toJson)]])]
  increasing := by decide

/-- The signed word is kept.  The largest integer comes back as a double of the value
`2 ^ 64`, from its own cell and from the ledger. -/
theorem ledger_comes_back :
    valueOf (cellOf (some wordEdges.1.toJson)) = wordEdges.1.toJson ∧
    (∃ x : Double, valueOf (cellOf (some wordEdges.2.2.toJson)) = .number (.double x) ∧
      x.units = 18446744073709551616 * Double.unitsPerOne) ∧
    ∃ back, ExchangeFormat.csv.read (ExchangeFormat.csv.write ledger) = .ok back ∧
      List.Forall₂ (fun one other => one.1 = other.1 ∧
        List.Forall₂ (ComesBackIn wordEdges.2.2) one.2 other.2) ledger.entries back.entries := by
  obtain ⟨kept_iff, -⟩ := integer_comes_back_iff wordEdges.1
  obtain ⟨-, rounded, -, back⟩ := integer_comes_back_iff wordEdges.2.2
  refine ⟨kept_iff.2 (by decide), ?_, back ledger (by decide) ?_⟩
  · obtain ⟨x, read, units, -⟩ := rounded (by decide)
    have nearest : nearestInt wordEdges.2.2.val = 18446744073709551616 := by decide +kernel
    exact ⟨x, read, by rw [units, nearest]⟩
  · simp only [ledger, List.forall_mem_cons, List.not_mem_nil, false_implies, implies_true,
      and_true]
    and_intros
    all_goals exact ⟨by decide, by decide, by decide, by decide +kernel⟩

/-- Not every integer comes back from its cell. -/
theorem integer_lost : ¬ ∀ n : Integer, valueOf (cellOf (some n.toJson)) = n.toJson := by
  intro kept
  obtain ⟨value, read, comesBack⟩ := exists_givesBack wordEdges.2.2
  have signed := comesBack.eq_iff.1 (read.back.symm.trans (kept _))
  exact absurd signed (by decide)

end Csv

end DocStore
