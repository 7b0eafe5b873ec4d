import DocStore.Proofs.AssignedIds
import DocStore.Proofs.SortedResults
import Mathlib.Algebra.Order.Ring.Int

/-!
# The order of integers

An integer is compared through the whole number that is its nearest double, the one with 53
significant bits.  Look-ups, conditions and sorted results therefore tell two integers apart
and put them in their order unless both have the same nearest double, and they never put them
in the opposite order.  Integers that are confused so lie past `2 ^ 53` and close together.
-/

namespace DocStore

namespace Binary64

theorem log2_mul_two_pow {units : Nat} (positive : 0 < units) (scale : Nat) :
    Nat.log2 (units * 2 ^ scale) = Nat.log2 units + scale := by
  have nonzero : units * 2 ^ scale ≠ 0 := Nat.mul_ne_zero (by omega) (Nat.two_pow_pos _).ne'
  apply le_antisymm
  · apply Nat.le_of_lt_succ
    rw [Nat.log2_lt nonzero, Nat.succ_eq_add_one, Nat.add_right_comm, pow_add]
    exact Nat.mul_lt_mul_of_pos_right Nat.lt_log2_self (Nat.two_pow_pos _)
  · rw [Nat.le_log2 nonzero, pow_add]
    exact Nat.mul_le_mul_right _ (Nat.log2_self_le (by omega))

/-- Rounding to 53 significant bits goes by the bits alone. -/
theorem roundedUnits_mul_two_pow (units scale : Nat) :
    roundedUnits (units * 2 ^ scale) = roundedUnits units * 2 ^ scale := by
  rcases Nat.lt_or_ge units (2 ^ 53) with small | large
  · have exact := @roundedUnits_of_fits units 0 small
    rw [pow_zero, Nat.mul_one] at exact
    rw [roundedUnits_of_fits small, exact]
  · have log2Ge : 53 ≤ Nat.log2 units := (Nat.le_log2 (by omega)).2 large
    have scales : Nat.log2 units + scale - 52 = Nat.log2 units - 52 + scale := by omega
    simp only [roundedUnits]
    rw [log2_mul_two_pow (by omega), scales, pow_add,
      roundEven_mul_mul _ _ (Nat.two_pow_pos scale), Nat.mul_assoc]

/-- Rounding moves a number by half of the last bit that is kept at most. -/
theorem roundedUnits_near (units : Nat) :
    2 * roundedUnits units ≤ 2 * units + 2 ^ (Nat.log2 units - 52) ∧
      2 * units ≤ 2 * roundedUnits units + 2 ^ (Nat.log2 units - 52) := by
  simp only [roundedUnits]
  have positive := Nat.two_pow_pos (Nat.log2 units - 52)
  generalize 2 ^ (Nat.log2 units - 52) = step at *
  have rest := Nat.mod_lt units positive
  have parts := Nat.div_add_mod units step
  have product : step * (units / step) = units / step * step := Nat.mul_comm _ _
  have next : (units / step + 1) * step = units / step * step + step := by ring
  simp only [roundEven]
  split_ifs with below above
  · omega
  · rw [next]
    omega
  · rcases Nat.mod_two_eq_zero_or_one (units / step) with even | odd
    · rw [even, Nat.add_zero]
      omega
    · rw [odd, next]
      omega

/-- The whole number that is the double nearest to an integer. -/
def nearestInt (n : Int) : Int :=
  if n < 0 then -(roundedUnits n.natAbs : Int) else roundedUnits n.natAbs

theorem nearestUnits_eq (n : Int) :
    nearestUnits n = nearestInt n * (Double.unitsPerOne : Int) := by
  obtain ⟨bits, -, unitsEq⟩ := exists_unitsPerOne_eq
  simp only [nearestUnits, nearestInt, unitsEq, roundedUnits_mul_two_pow]
  split_ifs <;> push_cast <;> ring

theorem compare_nearestUnits (m n : Int) :
    compare (nearestUnits m) (nearestUnits n) = compare (nearestInt m) (nearestInt n) := by
  have positive : 0 < (Double.unitsPerOne : Int) := by
    exact_mod_cast Double.unitsPerOne_pos
  simp only [nearestUnits_eq, compare, compareOfLessAndEq, mul_lt_mul_iff_left₀ positive,
    mul_eq_mul_right_iff, positive.ne', or_false]

theorem nearestInt_mono {m n : Int} (le : m ≤ n) : nearestInt m ≤ nearestInt n := by
  have units := nearestUnits_mono le
  rw [nearestUnits_eq, nearestUnits_eq] at units
  exact le_of_mul_le_mul_right units (by exact_mod_cast Double.unitsPerOne_pos)

/-- Up to `2 ^ 53` every integer is a double. -/
theorem nearestInt_of_small {n : Int} (small : n.natAbs ≤ 2 ^ 53) : nearestInt n = n := by
  have exact : roundedUnits n.natAbs = n.natAbs := by
    rcases small.lt_or_eq with less | atBound
    · simpa using @roundedUnits_of_fits n.natAbs 0 less
    · rw [atBound]
      exact @roundedUnits_of_fits 1 53 (by decide)
  rw [nearestInt, exact]
  split_ifs <;> omega

/-- A small integer shares its nearest double with no other one. -/
theorem eq_of_nearestInt_eq {m n : Int} (small : m.natAbs < 2 ^ 53)
    (same : nearestInt m = nearestInt n) : m = n := by
  have exact : nearestInt m = m := nearestInt_of_small (by omega)
  have otherSmall : n.natAbs ≤ 2 ^ 53 := by
    by_contra large
    rcases lt_or_ge n 0 with negative | nonneg
    · have := nearestInt_mono (show n ≤ -9007199254740992 by omega)
      rw [nearestInt_of_small (n := -9007199254740992) (by decide)] at this
      omega
    · have := nearestInt_mono (show 9007199254740992 ≤ n by omega)
      rw [nearestInt_of_small (n := 9007199254740992) (by decide)] at this
      omega
  rw [← exact, same, nearestInt_of_small otherSmall]

theorem nearestInt_near {n : Int} (fits : n.natAbs < 2 ^ 64) :
    nearestInt n - n ≤ 1024 ∧ n - nearestInt n ≤ 1024 := by
  have step : 2 ^ (Nat.log2 n.natAbs - 52) ≤ 2 ^ 11 := by
    apply Nat.pow_le_pow_right (by decide)
    rcases Nat.eq_zero_or_pos n.natAbs with zero | positive
    · simp [zero]
    · have := (Nat.log2_lt (by omega)).2 fits
      omega
  have near := roundedUnits_near n.natAbs
  rw [nearestInt]
  split_ifs <;> omega

end Binary64

open Binary64

namespace Integer

variable {m n : Integer}

/-- An integer as a value. -/
abbrev toJson (n : Integer) : Json :=
  .number (.int n)

/-- Whether two integers are different and have the same nearest double. -/
def Confused (m n : Integer) : Prop :=
  m ≠ n ∧ nearestInt m.val = nearestInt n.val

instance (m n : Integer) : Decidable (m.Confused n) :=
  inferInstanceAs (Decidable (_ ∧ _))

theorem natAbs_lt (n : Integer) : n.val.natAbs < 2 ^ 64 := by
  have := n.fits
  simp only [least, most] at this
  omega

theorem eq_of_val_eq (same : m.val = n.val) : m = n := by
  cases m
  cases n
  simpa using same

/-- Confused integers have the same sign, lie at or past `2 ^ 53`, and are close together. -/
theorem Confused.close (confused : m.Confused n) :
    2 ^ 53 ≤ m.val.natAbs ∧ 2 ^ 53 ≤ n.val.natAbs ∧ (m.val < 0 ↔ n.val < 0) ∧
      (m.val - n.val).natAbs ≤ 2048 := by
  obtain ⟨different, same⟩ := confused
  have mLarge : 2 ^ 53 ≤ m.val.natAbs := by
    by_contra small
    exact different (eq_of_val_eq (eq_of_nearestInt_eq (by omega) same))
  have nLarge : 2 ^ 53 ≤ n.val.natAbs := by
    by_contra small
    exact different (eq_of_val_eq (eq_of_nearestInt_eq (by omega) same.symm).symm)
  have mNear := nearestInt_near m.natAbs_lt
  have nNear := nearestInt_near n.natAbs_lt
  omega

theorem compare_nearestInt_of_lt (less : m.val < n.val) :
    compare (nearestInt m.val) (nearestInt n.val) = if m.Confused n then .eq else .lt := by
  have le := nearestInt_mono less.le
  have different : m ≠ n := by
    rintro rfl
    omega
  split_ifs with confused
  · rw [Int.compare_eq_eq]
    exact confused.2
  · rw [Int.compare_eq_lt]
    exact lt_of_le_of_ne le fun same => confused ⟨different, same⟩

theorem Confused.symm (confused : m.Confused n) : n.Confused m :=
  ⟨confused.1.symm, confused.2.symm⟩

/-- Integers that are not confused compare as their nearest doubles do. -/
theorem compare_nearestInt_iff :
    compare (nearestInt m.val) (nearestInt n.val) = compare m.val n.val ↔ ¬ m.Confused n := by
  constructor
  · rintro agree ⟨different, same⟩
    rw [same, Std.compare_self, eq_comm, Int.compare_eq_eq] at agree
    exact different (eq_of_val_eq agree)
  · intro apart
    rcases lt_trichotomy m.val n.val with less | equal | greater
    · rw [compare_nearestInt_of_lt less, if_neg apart, Int.compare_eq_lt.2 less]
    · rw [equal, Std.compare_self, Std.compare_self]
    · rw [← Int.compare_swap (nearestInt n.val), compare_nearestInt_of_lt greater,
        if_neg fun confused => apart confused.symm, Int.compare_eq_gt.2 greater]
      rfl

/-! ### Answers that rest on comparison -/

/-- Whether all that is told of an integer `m` in a record against an integer `n` is told as
if they stood in an order. -/
structure ToldAs (m n : Integer) (order : Ordering) : Prop where
  same : m.toJson.same n.toJson = (order == .eq)
  compared : m.toJson.compare? n.toJson = some order
  /-- The record that an id asks for. -/
  found : ∀ (collections : Collections) (name : String) (before after : List Record)
    (record : Record), collections.records name = before ++ record :: after →
    (∀ earlier ∈ before, earlier.hasId n.toJson = false) → record.id? = some m.toJson →
    (collections.find? name n.toJson = some record ↔ order = .eq)
  /-- The records that hold a value. -/
  holding : ∀ (collections : Collections) (name field : String),
    ∀ record ∈ collections.records name, Fields.get? field record = some m.toJson →
    (record ∈ collections.holding name field n.toJson ↔ order = .eq)
  greater : ∀ field record, Fields.get? field record = some m.toJson →
    (Condition.mk field .gt n.toJson).holds record = (order == .gt)
  atLeast : ∀ field record, Fields.get? field record = some m.toJson →
    (Condition.mk field .ge n.toJson).holds record = order.isGE
  less : ∀ field record, Fields.get? field record = some m.toJson →
    (Condition.mk field .lt n.toJson).holds record = (order == .lt)
  atMost : ∀ field record, Fields.get? field record = some m.toJson →
    (Condition.mk field .le n.toJson).holds record = order.isLE
  isIn : ∀ field record others, Fields.get? field record = some m.toJson →
    (Condition.mk field .isIn (.array (n.toJson :: others))).holds record =
      (order == .eq || (Condition.mk field .isIn (.array others)).holds record)
  notIn : ∀ field record others, Fields.get? field record = some m.toJson →
    (Condition.mk field .notIn (.array (n.toJson :: others))).holds record =
      (order != .eq && (Condition.mk field .notIn (.array others)).holds record)
  sorted : ∀ (key : SortKey) (a b : Record), Fields.get? key.field a = some m.toJson →
    Fields.get? key.field b = some n.toJson →
    key.compare? a b = some (match key.direction with
      | .ascending => order
      | .descending => order.swap)

theorem compare?_toJson (m n : Integer) :
    m.toJson.compare? n.toJson = some (compare (nearestInt m.val) (nearestInt n.val)) := by
  simp [Json.compare?, Json.numeric?, Number.toBinary64, Binary64.compare?,
    Binary64.orderKey?, Number.toDouble_int_units, compare_nearestUnits]

theorem same_toJson (m n : Integer) :
    m.toJson.same n.toJson = (compare (nearestInt m.val) (nearestInt n.val) == .eq) := by
  have units : m.toJson.same n.toJson = (nearestUnits m.val == nearestUnits n.val) := by
    simp [Json.same, Json.sameBy, Number.same, Number.toDouble_int_units]
  rw [units, ← compare_nearestUnits]
  apply Bool.eq_iff_iff.2
  simp

/-- Everything is told by the nearest doubles. -/
theorem toldAs_nearest (m n : Integer) :
    m.ToldAs n (compare (nearestInt m.val) (nearestInt n.val)) := by
  have compared := compare?_toJson m n
  have same := same_toJson m n
  have back : n.toJson.same m.toJson = (compare (nearestInt m.val) (nearestInt n.val) == .eq) := by
    rw [same_toJson, ← Int.compare_swap]
    cases compare (nearestInt m.val) (nearestInt n.val) <;> rfl
  generalize compare (nearestInt m.val) (nearestInt n.val) = order at *
  constructor
  case same => exact same
  case compared => exact compared
  case found =>
    intro collections name before after record split missed isId
    have hit : record.hasId n.toJson = (order == .eq) := by
      rw [Record.hasId, isId, ← same]
    have noneBefore : before.find? (·.hasId n.toJson) = none :=
      List.find?_eq_none.2 fun earlier member => by simp [missed earlier member]
    rw [Collections.find?, split, List.find?_append, noneBefore, Option.none_or, List.find?_cons,
      hit]
    cases told : order == .eq with
    | true => simpa using told
    | false =>
        simp only [beq_eq_false_iff_ne] at told
        refine iff_of_false (fun later => ?_) told
        have hitLater := List.find?_some later
        rw [hit] at hitLater
        exact told (beq_iff_eq.1 hitLater)
  case holding =>
    intro collections name field record member held
    simp only [Collections.mem_holding, Record.holds, held, same, beq_iff_eq]
    exact and_iff_right member
  case sorted =>
    intro key a b left right
    have ordered : m.toJson.sortCompare? n.toJson = some order := compared
    simp only [SortKey.compare?, left, right, Option.bind_eq_bind, Option.bind_some, ordered]
    cases key.direction <;> rfl
  case isIn =>
    intro field record others held
    have member : n.toJson.isMember m.toJson = (order == .eq) := back
    simp only [Condition.holds, held, Operator.holds, List.any_cons, member]
  case notIn =>
    intro field record others held
    have member : n.toJson.isMember m.toJson = (order == .eq) := back
    simp only [Condition.holds, held, Operator.holds, List.any_cons, member, Bool.not_or]
    cases order <;> rfl
  all_goals
    intro field record held
    simp only [Condition.holds, held, Operator.holds, compared]
    cases order <;> rfl

theorem ToldAs.unique {order other : Ordering} (told : m.ToldAs n order)
    (toldOther : m.ToldAs n other) : order = other :=
  Option.some.inj (told.compared.symm.trans toldOther.compared)

/-- Whether two integers may come one behind the other in a direction. -/
def InTurn (direction : Direction) (m n : Integer) : Prop :=
  match direction with
  | .ascending => m.val ≤ n.val
  | .descending => n.val ≤ m.val

/-- Sorting by a field of integers misplaces none but confused ones. -/
theorem pairwise_sortRecords (key : SortKey) {records : List Record}
    (integers : ∀ record ∈ records, ∃ n : Integer, Fields.get? key.field record = some n.toJson) :
    (sortRecords [key] records).Pairwise fun a b => ∀ m n : Integer,
      Fields.get? key.field a = some m.toJson → Fields.get? key.field b = some n.toJson →
      InTurn key.direction m n ∨ m.Confused n := by
  have orders : ∀ other ∈ [key], other.Orders records := by
    intro other member
    obtain rfl := List.mem_singleton.1 member
    right
    intro record inRecords
    obtain ⟨n, held⟩ := integers record inRecords
    exact ⟨_, held⟩
  have stable := (stableSort_iff orders).2 rfl
  apply stable.ordered.imp
  intro a b ordered m n left right
  by_contra wrong
  obtain ⟨misplaced, apart⟩ := not_or.1 wrong
  have told := (toldAs_nearest m n).sorted key a b left right
  rw [compare_nearestInt_iff.2 apart] at told
  apply ordered
  cases way : key.direction with
  | ascending =>
      simp only [InTurn, way, not_le] at misplaced
      simp only [way, Int.compare_eq_gt.2 misplaced] at told
      rw [SortKey.compareBy, told]
  | descending =>
      simp only [InTurn, way, not_le] at misplaced
      simp only [way, Int.compare_eq_lt.2 misplaced, Ordering.swap] at told
      rw [SortKey.compareBy, told]

/-- Two integers are told of as if they stood in the order of their nearest doubles, which is
their own order exactly if they are not confused.  The order is never reversed, integers that
are confused are large and close together, and sorting misplaces no others. -/
theorem told_by_nearest (m n : Integer) :
    m.ToldAs n (compare (nearestInt m.val) (nearestInt n.val)) ∧
      (m.ToldAs n (compare m.val n.val) ↔ ¬ m.Confused n) ∧
      (∀ order, m.ToldAs n order → m.val < n.val → order ≠ .gt) ∧
      (m.Confused n → 2 ^ 53 ≤ m.val.natAbs ∧ 2 ^ 53 ≤ n.val.natAbs ∧
        (m.val < 0 ↔ n.val < 0) ∧ (m.val - n.val).natAbs ≤ 2048) ∧
      ∀ (key : SortKey) (records : List Record),
        (∀ record ∈ records, ∃ k : Integer, Fields.get? key.field record = some k.toJson) →
        (sortRecords [key] records).Pairwise fun a b => ∀ k l : Integer,
          Fields.get? key.field a = some k.toJson → Fields.get? key.field b = some l.toJson →
          InTurn key.direction k l ∨ k.Confused l := by
  refine ⟨toldAs_nearest m n, ?_, ?_, Confused.close, fun key records =>
    pairwise_sortRecords key⟩
  · rw [← compare_nearestInt_iff]
    constructor
    · exact fun told => (toldAs_nearest m n).unique told
    · exact fun agree => agree ▸ toldAs_nearest m n
  · intro order told less
    rw [told.unique (toldAs_nearest m n), compare_nearestInt_of_lt less]
    split_ifs <;> decide

/-- The largest integer up to which all are doubles, and the next one. -/
def edge : Integer × Integer :=
  (⟨9007199254740992, by decide⟩, ⟨9007199254740993, by decide⟩)

/-- Records with a field `year` of given integers. -/
def yearRecords (years : List Integer) : List Record :=
  years.map fun n => [("year", n.toJson)]

/-- The two integers at the edge are confused, and sorting can misplace no others. -/
theorem told_by_nearest_edge :
    (2 ^ 53 ≤ edge.1.val.natAbs ∧ 2 ^ 53 ≤ edge.2.val.natAbs ∧
      (edge.1.val < 0 ↔ edge.2.val < 0) ∧ (edge.1.val - edge.2.val).natAbs ≤ 2048) ∧
    (sortRecords [⟨"year", .ascending⟩] (yearRecords [edge.2, edge.1, default])).Pairwise
      fun a b => ∀ m n : Integer, Fields.get? "year" a = some m.toJson →
        Fields.get? "year" b = some n.toJson → InTurn .ascending m n ∨ m.Confused n := by
  obtain ⟨-, -, -, close, sorted⟩ := told_by_nearest edge.1 edge.2
  refine ⟨close (by decide +kernel), sorted ⟨"year", .ascending⟩ _ ?_⟩
  simp [yearRecords, Fields.get?]

/-- Equality of values takes two different integers for one. -/
theorem same_at_edge : ¬ ∀ m n : Integer, m.toJson.same n.toJson = true ↔ m = n := by
  intro exact
  have equal := (exact edge.1 edge.2).1 (by decide +kernel)
  exact absurd equal (by decide)

end Integer

end DocStore
