import DocStore.Number.Shortest
import DocStore.Proofs.NearestDouble
import Mathlib.Data.Rat.Cast.Order
import Mathlib.Algebra.Order.Field.Power
import Mathlib.Tactic.FieldSimp
import Mathlib.Tactic.Linarith
import Mathlib.Tactic.Positivity

/-!
# Rounding intervals

The intervals of reals that round to two doubles of different magnitude have no point in
common, and the shortest decimal of a double lies in its own interval.  A text that denotes a
decimal in the interval of a double therefore belongs to that double alone, up to its sign.
-/

namespace DocStore

/-- The rational number that a decimal is. -/
def Decimal.value (d : Decimal) : ℚ :=
  d.coefficient * 10 ^ d.exponent

namespace Double

variable {x y : Double}

theorem magnitude_eq (x : Double) : x.magnitude = x.significand * 2 ^ x.scale :=
  Nat.shiftLeft_eq ..

theorem lt_of_scale_lt (finer : x.scale < y.scale) : x.magnitude < y.magnitude := by
  have full : leastNormal ≤ y.significand := by
    rcases y.canonical.2.1 with zero | full
    · omega
    · exact full
  calc x.magnitude = x.significand * 2 ^ x.scale := x.magnitude_eq
    _ < significandBound * 2 ^ x.scale :=
      Nat.mul_lt_mul_of_pos_right x.canonical.1 (Nat.two_pow_pos _)
    _ = leastNormal * 2 ^ (x.scale + 1) := by
      rw [pow_succ, Nat.mul_comm (2 ^ x.scale), ← Nat.mul_assoc]
      rfl
    _ ≤ leastNormal * 2 ^ y.scale :=
      Nat.mul_le_mul_left _ (Nat.pow_le_pow_right (by decide) finer)
    _ ≤ y.significand * 2 ^ y.scale := Nat.mul_le_mul_right _ full
    _ = y.magnitude := y.magnitude_eq.symm

/-- A double is determined by its sign and its magnitude. -/
theorem ext_of_magnitude (sign : x.negative = y.negative) (magnitude : x.magnitude = y.magnitude) :
    x = y := by
  have scales : x.scale = y.scale := by
    rcases lt_trichotomy x.scale y.scale with finer | same | coarser
    · exact absurd magnitude (lt_of_scale_lt finer).ne
    · exact same
    · exact absurd magnitude (lt_of_scale_lt coarser).ne'
  have significands : x.significand = y.significand := by
    rw [magnitude_eq, magnitude_eq, scales] at magnitude
    exact Nat.eq_of_mul_eq_mul_right (Nat.two_pow_pos _) magnitude
  cases x
  cases y
  simp_all

namespace Interval

variable {i : Interval}

/-- Whether a point lies in the interval. -/
def Holds (i : Interval) (point : ℚ) : Prop :=
  if i.closed then i.low ≤ point ∧ point ≤ i.high else i.low < point ∧ point < i.high

theorem Holds.between {point : ℚ} (holds : i.Holds point) : i.low ≤ point ∧ point ≤ i.high := by
  unfold Holds at holds
  split_ifs at holds
  · exact holds
  · exact ⟨holds.1.le, holds.2.le⟩

theorem admits_iff {point : Nat} : i.admits point = true ↔ i.Holds point := by
  unfold admits Holds
  split_ifs <;> simp

theorem holds_scaled {point : ℚ} {factor : Nat} (positive : 0 < factor) :
    (i.scaled factor).Holds (point * factor) ↔ i.Holds point := by
  have positive : (0 : ℚ) < factor := by exact_mod_cast positive
  simp only [Holds, scaled, Nat.cast_mul, mul_le_mul_iff_left₀ positive,
    mul_lt_mul_iff_left₀ positive]

theorem multiple?_holds {step factor : Nat} (found : i.multiple? step = some factor) :
    i.Holds (factor * step : Nat) := by
  rw [← admits_iff]
  unfold multiple? at found
  dsimp only at found
  split at found
  · rename_i below above
    split_ifs at found
    all_goals
      obtain rfl := Option.some.inj found
      assumption
  · rename_i below _
    obtain rfl := Option.some.inj found
    exact below
  · rename_i _ above
    obtain rfl := Option.some.inj found
    exact above
  · cases found

/-- A step that is shorter than the way from the value up to the end finds a multiple. -/
theorem multiple?_isSome {step : Nat} (positive : 0 < step) (lowLe : i.low ≤ i.value)
    (short : i.value + step < i.high) : (i.multiple? step).isSome = true := by
  have rest := Nat.mod_lt i.value positive
  have parts := Nat.div_add_mod i.value step
  have next : (i.value / step + 1) * step = step * (i.value / step) + step := by ring
  have above : i.admits ((i.value / step + 1) * step) = true := by
    rw [admits_iff, Holds]
    have lower : i.low < (i.value / step + 1) * step := by omega
    have upper : (i.value / step + 1) * step < i.high := by omega
    split_ifs
    · exact ⟨by exact_mod_cast lower.le, by exact_mod_cast upper.le⟩
    · exact ⟨by exact_mod_cast lower, by exact_mod_cast upper⟩
  unfold multiple?
  dsimp only
  rw [above]
  cases i.admits (i.value / step * step) with
  | false => rfl
  | true =>
      dsimp only
      split_ifs <;> rfl

theorem value_eq_div {d : Decimal} (negative : d.exponent < 0) :
    d.value * (10 ^ d.exponent.natAbs : Nat) = d.coefficient := by
  have exponent : d.exponent = -(d.exponent.natAbs : Int) := by omega
  rw [Decimal.value, exponent, zpow_neg, zpow_natCast, Int.natAbs_neg, Int.natAbs_natCast]
  push_cast
  field_simp

theorem value_eq_mul {d : Decimal} (nonneg : 0 ≤ d.exponent) :
    d.value = d.coefficient * (10 ^ d.exponent.natAbs : Nat) := by
  have exponent : d.exponent = (d.exponent.natAbs : Int) := by omega
  rw [Decimal.value, exponent, zpow_natCast, Int.natAbs_natCast]
  push_cast
  rfl

/-- A decimal that is found lies in the interval, which is given in quarters of a unit. -/
theorem decimal?_holds {exponent : Int} {d : Decimal} (found : i.decimal? exponent = some d) :
    i.Holds (4 * unitsPerOne * d.value) := by
  obtain ⟨coefficient, isMultiple, rfl⟩ := Option.map_eq_some_iff.1 found
  split_ifs at isMultiple with negative
  · have power := Nat.pow_pos (n := exponent.natAbs) (show 0 < 10 by decide)
    have holds := multiple?_holds isMultiple
    have point : ((coefficient * (4 * unitsPerOne) : Nat) : ℚ) =
        4 * unitsPerOne * Decimal.value ⟨coefficient, exponent⟩ *
          (10 ^ exponent.natAbs : Nat) := by
      rw [mul_assoc, value_eq_div negative]
      push_cast
      ring
    rw [point] at holds
    exact (holds_scaled power).1 holds
  · have holds := multiple?_holds isMultiple
    have point : ((coefficient * (Nat.pow 10 exponent.natAbs * (4 * unitsPerOne)) : Nat) : ℚ) =
        4 * unitsPerOne * Decimal.value ⟨coefficient, exponent⟩ := by
      rw [value_eq_mul (not_lt.1 negative), Nat.pow_eq]
      push_cast
      ring
    rw [point] at holds
    exact holds

theorem exists_of_search {exponent : Int} {fuel : Nat} {d : Decimal}
    (found : i.search exponent fuel = some d) : ∃ there, i.decimal? there = some d := by
  induction fuel generalizing exponent with
  | zero => cases found
  | succ fuel ih =>
      rw [search, Option.or_eq_some_iff] at found
      rcases found with here | ⟨-, later⟩
      · exact ⟨exponent, here⟩
      · exact ih later

theorem search_isSome {exponent : Int} {fuel steps : Nat} (within : steps < fuel)
    (found : (i.decimal? (exponent - steps)).isSome = true) :
    (i.search exponent fuel).isSome = true := by
  induction fuel generalizing exponent steps with
  | zero => omega
  | succ fuel ih =>
      rw [search, Option.isSome_or, Bool.or_eq_true]
      cases steps with
      | zero =>
          left
          simpa using found
      | succ steps =>
          right
          have shifted : exponent - (steps + 1 : Nat) = exponent - 1 - steps := by
            push_cast
            ring
          exact ih (by omega) (shifted ▸ found)

end Interval

theorem low_le (x : Double) : x.interval.low ≤ x.interval.value := by
  exact Nat.sub_le ..

theorem high_eq (x : Double) : x.interval.high = x.interval.value + 2 * 2 ^ x.scale := by
  simp only [interval, Nat.shiftLeft_eq]

/-- A power of ten that is short against the interval has a multiple in it. -/
theorem decimal?_isSome {exponent : Int}
    (short : (10 : ℚ) ^ exponent * (2 * unitsPerOne) < 2 ^ x.scale) :
    (x.interval.decimal? exponent).isSome = true := by
  have onePositive := unitsPerOne_pos
  have power := Nat.pow_pos (n := exponent.natAbs) (show 0 < 10 by decide)
  unfold Interval.decimal?
  dsimp only
  rw [Option.isSome_map]
  split_ifs with negative
  · apply Interval.multiple?_isSome (by omega)
    · exact Nat.mul_le_mul_right _ x.low_le
    · have inverse : (10 : ℚ) ^ exponent * (10 ^ exponent.natAbs : Nat) = 1 := by
        have exponentEq : exponent = -(exponent.natAbs : Int) := by omega
        rw [exponentEq, zpow_neg, zpow_natCast, Int.natAbs_neg, Int.natAbs_natCast]
        push_cast
        field_simp
      have scaled : ((2 * unitsPerOne : Nat) : ℚ) < (2 ^ x.scale * 10 ^ exponent.natAbs : Nat) := by
        have positive : (0 : ℚ) < (10 ^ exponent.natAbs : Nat) := by exact_mod_cast power
        have := mul_lt_mul_of_pos_right short positive
        rw [mul_right_comm, inverse, one_mul] at this
        exact_mod_cast this
      have scaled : 2 * unitsPerOne < 2 ^ x.scale * 10 ^ exponent.natAbs := by exact_mod_cast scaled
      simp only [Interval.scaled, Nat.pow_eq, high_eq, Nat.add_mul]
      have : 2 * 2 ^ x.scale * 10 ^ exponent.natAbs = 2 * (2 ^ x.scale * 10 ^ exponent.natAbs) :=
        Nat.mul_assoc ..
      omega
  · apply Interval.multiple?_isSome (Nat.mul_pos power (by omega)) x.low_le
    have exponentEq : exponent = (exponent.natAbs : Int) := by omega
    rw [exponentEq, zpow_natCast] at short
    have short : 10 ^ exponent.natAbs * (2 * unitsPerOne) < 2 ^ x.scale := by
      exact_mod_cast short
    have : 10 ^ exponent.natAbs * (4 * unitsPerOne) =
        2 * (10 ^ exponent.natAbs * (2 * unitsPerOne)) := by ring
    rw [high_eq]
    change _ + 10 ^ exponent.natAbs * (4 * unitsPerOne) < _
    omega

/-! ### The search ends -/

private theorem ten_pow_le : ∀ t < 1024, 10 ^ (t * 30103 / 100000) ≤ 2 * 2 ^ t := by
  decide +kernel

private theorem two_pow_le : ∀ t < 1077, 2 ^ t ≤ 10 ^ ((t * 30103 + 99999) / 100000) := by
  decide +kernel

/-- The power of ten at which the search starts is at most twice the power of two that it is
taken from. -/
theorem ten_zpow_le {t : Int} (low : -1076 ≤ t) (high : t < 1024) :
    (10 : ℚ) ^ (t * 30103 / 100000) ≤ 2 * 2 ^ t := by
  rcases Int.le_total 0 t with nonneg | nonpos
  · obtain ⟨n, rfl⟩ := Int.eq_ofNat_of_zero_le nonneg
    have exponent : ((n : Int) * 30103 / 100000) = ((n * 30103 / 100000 : Nat) : Int) := by omega
    rw [exponent, zpow_natCast, zpow_natCast]
    exact_mod_cast ten_pow_le n (by omega)
  · obtain ⟨n, minus⟩ := Int.eq_ofNat_of_zero_le (Int.neg_nonneg_of_nonpos nonpos)
    obtain rfl : t = -n := by omega
    have exponent : -(n : Int) * 30103 / 100000 = -((n * 30103 + 99999) / 100000 : Nat) := by
      omega
    have powers : (2 : ℚ) ^ n ≤ 10 ^ ((n * 30103 + 99999) / 100000) := by
      exact_mod_cast two_pow_le n (by omega)
    rw [exponent, zpow_neg, zpow_neg, zpow_natCast, zpow_natCast]
    have inverses := inv_anti₀ (by positivity) powers
    have positive : (0 : ℚ) < (2 ^ n)⁻¹ := by positivity
    linarith

theorem high_pos (x : Double) : 0 < x.interval.high := by
  rw [high_eq]
  have := Nat.two_pow_pos x.scale
  omega

theorem log2_high_lt (x : Double) : Nat.log2 x.interval.high < x.scale + 55 := by
  rw [Nat.log2_lt x.high_pos.ne', high_eq]
  have significand : x.significand < 2 ^ 53 := x.canonical.1
  calc x.interval.value + 2 * 2 ^ x.scale = (4 * x.significand + 2) * 2 ^ x.scale := by
        rw [interval, magnitude_eq]
        ring
    _ < 2 ^ 55 * 2 ^ x.scale :=
        Nat.mul_lt_mul_of_pos_right (by omega) (Nat.two_pow_pos _)
    _ = 2 ^ (x.scale + 55) := by ring

/-- After at most 23 further powers the search has found a decimal. -/
theorem search_of_start (x : Double) :
    (x.interval.search (((Nat.log2 x.interval.high : Int) - 1076) * 30103 / 100000 + 1)
      24).isSome = true := by
  apply Interval.search_isSome (show 23 < 24 by decide)
  have bits := x.log2_high_lt
  have scale := x.canonical.2.2
  have start := ten_zpow_le (t := (Nat.log2 x.interval.high : Int) - 1076) (by omega) (by omega)
  generalize ((Nat.log2 x.interval.high : Int) - 1076) * 30103 / 100000 = power at start ⊢
  apply decimal?_isSome
  obtain ⟨bitsPerOne, bitsPerOneEq, one⟩ := Binary64.exists_unitsPerOne_eq
  have exponents : (2 : ℚ) ^ ((Nat.log2 x.interval.high : Int) - 1076) * (2 * 2 ^ bitsPerOne) ≤
      2 ^ x.scale * 2 ^ 53 := by
    rw [← pow_succ', ← pow_add, ← zpow_natCast, ← zpow_natCast, ← zpow_add₀ (by norm_num)]
    exact zpow_le_zpow_right₀ (by norm_num) (by push_cast; omega)
  rw [one]
  push_cast
  have split : (10 : ℚ) ^ (power + 1 - 23) = 10 ^ power / 10 ^ 22 := by
    rw [show power + 1 - 23 = power - (22 : Nat) by push_cast; ring, zpow_sub₀ (by norm_num),
      zpow_natCast]
  have scalePositive : (0 : ℚ) < 2 ^ x.scale := by positivity
  have onePositive : (0 : ℚ) < 2 * 2 ^ bitsPerOne := by positivity
  calc (10 : ℚ) ^ (power + 1 - 23) * (2 * 2 ^ bitsPerOne)
      = 10 ^ power * (2 * 2 ^ bitsPerOne) / 10 ^ 22 := by rw [split]; ring
    _ ≤ 2 * 2 ^ ((Nat.log2 x.interval.high : Int) - 1076) * (2 * 2 ^ bitsPerOne) / 10 ^ 22 := by
        gcongr
    _ = 2 * (2 ^ ((Nat.log2 x.interval.high : Int) - 1076) * (2 * 2 ^ bitsPerOne)) / 10 ^ 22 := by
        ring
    _ ≤ 2 * (2 ^ x.scale * 2 ^ 53) / 10 ^ 22 := by gcongr
    _ < 2 ^ x.scale := by
        rw [div_lt_iff₀ (by norm_num)]
        linarith

/-- The shortest decimal of a double lies in its interval. -/
theorem shortest_holds (x : Double) :
    x.interval.Holds (4 * unitsPerOne * x.shortest.value) := by
  obtain ⟨d, found⟩ := Option.isSome_iff_exists.1 x.search_of_start
  have isShortest : x.shortest = d := by
    simp only [shortest, found, Option.getD_some]
  obtain ⟨exponent, atExponent⟩ := Interval.exists_of_search found
  rw [isShortest]
  exact Interval.decimal?_holds atExponent

/-! ### The intervals are disjoint -/

theorem low_eq (x : Double) : x.interval.low =
    (4 * x.significand - if x.significand = leastNormal ∧ x.scale ≠ 0 then 1 else 2) *
      2 ^ x.scale := by
  rw [Nat.sub_mul, interval, magnitude_eq]
  simp only [Nat.shiftLeft_eq]
  ring_nf

theorem high_eq_mul (x : Double) :
    x.interval.high = (4 * x.significand + 2) * 2 ^ x.scale := by
  rw [high_eq, interval, magnitude_eq]
  ring

theorem closed_eq (x : Double) : x.interval.closed = (x.significand % 2 == 0) := rfl

/-- The intervals of two magnitudes share at most an end, and then one of them is open. -/
theorem high_le_low (less : x.magnitude < y.magnitude) :
    x.interval.high ≤ y.interval.low ∧
      (x.interval.high = y.interval.low → x.interval.closed = false ∨ y.interval.closed = false) := by
  have below : x.significand < 2 ^ 53 := x.canonical.1
  have least : leastNormal = 2 ^ 52 := rfl
  rw [high_eq_mul, low_eq, closed_eq, closed_eq, beq_eq_false_iff_ne, beq_eq_false_iff_ne]
  rcases lt_trichotomy x.scale y.scale with finer | same | coarser
  · -- The next scale begins at the end of the interval of the largest significand.
    have full : leastNormal ≤ y.significand := by
      rcases y.canonical.2.1 with zero | full
      · omega
      · exact full
    have lowGe : 2 ^ 54 - 1 ≤
        4 * y.significand - if y.significand = leastNormal ∧ y.scale ≠ 0 then 1 else 2 := by
      split_ifs <;> omega
    have highLe : 4 * x.significand + 2 ≤ (2 ^ 54 - 1) * 2 := by omega
    have powers : 2 * 2 ^ x.scale ≤ 2 ^ y.scale := by
      rw [← pow_succ']
      exact Nat.pow_le_pow_right (by decide) finer
    have middle : (2 ^ 54 - 1) * 2 * 2 ^ x.scale ≤ (2 ^ 54 - 1) * 2 ^ y.scale := by
      rw [Nat.mul_assoc]
      exact Nat.mul_le_mul_left _ powers
    have left := Nat.mul_le_mul_right (2 ^ x.scale) highLe
    have right := Nat.mul_le_mul_right (2 ^ y.scale) lowGe
    refine ⟨left.trans (middle.trans right), fun meet => .inl ?_⟩
    have largest : 4 * x.significand + 2 = (2 ^ 54 - 1) * 2 :=
      Nat.eq_of_mul_eq_mul_right (Nat.two_pow_pos x.scale) (by omega)
    omega
  · rw [magnitude_eq, magnitude_eq, same] at less
    have next := lt_of_mul_lt_mul_right less (Nat.zero_le _)
    have noGap : ¬ (y.significand = leastNormal ∧ y.scale ≠ 0) := by
      rintro ⟨least, notZero⟩
      rcases x.canonical.2.1 with zero | full
      · exact notZero (same ▸ zero)
      · omega
    rw [if_neg noGap, same]
    refine ⟨Nat.mul_le_mul_right _ (by omega), fun meet => ?_⟩
    have := Nat.eq_of_mul_eq_mul_right (Nat.two_pow_pos _) meet
    omega
  · exact absurd less (lt_of_scale_lt coarser).le.not_gt

theorem not_holds_of_lt {point : ℚ} (less : x.magnitude < y.magnitude)
    (first : x.interval.Holds point) (second : y.interval.Holds point) : False := by
  obtain ⟨apart, meet⟩ := high_le_low less
  have apart : (x.interval.high : ℚ) ≤ y.interval.low := by exact_mod_cast apart
  have upper := first.between.2
  have lower := second.between.1
  have ends : x.interval.high = y.interval.low := by
    have : (x.interval.high : ℚ) = y.interval.low := le_antisymm apart (lower.trans upper)
    exact_mod_cast this
  rcases meet ends with isOpen | isOpen
  · simp only [Interval.Holds, isOpen, Bool.false_eq_true, if_false] at first
    linarith
  · simp only [Interval.Holds, isOpen, Bool.false_eq_true, if_false] at second
    linarith

/-- A point lies in the intervals of doubles of one magnitude only. -/
theorem magnitude_eq_of_holds {point : ℚ} (first : x.interval.Holds point)
    (second : y.interval.Holds point) : x.magnitude = y.magnitude := by
  rcases lt_trichotomy x.magnitude y.magnitude with less | same | more
  · exact (not_holds_of_lt less first second).elim
  · exact same
  · exact (not_holds_of_lt more second first).elim

/-! ### Points of the intervals -/

theorem magnitude_pos (nonzero : x.significand ≠ 0) : 0 < x.magnitude := by
  rw [magnitude_eq]
  exact Nat.mul_pos (Nat.pos_of_ne_zero nonzero) (Nat.two_pow_pos _)

theorem two_mul_magnitude_le_low (x : Double) : 2 * x.magnitude ≤ x.interval.low := by
  rw [low_eq, magnitude_eq, ← Nat.mul_assoc]
  apply Nat.mul_le_mul_right
  split_ifs <;> omega

theorem Interval.Holds.two_mul_magnitude_le {point : ℚ} (holds : x.interval.Holds point) :
    (2 * x.magnitude : ℚ) ≤ point :=
  le_trans (by exact_mod_cast x.two_mul_magnitude_le_low) holds.between.1

theorem holds_magnitude (nonzero : x.significand ≠ 0) :
    x.interval.Holds (4 * x.magnitude) := by
  have lower : x.interval.low < 4 * x.magnitude := by
    rw [low_eq, magnitude_eq, ← Nat.mul_assoc]
    apply Nat.mul_lt_mul_of_pos_right _ (Nat.two_pow_pos _)
    split_ifs <;> omega
  have upper : 4 * x.magnitude < x.interval.high := by
    rw [high_eq, show x.interval.value = 4 * x.magnitude from rfl]
    have := Nat.two_pow_pos x.scale
    omega
  have lower : (x.interval.low : ℚ) < 4 * x.magnitude := by exact_mod_cast lower
  have upper : (4 * x.magnitude : ℚ) < x.interval.high := by exact_mod_cast upper
  unfold Interval.Holds
  split_ifs
  · exact ⟨lower.le, upper.le⟩
  · exact ⟨lower, upper⟩

/-- No natural number rounds to a double that is not whole. -/
theorem isWhole_of_holds {n : Nat} (holds : x.interval.Holds (4 * unitsPerOne * n)) :
    x.isWhole = true := by
  obtain ⟨bits, -, one⟩ := Binary64.exists_unitsPerOne_eq
  rw [isWhole, beq_iff_eq, magnitude_eq, one]
  rcases Nat.lt_or_ge x.scale bits with fine | coarse
  · -- Multiples of the spacing that round to a double are the double itself.
    obtain ⟨more, rfl⟩ := Nat.exists_eq_add_of_le fine.le
    obtain ⟨lower, upper⟩ := holds.between
    have point : (4 * unitsPerOne * n : ℚ) = ((4 * (2 ^ more * n) * 2 ^ x.scale : Nat) : ℚ) := by
      rw [one, pow_add]
      push_cast
      ring
    rw [point, low_eq] at lower
    rw [point, high_eq_mul] at upper
    have lower := Nat.le_of_mul_le_mul_right (by exact_mod_cast lower) (Nat.two_pow_pos _)
    have upper := Nat.le_of_mul_le_mul_right (by exact_mod_cast upper) (Nat.two_pow_pos _)
    have exact : x.significand = 2 ^ more * n := by
      split_ifs at lower <;> omega
    rw [exact, pow_add, Nat.mul_right_comm, Nat.mul_comm (2 ^ x.scale)]
    exact Nat.mul_mod_right ..
  · exact Nat.mod_eq_zero_of_dvd (Dvd.dvd.mul_left (pow_dvd_pow 2 coarse) _)

end Double

end DocStore
