import DocStore.Json.Comparison
import Mathlib.Algebra.Order.Ring.Nat
import Mathlib.Tactic.Ring

/-!
# The double nearest to an integer

Doubles are counted in units of the least positive one.  The nearest double of an
integer keeps 53 significant bits of its units, so rounding is monotone, leaves
what fits into 53 bits alone, and makes a whole number of a whole number.
-/

namespace DocStore

namespace Binary64

/-- Units rounded to 53 significant bits, a tie going to the even significand. -/
def roundedUnits (units : Nat) : Nat :=
  roundEven units (2 ^ (Nat.log2 units - 52)) * 2 ^ (Nat.log2 units - 52)

theorem roundEven_ge (numerator denominator : Nat) :
    numerator / denominator ≤ roundEven numerator denominator := by
  simp only [roundEven]
  split_ifs <;> omega

theorem roundEven_le (numerator denominator : Nat) :
    roundEven numerator denominator ≤ numerator / denominator + 1 := by
  simp only [roundEven]
  split_ifs <;> omega

theorem roundEven_mono {first second denominator : Nat} (le : first ≤ second) :
    roundEven first denominator ≤ roundEven second denominator := by
  rcases Nat.lt_or_ge (first / denominator) (second / denominator) with less | notLess
  · exact (roundEven_le _ _).trans (le_trans less (roundEven_ge _ _))
  · have quotients : first / denominator = second / denominator :=
      (Nat.div_le_div_right le).antisymm notLess
    have rests : first % denominator ≤ second % denominator := by
      have firstParts := Nat.div_add_mod first denominator
      have secondParts := Nat.div_add_mod second denominator
      rw [quotients] at firstParts
      omega
    simp only [roundEven, quotients]
    split_ifs <;> omega

theorem roundEven_mul (quotient : Nat) {denominator : Nat} (positive : 0 < denominator) :
    roundEven (quotient * denominator) denominator = quotient := by
  simp [roundEven, Nat.mul_div_cancel _ positive, positive]

theorem roundEven_mul_mul (numerator denominator : Nat) {factor : Nat} (positive : 0 < factor) :
    roundEven (numerator * factor) (denominator * factor) = roundEven numerator denominator := by
  have rests : 2 * (numerator % denominator * factor) = 2 * (numerator % denominator) * factor := by
    ring
  simp only [roundEven, Nat.mul_div_mul_right _ _ positive, Nat.mul_mod_mul_right, rests,
    Nat.mul_lt_mul_right positive]

theorem log2_mono {first second : Nat} (le : first ≤ second) :
    Nat.log2 first ≤ Nat.log2 second := by
  rcases Nat.eq_zero_or_pos first with rfl | positive
  · simp
  · exact (Nat.le_log2 (by omega)).2 ((Nat.log2_self_le (by omega)).trans le)

theorem roundEven_le_bound (units : Nat) :
    roundEven units (2 ^ (Nat.log2 units - 52)) ≤ 2 ^ 53 := by
  have unitsLt : units < 2 ^ 53 * 2 ^ (Nat.log2 units - 52) := by
    rw [← pow_add]
    exact Nat.lt_log2_self.trans_le (Nat.pow_le_pow_right (by omega) (by omega))
  have quotientLt := Nat.div_lt_of_lt_mul (Nat.mul_comm _ _ ▸ unitsLt)
  exact (roundEven_le _ _).trans quotientLt

theorem leastNormal_le_roundEven (units : Nat) (scaled : 0 < Nat.log2 units - 52) :
    2 ^ 52 ≤ roundEven units (2 ^ (Nat.log2 units - 52)) := by
  refine le_trans ?_ (roundEven_ge _ _)
  rw [Nat.le_div_iff_mul_le (Nat.two_pow_pos _), ← pow_add]
  have nonzero : units ≠ 0 := by
    rintro rfl
    simp at scaled
  exact (Nat.pow_le_pow_right (by omega) (by omega)).trans (Nat.log2_self_le nonzero)

theorem roundedUnits_mono {first second : Nat} (le : first ≤ second) :
    roundedUnits first ≤ roundedUnits second := by
  simp only [roundedUnits]
  rcases (Nat.sub_le_sub_right (log2_mono le) 52).eq_or_lt with scales | finer
  · rw [scales]
    exact Nat.mul_le_mul_right _ (roundEven_mono le)
  · have coarser : 0 < Nat.log2 second - 52 := by omega
    calc roundEven first (2 ^ (Nat.log2 first - 52)) * 2 ^ (Nat.log2 first - 52)
        ≤ 2 ^ 53 * 2 ^ (Nat.log2 first - 52) :=
          Nat.mul_le_mul_right _ (roundEven_le_bound first)
      _ = 2 ^ (53 + (Nat.log2 first - 52)) := (pow_add ..).symm
      _ ≤ 2 ^ (52 + (Nat.log2 second - 52)) := Nat.pow_le_pow_right (by omega) (by omega)
      _ = 2 ^ 52 * 2 ^ (Nat.log2 second - 52) := pow_add ..
      _ ≤ _ := Nat.mul_le_mul_right _ (leastNormal_le_roundEven _ coarser)

/-- A significand of 53 bits is not rounded. -/
theorem roundedUnits_of_fits {significand scale : Nat} (fits : significand < 2 ^ 53) :
    roundedUnits (significand * 2 ^ scale) = significand * 2 ^ scale := by
  rcases Nat.eq_zero_or_pos significand with rfl | positive
  · simp [roundedUnits, roundEven]
  have below : significand * 2 ^ scale < 2 ^ (53 + scale) := by
    rw [pow_add]
    exact Nat.mul_lt_mul_of_pos_right fits (Nat.two_pow_pos _)
  have nonzero : significand * 2 ^ scale ≠ 0 :=
    Nat.mul_ne_zero (by omega) (Nat.two_pow_pos _).ne'
  have scaleLe : Nat.log2 (significand * 2 ^ scale) - 52 ≤ scale := by
    have := (Nat.log2_lt nonzero).2 below
    omega
  obtain ⟨excess, scaleEq⟩ := Nat.exists_eq_add_of_le scaleLe
  simp only [roundedUnits]
  generalize Nat.log2 (significand * 2 ^ scale) - 52 = least at scaleEq
  subst scaleEq
  rw [pow_add, Nat.mul_comm (2 ^ least), ← Nat.mul_assoc,
    roundEven_mul _ (Nat.two_pow_pos _)]

theorem exists_unitsPerOne_eq : ∃ bits, bits = 1074 ∧ Double.unitsPerOne = 2 ^ bits := by
  unfold Double.unitsPerOne
  generalize 1074 = bits
  exact ⟨bits, rfl, Nat.one_shiftLeft bits⟩

/-- The nearest double of a whole number is a whole number. -/
theorem unitsPerOne_dvd_roundedUnits (n : Nat) :
    Double.unitsPerOne ∣ roundedUnits (n * Double.unitsPerOne) := by
  obtain ⟨bits, bitsEq, unitsEq⟩ := exists_unitsPerOne_eq
  rw [unitsEq]
  rcases Nat.lt_or_ge n (2 ^ 53) with small | large
  · rw [roundedUnits_of_fits small]
    exact Nat.dvd_mul_left _ _
  · have nonzero : n * 2 ^ bits ≠ 0 :=
      Nat.mul_ne_zero (by omega) (Nat.two_pow_pos _).ne'
    have log2Ge : 53 + bits ≤ Nat.log2 (n * 2 ^ bits) := by
      rw [Nat.le_log2 nonzero, pow_add]
      exact Nat.mul_le_mul_right _ large
    exact Dvd.dvd.mul_left (pow_dvd_pow 2 (by omega)) _

/-- The nearest double to a signed multiple of the least one. -/
def signedUnits (units : Int) : Int :=
  if units < 0 then -(roundedUnits units.natAbs : Int) else roundedUnits units.natAbs

theorem signedUnits_mono {m n : Int} (le : m ≤ n) : signedUnits m ≤ signedUnits n := by
  simp only [signedUnits]
  split_ifs with mNegative nNegative nNegative
  · have := roundedUnits_mono (show n.natAbs ≤ m.natAbs by omega)
    omega
  · omega
  · omega
  · have := roundedUnits_mono (show m.natAbs ≤ n.natAbs by omega)
    omega

theorem signedUnits_eq_self {units : Int} (exact : roundedUnits units.natAbs = units.natAbs) :
    signedUnits units = units := by
  rw [signedUnits, exact]
  split_ifs <;> omega

/-- The units of the double nearest to an integer. -/
def nearestUnits (n : Int) : Int :=
  if n < 0 then -(roundedUnits (n.natAbs * Double.unitsPerOne) : Int)
  else roundedUnits (n.natAbs * Double.unitsPerOne)

theorem nearestUnits_eq_signedUnits (n : Int) :
    nearestUnits n = signedUnits (n * (Double.unitsPerOne : Int)) := by
  obtain ⟨bits, -, unitsEq⟩ := exists_unitsPerOne_eq
  have positive : (0 : Int) < Double.unitsPerOne := by
    rw [unitsEq]
    exact_mod_cast Nat.two_pow_pos bits
  have sign : n * (Double.unitsPerOne : Int) < 0 ↔ n < 0 := by
    simpa using Int.mul_lt_mul_right (b := n) (c := 0) positive
  simp only [nearestUnits, signedUnits, Int.natAbs_mul, Int.natAbs_natCast, sign]

theorem nearestUnits_mono {m n : Int} (le : m ≤ n) : nearestUnits m ≤ nearestUnits n := by
  rw [nearestUnits_eq_signedUnits, nearestUnits_eq_signedUnits]
  exact signedUnits_mono (Int.mul_le_mul_of_nonneg_right le (Int.natCast_nonneg _))

private theorem finite_of_canonical (negative : Bool) (significand scale : Nat)
    (canonical : significand < Double.significandBound ∧
      (scale = 0 ∨ Double.leastNormal ≤ significand) ∧ scale ≤ 2045) :
    ∃ x : Double, build negative significand scale = .finite x ∧ x.negative = negative ∧
      x.magnitude = significand * 2 ^ scale :=
  ⟨⟨negative, significand, scale, canonical⟩, dif_pos canonical, rfl,
    Nat.shiftLeft_eq ..⟩

/-- A natural number of at most 200 bits has a finite nearest double. -/
theorem ofRatio_whole (negative : Bool) {n : Nat} (fits : n < 2 ^ 200) :
    ∃ x : Double, ofRatio negative n 1 = .finite x ∧ x.negative = negative ∧
      x.magnitude = roundedUnits (n * Double.unitsPerOne) := by
  have scaleLe : Nat.log2 (n * Double.unitsPerOne) - 52 ≤ 2000 := by
    rcases Nat.eq_zero_or_pos n with rfl | positive
    · simp
    · obtain ⟨bits, bitsEq, unitsEq⟩ := exists_unitsPerOne_eq
      rw [unitsEq]
      have below : n * 2 ^ bits < 2 ^ (200 + bits) := by
        rw [pow_add]
        exact Nat.mul_lt_mul_of_pos_right fits (Nat.two_pow_pos _)
      have nonzero : n * 2 ^ bits ≠ 0 :=
        Nat.mul_ne_zero (by omega) (Nat.two_pow_pos _).ne'
      have := (Nat.log2_lt nonzero).2 below
      omega
  simp only [ofRatio, Nat.div_one, Nat.one_shiftLeft]
  have atMost := roundEven_le_bound (n * Double.unitsPerOne)
  have atLeast := leastNormal_le_roundEven (n * Double.unitsPerOne)
  simp only [roundedUnits]
  generalize Nat.log2 (n * Double.unitsPerOne) - 52 = scale at *
  generalize roundEven (n * Double.unitsPerOne) (2 ^ scale) = significand at *
  split_ifs with full
  · obtain ⟨x, found, sign, magnitude⟩ :=
      finite_of_canonical negative Double.leastNormal (scale + 1)
        ⟨by decide, .inr le_rfl, by omega⟩
    refine ⟨x, found, sign, magnitude.trans ?_⟩
    rw [full, pow_succ]
    ring
  · exact finite_of_canonical _ _ _ ⟨lt_of_le_of_ne atMost full, by
      rcases Nat.eq_zero_or_pos scale with zero | positive
      · exact .inl zero
      · exact .inr (atLeast positive), by omega⟩

/-- A natural number of at most 64 bits has a finite nearest double. -/
theorem ofRatio_one (negative : Bool) {n : Nat} (fits : n < 2 ^ 64) :
    ∃ x : Double, ofRatio negative n 1 = .finite x ∧ x.negative = negative ∧
      x.magnitude = roundedUnits (n * Double.unitsPerOne) :=
  ofRatio_whole negative (fits.trans (Nat.pow_lt_pow_right (by decide) (by decide)))

/-- A decimal without an exponent that has at most 64 bits is read as its nearest double. -/
theorem ofDecimal_whole (negative : Bool) {n : Nat} (fits : n < 2 ^ 64) :
    ∃ x : Double, ofDecimal negative n 0 = .finite x ∧ x.negative = negative ∧
      x.magnitude = roundedUnits (n * Double.unitsPerOne) := by
  have size : (Nat.toDigits 10 n).length ≤ 20 :=
    (Nat.length_toDigits_le_iff (by decide) (by decide)).2 (fits.trans (by decide))
  unfold ofDecimal
  by_cases zero : n = 0
  · refine ⟨.zero negative, if_pos zero, rfl, ?_⟩
    rw [zero, Nat.zero_mul]
    rfl
  · obtain ⟨x, found, parts⟩ := ofRatio_one negative fits
    refine ⟨x, ?_, parts⟩
    simp only [zero, if_false]
    rw [if_neg (by omega), if_neg (by omega), if_pos le_rfl]
    simpa using found

private theorem natAbs_signed (negative : Prop) [Decidable negative] (magnitude : Nat) :
    (if negative then -(magnitude : Int) else magnitude).natAbs = magnitude := by
  split_ifs <;> simp

theorem natAbs_nearestUnits (n : Int) :
    (nearestUnits n).natAbs = roundedUnits (n.natAbs * Double.unitsPerOne) := by
  rw [nearestUnits, natAbs_signed]

private theorem signed_mul (n : Int) (factor : Nat) :
    (if n < 0 then -((n.natAbs * factor : Nat) : Int) else (n.natAbs * factor : Nat)) =
      n * factor := by
  split_ifs with negative
  · rw [Nat.cast_mul, Int.ofNat_natAbs_of_nonpos negative.le]
    ring
  · rw [Nat.cast_mul, Int.natAbs_of_nonneg (not_lt.1 negative)]

theorem roundedUnits_of_small {n : Nat} (small : n < 2 ^ 53) :
    roundedUnits (n * Double.unitsPerOne) = n * Double.unitsPerOne := by
  obtain ⟨bits, -, unitsEq⟩ := exists_unitsPerOne_eq
  rw [unitsEq, roundedUnits_of_fits small]

theorem nearestUnits_of_small {n : Int} (small : n.natAbs < 2 ^ 53) :
    nearestUnits n = n * (Double.unitsPerOne : Int) := by
  rw [nearestUnits, roundedUnits_of_small small, signed_mul]

theorem ofInt_eq {n : Int} (fits : n.natAbs < 2 ^ 64) :
    ∃ x : Double, ofInt n = .finite x ∧ x.units = nearestUnits n := by
  obtain ⟨x, found, sign, magnitude⟩ := ofRatio_one (decide (n < 0)) fits
  refine ⟨x, found, ?_⟩
  rw [Double.units, sign, magnitude, nearestUnits]
  by_cases negative : n < 0 <;> simp only [negative, decide_true, decide_false, if_true, if_false,
    Bool.false_eq_true]

end Binary64

namespace Double

open Binary64

theorem unitsPerOne_pos : 0 < unitsPerOne := by
  obtain ⟨bits, -, unitsEq⟩ := Binary64.exists_unitsPerOne_eq
  rw [unitsEq]
  exact Nat.two_pow_pos bits

theorem natAbs_units (x : Double) : x.units.natAbs = x.magnitude := by
  rw [units, natAbs_signed]

/-- A double that is nearest to an integer is a whole number. -/
theorem isWhole_of_units {x : Double} {n : Int} (units : x.units = nearestUnits n) :
    x.isWhole = true := by
  have magnitude : x.magnitude = roundedUnits (n.natAbs * unitsPerOne) := by
    rw [← natAbs_units, units, natAbs_nearestUnits]
  rw [isWhole, beq_iff_eq, magnitude]
  exact Nat.mod_eq_zero_of_dvd (unitsPerOne_dvd_roundedUnits _)

private theorem sign_of_parts {negative : Bool} {whole one magnitude : Nat}
    (parts : whole * one = magnitude) :
    (if (if negative then -(whole : Int) else whole) < 0 then -(magnitude : Int)
      else magnitude) = if negative then -(magnitude : Int) else magnitude := by
  cases negative
  · simp
  · rcases Nat.eq_zero_or_pos whole with rfl | positive
    · simp [← parts]
    · simp [positive]

theorem roundedUnits_magnitude (x : Double) : roundedUnits x.magnitude = x.magnitude := by
  rw [magnitude, Nat.shiftLeft_eq]
  exact roundedUnits_of_fits x.canonical.1

theorem signedUnits_units (x : Double) : signedUnits x.units = x.units :=
  signedUnits_eq_self (by rw [natAbs_units, roundedUnits_magnitude])

/-- A whole double is the nearest one to the integer that it is. -/
theorem nearestUnits_truncate {x : Double} (whole : x.isWhole = true) :
    nearestUnits x.truncate = x.units := by
  rw [isWhole, beq_iff_eq] at whole
  have parts : x.magnitude / unitsPerOne * unitsPerOne = x.magnitude :=
    Nat.div_mul_cancel (Nat.dvd_of_mod_eq_zero whole)
  have whole : x.truncate.natAbs = x.magnitude / unitsPerOne := by
    rw [truncate, natAbs_signed]
  rw [nearestUnits, whole, parts, roundedUnits_magnitude, truncate, sign_of_parts parts, units]

/-- A double is an integer exactly if it is a whole one, and then it is its whole part. -/
theorem units_eq_mul_iff {x : Double} {n : Int} :
    x.units = n * (unitsPerOne : Int) ↔ x.isWhole = true ∧ x.truncate = n := by
  have positive := unitsPerOne_pos
  rw [isWhole, beq_iff_eq, truncate, units]
  generalize unitsPerOne = one at positive ⊢
  generalize x.magnitude = magnitude
  constructor
  · intro value
    have size : magnitude = n.natAbs * one := by
      have := congrArg Int.natAbs value
      rw [Int.natAbs_mul, Int.natAbs_natCast] at this
      split_ifs at this <;> simpa using this
    refine ⟨by simp [size], ?_⟩
    rw [size, Nat.mul_div_cancel _ positive]
    rw [size, Nat.cast_mul] at value
    split_ifs at value ⊢
    · refine Int.eq_of_mul_eq_mul_right (by omega : (one : Int) ≠ 0) ?_
      rw [← value, Int.neg_mul]
    · exact Int.eq_of_mul_eq_mul_right (by omega : (one : Int) ≠ 0) value
  · rintro ⟨whole, rfl⟩
    obtain ⟨quotient, rfl⟩ := Nat.dvd_of_mod_eq_zero whole
    rw [Nat.mul_div_cancel_left _ positive]
    split_ifs <;> simp [Int.mul_comm]

end Double

namespace Number

open Binary64

/-- The nearest double of an integer of a document. -/
theorem toDouble_int_units (n : Integer) :
    (Number.int n).toDouble.units = nearestUnits n.val := by
  have fits : n.val.natAbs < 2 ^ 64 := by
    have := n.fits
    simp only [Integer.least, Integer.most] at this
    omega
  obtain ⟨x, found, units⟩ := ofInt_eq fits
  rw [toDouble, found, toDouble?, Option.getD_some, units]

end Number

end DocStore
