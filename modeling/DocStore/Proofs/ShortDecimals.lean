import DocStore.Proofs.TypedNumbers

/-!
# Short decimals of JSON texts

The JSON reader finds a double by one multiplication or division of doubles.  Where the digits
of a decimal make a natural of 53 bits and its power of ten is one that a double holds, both
operands are exact, so that the one rounding gives the nearest double of the decimal.
-/

namespace DocStore

namespace Binary64

/-- A quotient is rounded alike however it is extended. -/
theorem ofRatio_mul_mul (negative : Bool) (numerator denominator : Nat) {factor : Nat}
    (positive : 0 < factor) :
    ofRatio negative (numerator * factor) (denominator * factor) =
      ofRatio negative numerator denominator := by
  have units : numerator * factor * Double.unitsPerOne =
      numerator * Double.unitsPerOne * factor := Nat.mul_right_comm ..
  simp only [ofRatio, units, Nat.mul_div_mul_right _ _ positive, Nat.shiftLeft_eq,
    Nat.mul_right_comm _ factor, roundEven_mul_mul _ _ positive]

/-- The sign has no part in the rounding. -/
theorem ofRatio_signed (negative : Bool) {numerator denominator : Nat} {x : Double}
    (found : ofRatio false numerator denominator = .finite x) :
    ofRatio negative numerator denominator = .finite (if negative then x.neg else x) := by
  have signed (significand scale : Nat) (built : build false significand scale = .finite x) :
      build negative significand scale = .finite (if negative then x.neg else x) := by
    unfold build at built ⊢
    split_ifs at built with canonical
    rw [dif_pos canonical]
    cases negative
    · exact built
    · rw [← Binary64.finite.inj built]
      rfl
  unfold ofRatio at found ⊢
  dsimp only at found ⊢
  split at found
  · rename_i full
    rw [if_pos full]
    exact signed _ _ found
  · rename_i notFull
    rw [if_neg notFull]
    exact signed _ _ found

theorem ofRatio_zero (negative : Bool) {denominator : Nat} (positive : 0 < denominator) :
    ofRatio negative 0 denominator = .finite (.zero negative) := by
  have rounded : roundEven 0 denominator = 0 := by
    simp [roundEven, positive]
  simp only [ofRatio, Nat.zero_mul, Nat.zero_div, Nat.log2_zero, Nat.zero_sub, Nat.shiftLeft_zero,
    rounded]
  rfl

/-- Whether a double is a natural number. -/
def IsNatural (x : Binary64) (n : Nat) : Prop :=
  ∃ y : Double, x = .finite y ∧ y.negative = false ∧ y.magnitude = n * Double.unitsPerOne

theorem isNatural_ofInt {n : Nat} (small : n < 2 ^ 53) : (ofInt n).IsNatural n := by
  obtain ⟨x, found, sign, magnitude⟩ := ofRatio_one false (small.trans (by decide))
  refine ⟨x, ?_, sign, ?_⟩
  · rw [ofInt, Int.natAbs_natCast, show decide ((n : Int) < 0) = false by simp, found]
  · rw [magnitude, roundedUnits_of_small small]

theorem isNatural_powerOfTen {power : Nat} (small : power ≤ 22) :
    (Json.NumberText.powerOfTen power).IsNatural (10 ^ power) := by
  have fits : 10 ^ power < 2 ^ 200 :=
    (Nat.pow_le_pow_right (by decide) small).trans_lt (by decide)
  obtain ⟨x, found, sign, magnitude⟩ := ofRatio_whole false fits
  refine ⟨x, found, sign, ?_⟩
  -- Ten is twice five, and the power of five has 53 bits.
  have five : 5 ^ power < 2 ^ 53 :=
    (Nat.pow_le_pow_right (by decide) small).trans_lt (by decide)
  obtain ⟨bits, -, one⟩ := exists_unitsPerOne_eq
  have split : 10 ^ power * 2 ^ bits = 5 ^ power * 2 ^ (power + bits) := by
    rw [pow_add, ← Nat.mul_assoc, ← Nat.mul_pow]
  rw [magnitude, one, split, roundedUnits_of_fits five]

theorem IsNatural.mul {x y : Binary64} {m n : Nat} (first : x.IsNatural m)
    (second : y.IsNatural n) : x.mul y = ofRatio false (m * n) 1 := by
  obtain ⟨x, rfl, xSign, xMagnitude⟩ := first
  obtain ⟨y, rfl, ySign, yMagnitude⟩ := second
  have positive := Nat.mul_pos Double.unitsPerOne_pos Double.unitsPerOne_pos
  have product : x.magnitude * y.magnitude =
      m * n * (Double.unitsPerOne * Double.unitsPerOne) := by
    rw [xMagnitude, yMagnitude]
    ring
  have extended := ofRatio_mul_mul false (m * n) 1 positive
  rw [Nat.one_mul] at extended
  rw [Binary64.mul, xSign, ySign, product]
  exact extended

theorem IsNatural.div {x y : Binary64} {m n : Nat} (first : x.IsNatural m)
    (second : y.IsNatural n) (positive : 0 < n) : x.div y = ofRatio false m n := by
  obtain ⟨x, rfl, xSign, xMagnitude⟩ := first
  obtain ⟨y, rfl, ySign, yMagnitude⟩ := second
  have nonzero : y.significand ≠ 0 := by
    intro zero
    have noMagnitude : y.magnitude = 0 := by
      rw [Double.magnitude_eq, zero, Nat.zero_mul]
    rw [noMagnitude] at yMagnitude
    exact (Nat.mul_pos positive Double.unitsPerOne_pos).ne yMagnitude
  rw [Binary64.div, if_neg nonzero, xSign, ySign, xMagnitude, yMagnitude]
  exact ofRatio_mul_mul false m n Double.unitsPerOne_pos

end Binary64

namespace Json.NumberText

open Binary64

variable {t : NumberText}

/-! ### The digits that a word holds -/

theorem le_naturalOfDigits (acc : Nat) (digits : List Char) :
    acc ≤ naturalOfDigits acc digits := by
  induction digits generalizing acc with
  | nil => exact le_rfl
  | cons c rest ih =>
      refine le_trans ?_ (ih (10 * acc + (digitValue? c).getD 0))
      omega

/-- Digits that stay within a word are all absorbed. -/
theorem absorb_eq {word : Nat} {digits : List Char} (fits : naturalOfDigits word digits ≤ wordMax) :
    absorb word digits = (naturalOfDigits word digits, 0) := by
  induction digits generalizing word with
  | nil => rfl
  | cons c rest ih =>
      have fits : naturalOfDigits (10 * word + (digitValue? c).getD 0) rest ≤ wordMax := fits
      have within := (le_naturalOfDigits _ rest).trans fits
      rw [absorb]
      simp only [not_lt.2 within, if_false]
      exact ih fits

/-- Whether a text denotes a decimal whose double is found by one exact step. -/
structure Short (t : NumberText) : Prop where
  coefficient : t.decimal.coefficient < 2 ^ 53
  exponent : t.decimal.exponent.natAbs ≤ 22
  written : t.written.natAbs < 2 ^ 31

/-- The double of a short decimal before its sign. -/
def ratio (t : NumberText) (negative : Bool) : Binary64 :=
  if 0 ≤ t.decimal.exponent then
    ofRatio negative (t.decimal.coefficient * 10 ^ t.decimal.exponent.natAbs) 1
  else ofRatio negative t.decimal.coefficient (10 ^ t.decimal.exponent.natAbs)

theorem scaled?_short (short : t.Short) :
    scaled? t.decimal.coefficient t.decimal.exponent = (t.ratio false).toDouble? := by
  have start := isNatural_ofInt short.coefficient
  have power := isNatural_powerOfTen short.exponent
  have bound := short.exponent
  unfold scaled? ratio
  dsimp only
  rw [if_neg (by omega)]
  split_ifs with nonneg
  · have toNat : t.decimal.exponent.toNat = t.decimal.exponent.natAbs := by omega
    rw [toNat, start.mul power]
  · rw [start.div power (Nat.pow_pos (by decide))]
  · omega
  · omega

/-- The digits of a short decimal are absorbed before the point and behind it. -/
theorem absorb_short (short : t.Short) :
    absorb 0 t.whole = (naturalOfDigits 0 t.whole, 0) ∧
      absorb (naturalOfDigits 0 t.whole) (t.fraction.getD []) = (t.decimal.coefficient, 0) := by
  have all : naturalOfDigits (naturalOfDigits 0 t.whole) (t.fraction.getD []) =
      t.decimal.coefficient := (List.foldl_append ..).symm
  have fits : t.decimal.coefficient ≤ wordMax := by
    have := short.coefficient
    unfold wordMax
    omega
  constructor
  · apply absorb_eq
    exact (le_naturalOfDigits _ (t.fraction.getD [])).trans (all.trans_le fits)
  · rw [absorb_eq (all.trans_le fits), all]

theorem exponentValue?_short {down : Bool} {digits : List Char} (short : t.Short)
    (exponent : t.exponent = some (down, digits)) :
    exponentValue? digits = some (naturalOfDigits 0 digits) := by
  have bound := short.written
  rw [written, exponent] at bound
  dsimp only at bound
  unfold exponentValue?
  dsimp only
  rw [if_pos]
  split_ifs at bound <;> omega

/-- The double of a short decimal is found by one step from its coefficient. -/
theorem double?_short (short : t.Short) :
    t.double? = (t.ratio false).toDouble?.map fun x => if t.negative then x.neg else x := by
  obtain ⟨whole, all⟩ := absorb_short short
  have exponentEq : t.decimal.exponent = t.written - (t.fraction.getD []).length := rfl
  have coefficientEq : t.decimal.coefficient = naturalOfDigits 0 (t.whole ++ t.fraction.getD []) :=
    rfl
  rw [← scaled?_short short, exponentEq]
  cases fraction : t.fraction with
  | none =>
      rw [fraction, Option.getD_none, List.append_nil] at coefficientEq
      rw [Option.getD_none, List.length_nil, coefficientEq]
      cases exponent : t.exponent with
      | none => simp [double?, whole, fraction, exponent, written, Option.map_eq_bind]
      | some parts =>
          obtain ⟨down, digits⟩ := parts
          have value := exponentValue?_short short exponent
          cases down <;>
            simp [double?, whole, fraction, exponent, written, value, Option.map_eq_bind]
  | some digits =>
      rw [fraction, Option.getD_some] at all
      rw [Option.getD_some]
      cases exponent : t.exponent with
      | none => simp [double?, whole, all, fraction, exponent, written, Option.map_eq_bind]
      | some parts =>
          obtain ⟨down, exponentDigits⟩ := parts
          have value := exponentValue?_short short exponent
          have ordered (k l : Int) : -l - k = -k - l ∧ l - k = -k + l := by omega
          cases down <;>
            simp [double?, whole, all, fraction, exponent, written, value, ordered,
              Option.map_eq_bind]

theorem ratio_signed {x : Double} (negative : Bool) (found : t.ratio false = .finite x) :
    t.ratio negative = .finite (if negative then x.neg else x) := by
  unfold ratio at found ⊢
  by_cases nonneg : 0 ≤ t.decimal.exponent
  · rw [if_pos nonneg] at found ⊢
    exact ofRatio_signed negative found
  · rw [if_neg nonneg] at found ⊢
    exact ofRatio_signed negative found

theorem ratio_of_zero (negative : Bool) (zero : t.decimal.coefficient = 0) :
    t.ratio negative = .finite (.zero negative) := by
  unfold ratio
  rw [zero, Nat.zero_mul]
  split_ifs
  · exact ofRatio_zero negative Nat.one_pos
  · exact ofRatio_zero negative (Nat.pow_pos (by decide))

theorem nearest_of_zero (zero : t.decimal.coefficient = 0) :
    t.nearest = .finite (.zero t.negative) := by
  unfold nearest ofDecimal
  exact if_pos zero

theorem nearest_of_nonzero (short : t.Short) (nonzero : t.decimal.coefficient ≠ 0) :
    t.nearest = t.ratio t.negative := by
  have size : (Nat.toDigits 10 t.decimal.coefficient).length ≤ 16 :=
    (Nat.length_toDigits_le_iff (by decide) (by decide)).2
      (short.coefficient.trans (by decide))
  have bound := short.exponent
  unfold nearest ofDecimal ratio
  dsimp only
  rw [if_neg nonzero, if_neg (by omega), if_neg (by omega)]
  split_ifs with nonneg
  · have toNat : t.decimal.exponent.toNat = t.decimal.exponent.natAbs := by omega
    rw [toNat]
    rfl
  · rfl

/-- The nearest double of a short decimal is found by the same step. -/
theorem nearest_short (short : t.Short) : t.nearest = t.ratio t.negative := by
  by_cases zero : t.decimal.coefficient = 0
  · rw [nearest_of_zero zero, ratio_of_zero _ zero]
  · exact nearest_of_nonzero short zero

/-! ### Numbers that both readers take for one -/

/-- Whether a number is the nearest double of the decimal of a text, or equal to it. -/
def Exact (t : NumberText) (n : Number) : Prop :=
  ∃ x : Double, t.nearest = .finite x ∧ x.units = n.toDouble.units

theorem exact_of_integer {m : Integer} (value : t.value? = some (.int m)) : t.Exact (.int m) := by
  have isInteger : t.integer? = some m := by
    unfold value? at value
    cases found : t.integer? with
    | some k =>
        rw [found] at value
        rw [Number.int.inj (Option.some.inj value)]
    | none =>
        rw [found] at value
        obtain ⟨x, -, isDouble⟩ := Option.map_eq_some_iff.1 value
        cases isDouble
  unfold integer? at isInteger
  split at isInteger
  · rename_i noFraction noExponent
    have stored : Integer.ofInt? t.signedWhole = some m := by
      unfold signedWhole
      dsimp only at isInteger
      split_ifs at isInteger ⊢ <;> exact isInteger
    exact nearest_of_ofInt? noFraction noExponent stored
  · cases isInteger

theorem exact_of_short {n : Number} (short : t.Short) (value : t.value? = some n) : t.Exact n := by
  cases n with
  | int m => exact exact_of_integer value
  | double x =>
      have found : t.double? = some x := by
        unfold value? at value
        cases isInteger : t.integer? with
        | some k =>
            rw [isInteger] at value
            cases Option.some.inj value
        | none =>
            rw [isInteger] at value
            obtain ⟨y, found, isDouble⟩ := Option.map_eq_some_iff.1 value
            rw [found, Number.double.inj isDouble]
      rw [double?_short short] at found
      obtain ⟨y, unsigned, rfl⟩ := Option.map_eq_some_iff.1 found
      have unsigned : t.ratio false = .finite y := by
        cases ratio : t.ratio false with
        | finite z =>
            rw [ratio] at unsigned
            rw [Option.some.inj unsigned]
        | _ =>
            rw [ratio] at unsigned
            cases unsigned
      exact ⟨_, (nearest_short short).trans (ratio_signed _ unsigned), rfl⟩

end Json.NumberText

end DocStore
