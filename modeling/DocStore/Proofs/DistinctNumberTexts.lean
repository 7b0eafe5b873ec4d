import DocStore.Proofs.Conformance
import DocStore.Proofs.NumberTexts
import DocStore.Proofs.VisitMarks

/-!
# Which numbers have one text

The data form tells all numbers apart, the whole doubles from the integers among them.  The
display form is the same for a whole double and its integer, and for no other two numbers: the
shortest decimals of different doubles are different, and none of them is an integer of a
document unless the double is one.
-/

namespace DocStore

open Json

namespace Double

variable {x y : Double} {value : ℚ}

/-- Whether a magnitude rounds to that of a double. -/
def Nearest (x : Double) (value : ℚ) : Prop :=
  if x.significand = 0 then value = 0 else x.interval.Holds (4 * unitsPerOne * value)

theorem magnitude_eq_zero (zero : x.significand = 0) : x.magnitude = 0 := by
  rw [magnitude_eq, zero, Nat.zero_mul]

theorem unitsPerOne_cast_pos : (0 : ℚ) < unitsPerOne := by
  exact_mod_cast unitsPerOne_pos

theorem Nearest.two_mul_magnitude_le (nearest : x.Nearest value) :
    (2 * x.magnitude : ℚ) ≤ 4 * unitsPerOne * value := by
  unfold Nearest at nearest
  split_ifs at nearest with zero
  · simp [nearest, magnitude_eq_zero zero]
  · exact nearest.two_mul_magnitude_le

/-- A magnitude rounds to one magnitude only. -/
theorem Nearest.magnitude_eq (first : x.Nearest value) (second : y.Nearest value) :
    x.magnitude = y.magnitude := by
  have zero {z : Double} (nearest : z.Nearest 0) : z.magnitude = 0 := by
    have := nearest.two_mul_magnitude_le
    rw [mul_zero] at this
    have : (z.magnitude : ℚ) = 0 := by
      have : (0 : ℚ) ≤ z.magnitude := Nat.cast_nonneg _
      linarith
    exact_mod_cast this
  by_cases firstZero : x.significand = 0
  · obtain rfl : value = 0 := by simpa [Nearest, firstZero] using first
    rw [zero first, zero second]
  by_cases secondZero : y.significand = 0
  · obtain rfl : value = 0 := by simpa [Nearest, secondZero] using second
    rw [zero first, zero second]
  · rw [Nearest, if_neg firstZero] at first
    rw [Nearest, if_neg secondZero] at second
    exact magnitude_eq_of_holds first second

theorem nearest_of_exact (exact : value * unitsPerOne = x.magnitude) : x.Nearest value := by
  unfold Nearest
  split_ifs with zero
  · rw [magnitude_eq_zero zero, Nat.cast_zero] at exact
    exact (mul_eq_zero.1 exact).resolve_right unitsPerOne_cast_pos.ne'
  · rw [mul_assoc, mul_comm (unitsPerOne : ℚ), exact]
    exact holds_magnitude zero

theorem nearest_shortest (nonzero : x.significand ≠ 0) : x.Nearest x.shortest.value := by
  rw [Nearest, if_neg nonzero]
  exact x.shortest_holds

theorem shortest_coefficient_pos (nonzero : x.significand ≠ 0) : 0 < x.shortest.coefficient := by
  have positive : (0 : ℚ) < x.magnitude := by exact_mod_cast magnitude_pos nonzero
  have atLeast := (nearest_shortest nonzero).two_mul_magnitude_le
  by_contra notPositive
  have zero : x.shortest.value = 0 := by
    rw [Decimal.value, Nat.eq_zero_of_not_pos notPositive, Nat.cast_zero, zero_mul]
  rw [zero, mul_zero] at atLeast
  linarith

/-! ### The parts of the texts -/

/-- The parts of the data form. -/
def dataParts (x : Double) : NumberText :=
  if x.significand = 0 then ⟨x.negative, ['0'], some ['0'], none⟩
  else if -5 ≤ x.shortest.leadingPower ∧ x.shortest.leadingPower < 16 then
    x.shortest.positionalParts x.negative true
  else x.shortest.scientificParts x.negative

/-- Whether the display form has all digits of the double. -/
def ShownExactly (x : Double) : Prop :=
  x.isWhole = true ∧ x.truncate.natAbs < Nat.pow 10 21

instance (x : Double) : Decidable x.ShownExactly :=
  inferInstanceAs (Decidable (_ ∧ _))

/-- The parts of the display form. -/
def displayParts (x : Double) : NumberText :=
  if x.ShownExactly then .natural x.negative x.truncate.natAbs
  else x.shortest.positionalParts x.negative false

theorem spelled_dataParts (style : DoubleStyle) (x : Double) :
    x.dataParts.spelled style = (x.dataText style).toList := by
  unfold dataParts dataText signText
  by_cases zero : x.significand = 0
  · rw [if_pos zero, if_pos zero]
    simp [NumberText.spelled, NumberText.fractionText, NumberText.exponentText]
  rw [if_neg zero, if_neg zero]
  dsimp only
  by_cases near : -5 ≤ x.shortest.leadingPower ∧ x.shortest.leadingPower < 16
  · rw [if_pos near, if_pos near, Decimal.spelled_positionalParts]
    split_ifs <;> simp_all
  · rw [if_neg near, if_neg near, Decimal.spelled_scientificParts]
    simp

theorem shownExactly_of_zero (zero : x.significand = 0) :
    x.ShownExactly ∧ x.truncate.natAbs = 0 := by
  have none := magnitude_eq_zero zero
  have truncate : x.truncate.natAbs = 0 := by
    rw [Double.truncate, none]
    split_ifs <;> simp
  refine ⟨⟨?_, ?_⟩, truncate⟩
  · rw [isWhole, none]
    simp
  · rw [truncate]
    exact Nat.pow_pos (by decide)

theorem spelled_displayParts (style : DoubleStyle) (x : Double) :
    x.displayParts.spelled style = x.displayText.toList := by
  unfold displayParts displayText signText
  by_cases exact : x.ShownExactly
  · rw [if_pos exact, if_pos (id exact : _ ∧ _), NumberText.spelled_natural, String.toList_ofList]
  · have nonzero : x.significand ≠ 0 := fun zero => exact (shownExactly_of_zero zero).1
    rw [if_neg exact, if_neg (id exact : ¬ (_ ∧ _)), Decimal.spelled_positionalParts, plainText,
      signText]
    simp [nonzero]

theorem grammatical_dataParts (x : Double) : x.dataParts.Grammatical := by
  unfold dataParts
  split_ifs with zero
  · constructor
    · exact ⟨List.cons_ne_nil _ _, fun c member => @Decimal.isDigit_of_mem_zeros 1 c member⟩
    · rintro more ⟨⟩
      rfl
    · rintro digits ⟨⟩
      exact ⟨List.cons_ne_nil _ _, fun c member => @Decimal.isDigit_of_mem_zeros 1 c member⟩
    · rintro _ _ ⟨⟩
  · exact Decimal.grammatical_positionalParts (shortest_coefficient_pos zero)
  · exact Decimal.grammatical_scientificParts (shortest_coefficient_pos zero)

theorem grammatical_displayParts (x : Double) : x.displayParts.Grammatical := by
  unfold displayParts
  split_ifs with exact
  · exact NumberText.grammatical_natural _ _
  · exact Decimal.grammatical_positionalParts
      (shortest_coefficient_pos fun zero => exact (shownExactly_of_zero zero).1)

theorem negative_dataParts (x : Double) : x.dataParts.negative = x.negative := by
  unfold dataParts
  split_ifs
  · rfl
  · exact Decimal.negative_positionalParts ..
  · rfl

theorem negative_displayParts (x : Double) : x.displayParts.negative = x.negative := by
  unfold displayParts
  split_ifs
  · rfl
  · exact Decimal.negative_positionalParts ..

/-- The data form denotes a magnitude that rounds to the double. -/
theorem nearest_dataParts (x : Double) : x.Nearest x.dataParts.decimal.value := by
  unfold dataParts
  split_ifs with zero
  · simp [Nearest, zero, NumberText.decimal, NumberText.digits, Decimal.value, naturalOfDigits,
      digitValue?]
  · rw [Decimal.value_positionalParts]
    exact nearest_shortest zero
  · rw [Decimal.value_scientificParts]
    exact nearest_shortest zero

theorem truncate_eq_signed (x : Double) :
    x.truncate = if x.negative then -(x.truncate.natAbs : Int) else x.truncate.natAbs := by
  unfold truncate
  dsimp only
  split_ifs
  · rw [Int.natAbs_neg, Int.natAbs_natCast]
  · rw [Int.natAbs_natCast]

theorem truncate_mul_unitsPerOne (whole : x.isWhole = true) :
    x.truncate.natAbs * unitsPerOne = x.magnitude := by
  rw [isWhole, beq_iff_eq] at whole
  have natAbs : x.truncate.natAbs = x.magnitude / unitsPerOne := by
    unfold truncate
    dsimp only
    split_ifs
    · rw [Int.natAbs_neg, Int.natAbs_natCast]
    · rw [Int.natAbs_natCast]
  rw [natAbs, Nat.div_mul_cancel (Nat.dvd_of_mod_eq_zero whole)]

/-- The display form denotes a magnitude that rounds to the double. -/
theorem nearest_displayParts (x : Double) : x.Nearest x.displayParts.decimal.value := by
  unfold displayParts
  split_ifs with exact
  · rw [NumberText.value_natural]
    apply nearest_of_exact
    exact_mod_cast truncate_mul_unitsPerOne exact.1
  · rw [Decimal.value_positionalParts]
    exact nearest_shortest fun zero => exact (shownExactly_of_zero zero).1

/-- The data form of a double is not that of an integer. -/
theorem dataParts_ne_natural (x : Double) (negative : Bool) (n : Nat) :
    x.dataParts ≠ .natural negative n := by
  unfold dataParts Decimal.positionalParts
  rw [if_pos rfl]
  intro same
  split_ifs at same
  · cases (NumberText.mk.inj same).2.2.1
  · cases (NumberText.mk.inj same).2.2.1
  · cases (NumberText.mk.inj same).2.2.1
  · cases (NumberText.mk.inj same).2.2.1
  · cases (NumberText.mk.inj same).2.2.2

end Double

namespace Number

variable {m n : Number}

/-- The parts of the data form. -/
def dataParts : Number → NumberText
  | .int n => .natural (n.val < 0) n.val.natAbs
  | .double x => x.dataParts

/-- The parts of the display form. -/
def displayParts : Number → NumberText
  | .int n => .natural (n.val < 0) n.val.natAbs
  | .double x => x.displayParts

theorem spelled_integer (style : DoubleStyle) (n : Integer) :
    (NumberText.natural (n.val < 0) n.val.natAbs).spelled style = n.text.toList := by
  rw [NumberText.spelled_natural, Integer.text]
  by_cases negative : n.val < 0 <;> simp [negative]

theorem spelled_dataParts (style : DoubleStyle) (n : Number) :
    n.dataParts.spelled style = (n.dataText style).toList := by
  cases n with
  | int n => exact spelled_integer style n
  | double x => exact x.spelled_dataParts style

theorem spelled_displayParts (style : DoubleStyle) (n : Number) :
    n.displayParts.spelled style = n.displayText.toList := by
  cases n with
  | int n => exact spelled_integer style n
  | double x => exact x.spelled_displayParts style

theorem grammatical_dataParts (n : Number) : n.dataParts.Grammatical := by
  cases n with
  | int n => exact NumberText.grammatical_natural _ _
  | double x => exact x.grammatical_dataParts

theorem grammatical_displayParts (n : Number) : n.displayParts.Grammatical := by
  cases n with
  | int n => exact NumberText.grammatical_natural _ _
  | double x => exact x.grammatical_displayParts

theorem integer_ext {m n : Integer} (sign : decide (m.val < 0) = decide (n.val < 0))
    (size : m.val.natAbs = n.val.natAbs) : m = n := by
  have sign := decide_eq_decide.1 sign
  cases m
  cases n
  simp only [Integer.mk.injEq] at *
  omega

theorem natural_injective {first second : Bool} {k l : Nat}
    (same : NumberText.natural first k = NumberText.natural second l) :
    first = second ∧ k = l := by
  obtain ⟨sign, digits, -, -⟩ := NumberText.mk.inj same
  refine ⟨sign, ?_⟩
  rw [← naturalOfDigits_toDigits k, digits, naturalOfDigits_toDigits]

/-- The data form tells all numbers apart. -/
theorem dataParts_injective (same : m.dataParts = n.dataParts) : m = n := by
  cases m with
  | int m =>
      cases n with
      | int n =>
          obtain ⟨sign, size⟩ := natural_injective same
          rw [integer_ext sign size]
      | double y => exact absurd same.symm (y.dataParts_ne_natural _ _)
  | double x =>
      cases n with
      | int n => exact absurd same (x.dataParts_ne_natural _ _)
      | double y =>
          have same : x.dataParts = y.dataParts := same
          have sign : x.negative = y.negative := by
            rw [← x.negative_dataParts, ← y.negative_dataParts, same]
          have nearest := x.nearest_dataParts
          rw [same] at nearest
          rw [Double.ext_of_magnitude sign (nearest.magnitude_eq y.nearest_dataParts)]

/-- A number is read off the start of its data form, whatever stands behind it. -/
theorem dataText_append_injective {rest other : List Char} (follows : MayFollow rest)
    (otherFollows : MayFollow other)
    (same : (m.dataText .json).toList ++ rest = (n.dataText .json).toList ++ other) :
    m = n ∧ rest = other := by
  rw [← spelled_dataParts, ← spelled_dataParts] at same
  have first := NumberText.read?_spelled m.grammatical_dataParts .json follows
  rw [same, NumberText.read?_spelled n.grammatical_dataParts .json otherFollows] at first
  obtain ⟨parts, rests⟩ := Prod.mk.inj (Option.some.inj first)
  exact ⟨(dataParts_injective parts).symm, rests.symm⟩

/-! ### The display form -/

/-- The sign of a number, which also zeros among the doubles have. -/
def isNegative : Number → Bool
  | .int n => n.val < 0
  | .double x => x.negative

/-- Whether two numbers are one number with one sign, in whatever representation. -/
def ShownAlike (m n : Number) : Prop :=
  m.exactUnits = n.exactUnits ∧ m.isNegative = n.isNegative

instance (m n : Number) : Decidable (m.ShownAlike n) :=
  inferInstanceAs (Decidable (_ ∧ _))

theorem displayText_eq_iff_parts : m.displayText = n.displayText ↔ m.displayParts = n.displayParts := by
  constructor
  · intro same
    have first := NumberText.read?_spelled m.grammatical_displayParts .json mayFollow_nil
    have second := NumberText.read?_spelled n.grammatical_displayParts .json mayFollow_nil
    rw [spelled_displayParts, same, ← spelled_displayParts .json, second] at first
    exact (Prod.mk.inj (Option.some.inj first)).1.symm
  · intro same
    apply String.toList_injective
    rw [← spelled_displayParts .json, same, spelled_displayParts]

/-- Whole numbers of 64 bits are short of the doubles that are not shown exactly. -/
theorem shownExactly_of_nearest {x : Double} {n : Nat} (small : n ≤ 2 ^ 64)
    (nearest : x.Nearest n) : x.ShownExactly := by
  by_cases zero : x.significand = 0
  · exact (Double.shownExactly_of_zero zero).1
  have whole : x.isWhole = true := by
    rw [Double.Nearest, if_neg zero] at nearest
    exact Double.isWhole_of_holds nearest
  refine ⟨whole, ?_⟩
  have atLeast : 2 * x.magnitude ≤ 4 * Double.unitsPerOne * n := by
    exact_mod_cast nearest.two_mul_magnitude_le
  rw [← Double.truncate_mul_unitsPerOne whole] at atLeast
  have size : 2 * x.truncate.natAbs ≤ 4 * n := by
    apply Nat.le_of_mul_le_mul_right _ Double.unitsPerOne_pos
    rwa [Nat.mul_assoc, Nat.mul_right_comm]
  have large : Nat.pow 10 21 = 1000000000000000000000 := rfl
  omega

/-- A double shows an integer exactly if it is the integer, with its sign. -/
theorem displayParts_eq_natural_iff {x : Double} {n : Integer} :
    x.displayParts = .natural (n.val < 0) n.val.natAbs ↔
      (Number.double x).ShownAlike (.int n) := by
  have small : n.val.natAbs ≤ 2 ^ 64 := by
    have := n.fits
    simp only [Integer.least, Integer.most] at this
    omega
  constructor
  · intro same
    have sign : x.negative = decide (n.val < 0) := by
      rw [← x.negative_displayParts, same]
      rfl
    have nearest := x.nearest_displayParts
    rw [same, NumberText.value_natural] at nearest
    have exact := shownExactly_of_nearest small nearest
    rw [Double.displayParts, if_pos exact] at same
    obtain ⟨-, size⟩ := natural_injective same
    have value : x.truncate = n.val := by
      rw [x.truncate_eq_signed, sign, size]
      split_ifs with negative
      · have := of_decide_eq_true negative
        omega
      · have := of_decide_eq_false (Bool.not_eq_true _ ▸ negative)
        omega
    exact ⟨Double.units_eq_mul_iff.2 ⟨exact.1, value⟩, sign⟩
  · rintro ⟨units, sign⟩
    obtain ⟨whole, value⟩ := Double.units_eq_mul_iff.1 units
    have exact : x.ShownExactly := by
      refine ⟨whole, ?_⟩
      have large : Nat.pow 10 21 = 1000000000000000000000 := rfl
      rw [value]
      omega
    rw [Double.displayParts, if_pos exact, value, show x.negative = decide (n.val < 0) from sign]

/-- Two numbers have one display form exactly if they are one number with one sign. -/
theorem displayText_eq_iff : m.displayText = n.displayText ↔ m.ShownAlike n := by
  rw [displayText_eq_iff_parts]
  cases m with
  | int m =>
      cases n with
      | int n =>
          constructor
          · intro same
            obtain ⟨sign, size⟩ := natural_injective same
            rw [integer_ext sign size]
            exact ⟨rfl, rfl⟩
          · rintro ⟨units, -⟩
            have positive := Double.unitsPerOne_pos
            have vals : m.val = n.val := Int.eq_of_mul_eq_mul_right (by omega) units
            rw [displayParts, displayParts, vals]
      | double y =>
          rw [eq_comm]
          exact displayParts_eq_natural_iff.trans
            (and_congr eq_comm eq_comm)
  | double x =>
      cases n with
      | int n => exact displayParts_eq_natural_iff
      | double y =>
          constructor
          · intro same
            have same : x.displayParts = y.displayParts := same
            have sign : x.negative = y.negative := by
              rw [← x.negative_displayParts, ← y.negative_displayParts, same]
            have nearest := x.nearest_displayParts
            rw [same] at nearest
            rw [Double.ext_of_magnitude sign (nearest.magnitude_eq y.nearest_displayParts)]
            exact ⟨rfl, rfl⟩
          · rintro ⟨units, sign⟩
            have magnitude : x.magnitude = y.magnitude := by
              rw [← x.natAbs_units, ← y.natAbs_units]
              exact congrArg Int.natAbs units
            rw [Double.ext_of_magnitude sign magnitude]

end Number

end DocStore
