import DocStore.Proofs.JsonSpelling
import DocStore.Proofs.RoundingIntervals

/-!
# The decimals that number texts denote

A number text denotes a decimal: its digits as a natural, times a power of ten.  The reader
splits every text of a double as it was put together, up to what stands behind it, and the
decimal is the one that the double was written from.
-/

namespace DocStore

/-! ### Digits -/

theorem naturalOfDigits_append (first second : List Char) :
    naturalOfDigits 0 (first ++ second) =
      naturalOfDigits 0 first * 10 ^ second.length + naturalOfDigits 0 second := by
  have from_acc (digits : List Char) (acc : Nat) :
      naturalOfDigits acc digits = acc * 10 ^ digits.length + naturalOfDigits 0 digits := by
    unfold naturalOfDigits
    induction digits generalizing acc with
    | nil => simp
    | cons c rest ih =>
        rw [List.foldl_cons, List.foldl_cons, ih, ih (10 * 0 + _), List.length_cons, pow_succ]
        ring
  conv_lhs => rw [naturalOfDigits, List.foldl_append]
  exact from_acc second _

theorem naturalOfDigits_zeros (count : Nat) :
    naturalOfDigits 0 (List.replicate count '0') = 0 := by
  induction count with
  | zero => rfl
  | succ count ih =>
      rw [List.replicate_succ, ← List.singleton_append, naturalOfDigits_append, ih]
      simp [naturalOfDigits, digitValue?]

namespace Json.NumberText

variable {t : NumberText} {rest : List Char}

/-- The digits before and behind the point. -/
def digits (t : NumberText) : List Char :=
  t.whole ++ t.fraction.getD []

/-- The exponent that is written, or zero. -/
def written (t : NumberText) : Int :=
  match t.exponent with
  | none => 0
  | some (down, digits) =>
      if down then -(naturalOfDigits 0 digits : Int) else naturalOfDigits 0 digits

/-- The decimal that the text denotes, up to its sign. -/
def decimal (t : NumberText) : Decimal where
  coefficient := naturalOfDigits 0 t.digits
  exponent := t.written - (t.fraction.getD []).length

/-- The point and the digits behind it, if there are any. -/
def fractionText (t : NumberText) : List Char :=
  match t.fraction with
  | none => []
  | some digits => '.' :: digits

/-- The mark of the exponent, its sign and its digits, if there is one. -/
def exponentText (style : DoubleStyle) (t : NumberText) : List Char :=
  match t.exponent with
  | none => []
  | some (down, digits) =>
      'e' :: ((if down then ['-'] else if style.plusSign then ['+'] else []) ++ digits)

/-- The text put together again. -/
def spelled (style : DoubleStyle) (t : NumberText) : List Char :=
  (if t.negative then ['-'] else []) ++ (t.whole ++ (t.fractionText ++ t.exponentText style))

/-- The grammar of number texts: no leading zeros, and digits wherever there may be some. -/
structure Grammatical (t : NumberText) : Prop where
  whole : t.whole ≠ [] ∧ ∀ c ∈ t.whole, isDigit c = true
  noZero : ∀ more, t.whole = '0' :: more → more = []
  fraction : ∀ digits, t.fraction = some digits → digits ≠ [] ∧ ∀ c ∈ digits, isDigit c = true
  exponent : ∀ sign digits, t.exponent = some (sign, digits) →
    digits ≠ [] ∧ ∀ c ∈ digits, isDigit c = true

/-- Whether no digit follows. -/
def Stops (rest : List Char) : Prop :=
  ∀ c ∈ rest.head?, isDigit c = false

theorem stops_of_mayFollow (follows : MayFollow rest) : Stops rest := by
  cases rest with
  | nil => rintro c ⟨⟩
  | cons c more =>
      rintro _ ⟨⟩
      exact (not_continues follows).1

theorem takeWhile_append_stops {digits : List Char} (areDigits : ∀ c ∈ digits, isDigit c = true)
    (stops : Stops rest) :
    (digits ++ rest).takeWhile isDigit = digits ∧ (digits ++ rest).dropWhile isDigit = rest := by
  rw [List.takeWhile_append_of_pos areDigits, List.dropWhile_append_of_pos areDigits]
  cases rest with
  | nil => simp
  | cons c more => simp [stops c rfl]

theorem readWhole?_append (grammatical : t.Grammatical) (stops : Stops rest) :
    readWhole? (t.whole ++ rest) = some (t.whole, rest) := by
  obtain ⟨notEmpty, areDigits⟩ := grammatical.whole
  obtain ⟨taken, dropped⟩ := takeWhile_append_stops areDigits stops
  unfold readWhole?
  split
  · rename_i more same
    obtain ⟨first, others, whole⟩ := List.exists_cons_of_ne_nil notEmpty
    rw [whole] at same
    obtain ⟨rfl, rfl⟩ := List.cons.inj same
    obtain rfl := grammatical.noZero others whole
    have stops : rest.takeWhile isDigit = [] := (@takeWhile_append_stops rest [] (by simp) stops).1
    simp [whole, stops]
  · simp [taken, dropped, notEmpty]

theorem readFraction?_append (grammatical : t.Grammatical) (stops : Stops rest)
    (noPoint : ∀ c ∈ rest.head?, c ≠ '.') :
    readFraction? (t.fractionText ++ rest) = some (t.fraction, rest) := by
  unfold fractionText
  cases fraction : t.fraction with
  | none =>
      rw [List.nil_append]
      unfold readFraction?
      split
      · exact absurd rfl (noPoint '.' rfl)
      · rfl
  | some digits =>
      obtain ⟨notEmpty, areDigits⟩ := grammatical.fraction digits fraction
      obtain ⟨taken, dropped⟩ := takeWhile_append_stops areDigits stops
      simp [readFraction?, taken, dropped, notEmpty]

theorem readExponent?_append (grammatical : t.Grammatical) (style : DoubleStyle)
    (follows : MayFollow rest) :
    readExponent? (t.exponentText style ++ rest) = some (t.exponent, rest) := by
  unfold exponentText
  cases exponent : t.exponent with
  | none => exact readExponent?_of_mayFollow follows
  | some parts =>
      obtain ⟨down, digits⟩ := parts
      obtain ⟨notEmpty, areDigits⟩ := grammatical.exponent down digits exponent
      obtain ⟨taken, dropped⟩ := takeWhile_append_stops areDigits (stops_of_mayFollow follows)
      obtain ⟨first, others, rfl⟩ := List.exists_cons_of_ne_nil notEmpty
      have sign := ne_sign_of_isDigit (areDigits first List.mem_cons_self)
      rw [List.cons_append] at taken dropped
      cases down
      · cases plus : style.plusSign <;>
          simp [readExponent?, splitSign, sign, taken, dropped]
      · simp [readExponent?, splitSign, taken, dropped]

theorem head?_exponentText (style : DoubleStyle) (follows : MayFollow rest) :
    ∀ c ∈ (t.exponentText style ++ rest).head?, isDigit c = false ∧ c ≠ '.' := by
  unfold exponentText
  split
  · cases rest with
    | nil => rintro c ⟨⟩
    | cons first more =>
        rintro c ⟨⟩
        exact ⟨(not_continues follows).1, (not_continues follows).2.1⟩
  · rintro c ⟨⟩
    decide

theorem head?_fractionText (style : DoubleStyle) (follows : MayFollow rest) :
    Stops (t.fractionText ++ (t.exponentText style ++ rest)) := by
  unfold fractionText
  split
  · exact fun c begins => (head?_exponentText style follows c begins).1
  · rintro c ⟨⟩
    decide

theorem read?_signed (negative : Bool) {body : List Char} (noSign : ∀ c ∈ body.head?, c ≠ '-') :
    read? ((if negative then ['-'] else []) ++ body) = (do
      let (whole, rest) ← readWhole? body
      let (fraction, rest) ← readFraction? rest
      let (exponent, rest) ← readExponent? rest
      return (⟨negative, whole, fraction, exponent⟩, rest)) := by
  cases negative
  · rw [if_neg Bool.false_ne_true, List.nil_append]
    unfold read?
    split
    · rename_i opened
      split at opened
      · exact absurd rfl (noSign '-' rfl)
      · obtain ⟨rfl, rfl⟩ := Prod.mk.inj opened
        rfl
  · rfl

/-- A grammatical text is split as it was put together, and nothing of what follows is
taken. -/
theorem read?_spelled (grammatical : t.Grammatical) (style : DoubleStyle)
    (follows : MayFollow rest) : read? (t.spelled style ++ rest) = some (t, rest) := by
  have afterFraction := head?_exponentText (t := t) style follows
  have whole := readWhole?_append grammatical (head?_fractionText (t := t) style follows)
  have fraction := readFraction?_append grammatical
    (fun c begins => (afterFraction c begins).1) (fun c begins => (afterFraction c begins).2)
  have exponent := readExponent?_append grammatical style follows
  have noSign : ∀ c ∈ (t.whole ++ (t.fractionText ++ (t.exponentText style ++ rest))).head?,
      c ≠ '-' := by
    obtain ⟨notEmpty, areDigits⟩ := grammatical.whole
    obtain ⟨first, others, digits⟩ := List.exists_cons_of_ne_nil notEmpty
    rw [digits] at areDigits ⊢
    rintro c ⟨⟩
    exact (ne_sign_of_isDigit (areDigits first List.mem_cons_self)).1
  rw [spelled, List.append_assoc, List.append_assoc, List.append_assoc, read?_signed _ noSign, whole]
  simp only [Option.bind_eq_bind, Option.bind_some, fraction, exponent]
  rfl

/-- The parts of the text of a natural number. -/
def natural (negative : Bool) (n : Nat) : NumberText :=
  ⟨negative, Nat.toDigits 10 n, none, none⟩

theorem spelled_natural (style : DoubleStyle) (negative : Bool) (n : Nat) :
    (natural negative n).spelled style =
      (if negative then ['-'] else []) ++ Nat.toDigits 10 n := by
  cases negative <;> simp [natural, spelled, fractionText, exponentText]

theorem grammatical_natural (negative : Bool) (n : Nat) :
    (natural negative n).Grammatical := by
  constructor
  · exact ⟨Nat.toDigits_ne_nil, fun c member => isDigit_of_mem_toDigits member⟩
  · intro more same
    rcases Nat.eq_zero_or_pos n with rfl | positive
    · simpa [natural, eq_comm] using same
    · exact absurd same (toDigits_ne_zero_cons positive more)
  · rintro digits ⟨⟩
  · rintro _ _ ⟨⟩

theorem value_natural (negative : Bool) (n : Nat) :
    (natural negative n).decimal.value = n := by
  simp [natural, decimal, digits, written, Decimal.value, naturalOfDigits_toDigits]

end Json.NumberText

namespace Decimal

open Json NumberText

variable {d : Decimal} {negative pointed : Bool}

/-- The parts of the positional text, a whole number with `.0` or without it. -/
def positionalParts (negative pointed : Bool) (d : Decimal) : NumberText :=
  if 0 ≤ d.exponent then
    ⟨negative, d.digits ++ List.replicate d.exponent.toNat '0',
      if pointed then some ['0'] else none, none⟩
  else if 0 ≤ d.leadingPower then
    ⟨negative, d.digits.take (d.leadingPower.toNat + 1),
      some (d.digits.drop (d.leadingPower.toNat + 1)), none⟩
  else
    ⟨negative, ['0'], some (List.replicate (-d.leadingPower - 1).toNat '0' ++ d.digits), none⟩

/-- The parts of the text with an exponent. -/
def scientificParts (negative : Bool) (d : Decimal) : NumberText where
  negative := negative
  whole := d.digits.take 1
  fraction := match d.digits.drop 1 with
    | [] => none
    | rest => some rest
  exponent := some (d.leadingPower < 0, Nat.toDigits 10 d.leadingPower.natAbs)

theorem isDigit_of_mem_digits {c : Char} (member : c ∈ d.digits) : isDigit c = true :=
  isDigit_of_mem_toDigits member

theorem length_digits_pos (d : Decimal) : 0 < d.digits.length :=
  Nat.length_toDigits_pos

theorem isDigit_of_mem_zeros {count : Nat} {c : Char}
    (member : c ∈ List.replicate count '0') : isDigit c = true := by
  obtain rfl := List.eq_of_mem_replicate member
  rfl

theorem naturalOfDigits_digits (d : Decimal) : naturalOfDigits 0 d.digits = d.coefficient :=
  naturalOfDigits_toDigits _

theorem digits_ne_nil (d : Decimal) : d.digits ≠ [] :=
  List.ne_nil_of_length_pos d.length_digits_pos

/-- The first digits of a positive coefficient do not begin with a zero. -/
theorem take_digits_ne_zero_cons (positive : 0 < d.coefficient) (count : Nat) (more : List Char) :
    d.digits.take count ≠ '0' :: more := by
  intro same
  have whole := List.take_append_drop count d.digits
  rw [same, List.cons_append] at whole
  exact toDigits_ne_zero_cons positive _ whole.symm

theorem grammatical_positionalParts (positive : 0 < d.coefficient) :
    (d.positionalParts negative pointed).Grammatical := by
  have length := d.length_digits_pos
  unfold positionalParts
  by_cases whole : 0 ≤ d.exponent
  · rw [if_pos whole]
    constructor
    · refine ⟨by simp [d.digits_ne_nil], fun c member => ?_⟩
      rcases List.mem_append.1 member with digit | zero
      · exact isDigit_of_mem_digits digit
      · exact isDigit_of_mem_zeros zero
    · intro more same
      obtain ⟨first, others, digits⟩ := List.exists_cons_of_ne_nil d.digits_ne_nil
      rw [digits, List.cons_append] at same
      obtain ⟨rfl, -⟩ := List.cons.inj same
      exact absurd digits (toDigits_ne_zero_cons positive others)
    · intro digits fraction
      obtain rfl : digits = ['0'] := by
        cases pointed <;> simp_all
      exact ⟨List.cons_ne_nil _ _, fun c member => @isDigit_of_mem_zeros 1 c member⟩
    · rintro _ _ ⟨⟩
  rw [if_neg whole]
  by_cases mixed : 0 ≤ d.leadingPower
  · rw [if_pos mixed]
    have shorter : d.leadingPower.toNat + 1 < d.digits.length := by
      unfold leadingPower at mixed ⊢
      omega
    constructor
    · exact ⟨by simp [d.digits_ne_nil], fun c member =>
        isDigit_of_mem_digits (List.mem_of_mem_take member)⟩
    · intro more same
      exact absurd same (take_digits_ne_zero_cons positive _ more)
    · rintro digits ⟨⟩
      exact ⟨by simpa using shorter, fun c member =>
        isDigit_of_mem_digits (List.mem_of_mem_drop member)⟩
    · rintro _ _ ⟨⟩
  · rw [if_neg mixed]
    constructor
    · exact ⟨List.cons_ne_nil _ _, fun c member => @isDigit_of_mem_zeros 1 c member⟩
    · rintro more ⟨⟩
      rfl
    · rintro digits ⟨⟩
      refine ⟨by simp [d.digits_ne_nil], fun c member => ?_⟩
      rcases List.mem_append.1 member with zero | digit
      · exact isDigit_of_mem_zeros zero
      · exact isDigit_of_mem_digits digit
    · rintro _ _ ⟨⟩

theorem grammatical_scientificParts (positive : 0 < d.coefficient) :
    (d.scientificParts negative).Grammatical := by
  constructor
  · exact ⟨by simp [scientificParts, d.digits_ne_nil], fun c member =>
      isDigit_of_mem_digits (List.mem_of_mem_take member)⟩
  · intro more same
    exact absurd same (take_digits_ne_zero_cons positive 1 more)
  · intro digits fraction
    unfold scientificParts at fraction
    dsimp only at fraction
    split at fraction
    · cases fraction
    · rename_i notEmpty
      obtain rfl := Option.some.inj fraction
      exact ⟨notEmpty, fun c member => isDigit_of_mem_digits (List.mem_of_mem_drop member)⟩
  · intro sign digits exponent
    obtain ⟨-, rfl⟩ := Prod.mk.inj (Option.some.inj exponent)
    exact ⟨Nat.toDigits_ne_nil, fun c member => isDigit_of_mem_toDigits member⟩

theorem value_eq_of_shift {first second : Decimal} (count : Nat)
    (exponent : first.exponent = second.exponent + count)
    (coefficient : second.coefficient = first.coefficient * 10 ^ count) :
    second.value = first.value := by
  rw [value, value, exponent, coefficient, zpow_add₀ (by norm_num), zpow_natCast]
  push_cast
  ring

theorem value_positionalParts (negative pointed : Bool) (d : Decimal) :
    (d.positionalParts negative pointed).decimal.value = d.value := by
  unfold positionalParts
  split_ifs with whole pointed mixed
  · apply value_eq_of_shift (d.exponent.toNat + 1)
    · simp [decimal, written]
      omega
    · simp only [decimal, NumberText.digits, Option.getD_some, List.append_assoc]
      rw [naturalOfDigits_append, ← List.replicate_succ', naturalOfDigits_zeros,
        naturalOfDigits_digits, List.length_replicate, Nat.add_zero]
  · apply value_eq_of_shift d.exponent.toNat
    · simp [decimal, written, whole]
    · simp only [decimal, NumberText.digits, Option.getD_none, List.append_nil]
      rw [naturalOfDigits_append, naturalOfDigits_zeros, naturalOfDigits_digits,
        List.length_replicate, Nat.add_zero]
  · apply value_eq_of_shift 0
    · simp only [decimal, written, Option.getD_some, List.length_drop, leadingPower] at mixed ⊢
      omega
    · simp only [decimal, NumberText.digits, Option.getD_some, List.take_append_drop]
      rw [naturalOfDigits_digits, pow_zero, Nat.mul_one]
  · apply value_eq_of_shift 0
    · simp only [decimal, written, Option.getD_some, List.length_append, List.length_replicate,
        leadingPower] at mixed ⊢
      omega
    · simp only [decimal, NumberText.digits, Option.getD_some]
      rw [naturalOfDigits_append, naturalOfDigits_append, naturalOfDigits_zeros,
        naturalOfDigits_digits]
      simp [naturalOfDigits, digitValue?]

theorem getD_fraction_scientificParts (negative : Bool) (d : Decimal) :
    (d.scientificParts negative).fraction.getD [] = d.digits.drop 1 := by
  unfold scientificParts
  dsimp only
  split
  · rename_i empty
    exact empty.symm
  · rfl

theorem value_scientificParts (negative : Bool) (d : Decimal) :
    (d.scientificParts negative).decimal.value = d.value := by
  have length := d.length_digits_pos
  apply value_eq_of_shift 0
  · have written : (d.scientificParts negative).written = d.leadingPower := by
      simp only [written, scientificParts, naturalOfDigits_toDigits, decide_eq_true_eq]
      split_ifs <;> omega
    simp only [decimal, getD_fraction_scientificParts, List.length_drop, written, leadingPower]
    omega
  · simp only [decimal, NumberText.digits, getD_fraction_scientificParts]
    rw [scientificParts, List.take_append_drop, naturalOfDigits_digits, pow_zero, Nat.mul_one]

theorem negative_positionalParts (negative pointed : Bool) (d : Decimal) :
    (d.positionalParts negative pointed).negative = negative := by
  unfold Decimal.positionalParts
  split_ifs <;> rfl

theorem spelled_positionalParts (style : DoubleStyle) (negative pointed : Bool) (d : Decimal) :
    (d.positionalParts negative pointed).spelled style =
      (if negative then ['-'] else []) ++
        (d.positional ++ if pointed ∧ 0 ≤ d.exponent then ['.', '0'] else []) := by
  unfold positionalParts positional
  split_ifs <;> simp_all [spelled, fractionText, exponentText]

theorem spelled_scientificParts (style : DoubleStyle) (negative : Bool) (d : Decimal) :
    (d.scientificParts negative).spelled style =
      (if negative then ['-'] else []) ++ d.scientific style := by
  unfold spelled fractionText exponentText scientificParts scientific
  dsimp only
  cases d.digits.drop 1 <;> simp

end Decimal

end DocStore
