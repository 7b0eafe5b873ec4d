import DocStore.Json.Text
import DocStore.Proofs.NumberTexts

/-!
# Numbers of JSON texts as they are typed

Every number that the JSON reader accepts is also read where numbers are typed, by another
rule: a typed number is the nearest double of the decimal that it denotes, unless it is a
signed word.
-/

namespace DocStore

namespace Json.NumberText

variable {t : NumberText} {cs rest : List Char}

/-! ### What the JSON reader accepts -/

/-- The texts of an exponent. -/
inductive SpellsExponent : Option (Bool × List Char) → List Char → Prop where
  | none : SpellsExponent none []
  | unsigned (digits : List Char) {mark : Char} (isMark : mark = 'e' ∨ mark = 'E') :
      SpellsExponent (some (false, digits)) (mark :: digits)
  | plus (digits : List Char) {mark : Char} (isMark : mark = 'e' ∨ mark = 'E') :
      SpellsExponent (some (false, digits)) (mark :: '+' :: digits)
  | minus (digits : List Char) {mark : Char} (isMark : mark = 'e' ∨ mark = 'E') :
      SpellsExponent (some (true, digits)) (mark :: '-' :: digits)

/-- The texts of a number. -/
structure Spelled (t : NumberText) (cs : List Char) : Prop where
  grammatical : t.Grammatical
  spelled : ∃ exponent, SpellsExponent t.exponent exponent ∧
    cs = (if t.negative then ['-'] else []) ++ (t.whole ++ (t.fractionText ++ exponent))

theorem stops_dropWhile (cs : List Char) : Stops (cs.dropWhile isDigit) := by
  intro c begins
  have stopped := List.head?_dropWhile_not isDigit cs
  rw [Option.mem_def.1 begins] at stopped
  exact stopped

theorem stops_of_takeWhile (none : cs.takeWhile isDigit = []) : Stops cs := by
  have split := @List.takeWhile_append_dropWhile _ isDigit cs
  rw [none, List.nil_append] at split
  exact split ▸ stops_dropWhile cs

theorem forall_mem_takeWhile (cs : List Char) : ∀ c ∈ cs.takeWhile isDigit, isDigit c = true :=
  fun _ member => List.mem_takeWhile_imp member

theorem readWhole?_eq_some {whole : List Char} (read : readWhole? cs = some (whole, rest)) :
    cs = whole ++ rest ∧ Stops rest ∧ (whole ≠ [] ∧ ∀ c ∈ whole, isDigit c = true) ∧
      ∀ more, whole = '0' :: more → more = [] := by
  unfold readWhole? at read
  split at read
  · rename_i after
    split at read
    · rename_i stops
      obtain ⟨rfl, rfl⟩ := Prod.mk.inj (Option.some.inj read)
      refine ⟨rfl, stops_of_takeWhile (List.isEmpty_iff.1 stops),
        ⟨List.cons_ne_nil _ _, fun c member => @Decimal.isDigit_of_mem_zeros 1 c member⟩, ?_⟩
      rintro more ⟨⟩
      rfl
    · cases read
  · rename_i notZero
    dsimp only at read
    split at read
    · cases read
    · rename_i notEmpty
      obtain ⟨rfl, rfl⟩ := Prod.mk.inj (Option.some.inj read)
      refine ⟨List.takeWhile_append_dropWhile.symm, stops_dropWhile cs,
        ⟨by simpa using notEmpty, forall_mem_takeWhile cs⟩, fun more whole => ?_⟩
      have split := @List.takeWhile_append_dropWhile _ isDigit cs
      rw [whole, List.cons_append] at split
      exact absurd split.symm (notZero _)

theorem readFraction?_eq_some {fraction : Option (List Char)}
    (read : readFraction? cs = some (fraction, rest)) :
    cs = (NumberText.mk false [] fraction none).fractionText ++ rest ∧
      ∀ digits, fraction = some digits → digits ≠ [] ∧ ∀ c ∈ digits, isDigit c = true := by
  unfold readFraction? at read
  split at read
  · rename_i after
    simp only at read
    split_ifs at read with empty
    obtain ⟨rfl, rfl⟩ := Prod.mk.inj (Option.some.inj read)
    constructor
    · exact congrArg ('.' :: ·) List.takeWhile_append_dropWhile.symm
    · rintro digits ⟨⟩
      exact ⟨by simpa using empty, forall_mem_takeWhile after⟩
  · obtain ⟨rfl, rfl⟩ := Prod.mk.inj (Option.some.inj read)
    refine ⟨rfl, ?_⟩
    rintro digits ⟨⟩

theorem splitSign_cases {down : Bool} {body : List Char} (split : splitSign cs = (down, body)) :
    (cs = '-' :: body ∧ down = true) ∨ (cs = '+' :: body ∧ down = false) ∨
      (cs = body ∧ down = false) := by
  unfold splitSign at split
  split at split <;> obtain ⟨rfl, rfl⟩ := Prod.mk.inj split
  · exact .inl ⟨rfl, rfl⟩
  · exact .inr (.inl ⟨rfl, rfl⟩)
  · exact .inr (.inr ⟨rfl, rfl⟩)

theorem readExponent?_eq_some {exponent : Option (Bool × List Char)}
    (read : readExponent? cs = some (exponent, rest)) :
    (∃ text, SpellsExponent exponent text ∧ cs = text ++ rest) ∧
      ∀ sign digits, exponent = some (sign, digits) →
        digits ≠ [] ∧ ∀ c ∈ digits, isDigit c = true := by
  cases cs with
  | nil =>
      obtain ⟨rfl, rfl⟩ := Prod.mk.inj (Option.some.inj read)
      refine ⟨⟨[], .none, rfl⟩, ?_⟩
      rintro sign digits ⟨⟩
  | cons mark after =>
      rw [readExponent?] at read
      rcases signed : splitSign after with ⟨down, body⟩
      simp only [signed] at read
      split_ifs at read with isMark empty
      · obtain ⟨rfl, rfl⟩ := Prod.mk.inj (Option.some.inj read)
        have parts := (@List.takeWhile_append_dropWhile _ isDigit body).symm
        constructor
        · rcases splitSign_cases signed with ⟨rfl, rfl⟩ | ⟨rfl, rfl⟩ | ⟨rfl, rfl⟩
          · exact ⟨_, .minus _ isMark, congrArg (mark :: '-' :: ·) parts⟩
          · exact ⟨_, .plus _ isMark, congrArg (mark :: '+' :: ·) parts⟩
          · exact ⟨_, .unsigned _ isMark, congrArg (mark :: ·) parts⟩
        · rintro sign digits ⟨⟩
          exact ⟨by simpa using empty, forall_mem_takeWhile _⟩
      · obtain ⟨rfl, rfl⟩ := Prod.mk.inj (Option.some.inj read)
        refine ⟨⟨[], .none, rfl⟩, ?_⟩
        rintro sign digits ⟨⟩

/-- What the JSON reader takes off a text spells the number that it answers. -/
theorem read?_eq_some (read : read? cs = some (t, rest)) :
    ∃ body, cs = body ++ rest ∧ t.Spelled body := by
  unfold read? at read
  simp only [Option.bind_eq_bind, Option.bind_eq_some_iff, Option.pure_def, Option.some.injEq,
    Prod.mk.injEq, Prod.exists] at read
  obtain ⟨whole, afterWhole, readWhole, fraction, afterFraction, readFraction, exponent,
    afterExponent, readExponent, rfl, rfl⟩ := read
  obtain ⟨wholeEq, -, areDigits, noZero⟩ := readWhole?_eq_some readWhole
  obtain ⟨fractionEq, fractionDigits⟩ := readFraction?_eq_some readFraction
  obtain ⟨⟨text, spells, exponentEq⟩, exponentDigits⟩ := readExponent?_eq_some readExponent
  rw [fractionEq, exponentEq] at wholeEq
  refine ⟨_, ?_, ⟨areDigits, noZero, fractionDigits, exponentDigits⟩, text, spells, rfl⟩
  simp only [List.append_assoc]
  split at wholeEq
  · exact congrArg ('-' :: ·) wholeEq
  · exact wholeEq

/-! ### The same texts as they are typed -/

/-- The nearest double of the decimal that a text denotes. -/
def nearest (t : NumberText) : Binary64 :=
  Binary64.ofDecimal t.negative t.decimal.coefficient t.decimal.exponent

theorem head_ne_sign (grammatical : t.Grammatical) (rest : List Char) :
    ∃ c more, t.whole ++ rest = c :: more ∧ isDigit c = true := by
  obtain ⟨notEmpty, areDigits⟩ := grammatical.whole
  obtain ⟨first, others, digits⟩ := List.exists_cons_of_ne_nil notEmpty
  exact ⟨first, others ++ rest, by rw [digits, List.cons_append],
    areDigits first (by simp [digits])⟩

theorem splitSign_signed (negative : Bool) {c : Char} (digit : isDigit c = true)
    (more : List Char) :
    splitSign ((if negative then ['-'] else []) ++ c :: more) = (negative, c :: more) := by
  cases negative
  · simp [splitSign, ne_sign_of_isDigit digit]
  · rfl

theorem named?_of_digit (negative : Bool) {c : Char} (digit : isDigit c = true)
    (more : List Char) :
    Binary64.named? negative (String.ofList ((c :: more).map Char.toLower)) = none := by
  have letter : c.toLower ≠ 'i' ∧ c.toLower ≠ 'n' := by
    rw [toLower_digit (isDigit_iff.1 digit)]
    constructor <;>
      · rintro rfl
        exact absurd digit (by decide)
  simp [Binary64.named?, String.ext_iff, letter]

theorem readNatural?_digits {digits : List Char} (notEmpty : digits ≠ [])
    (areDigits : ∀ c ∈ digits, isDigit c = true) :
    readNatural? digits = some (naturalOfDigits 0 digits) := by
  simpa [readNatural?, notEmpty] using areDigits

theorem splitSign_digits {digits : List Char} (areDigits : ∀ c ∈ digits, isDigit c = true)
    (notEmpty : digits ≠ []) : splitSign digits = (false, digits) := by
  obtain ⟨first, others, rfl⟩ := List.exists_cons_of_ne_nil notEmpty
  exact splitSign_signed false (areDigits first List.mem_cons_self) others

theorem readExponent?_spells {exponent : Option (Bool × List Char)} {mark : Char}
    {text : List Char} (spells : SpellsExponent exponent (mark :: text))
    (grammatical : ∀ sign digits, exponent = some (sign, digits) →
      digits ≠ [] ∧ ∀ c ∈ digits, isDigit c = true) :
    (mark = 'e' ∨ mark = 'E') ∧
      Binary64.readExponent? text = some (written ⟨false, [], none, exponent⟩) := by
  cases spells with
  | unsigned digits isMark =>
      obtain ⟨notEmpty, areDigits⟩ := grammatical false _ rfl
      refine ⟨isMark, ?_⟩
      simp [Binary64.readExponent?, splitSign_digits areDigits notEmpty,
        readNatural?_digits notEmpty areDigits, written]
  | plus digits isMark =>
      obtain ⟨notEmpty, areDigits⟩ := grammatical false _ rfl
      refine ⟨isMark, ?_⟩
      simp [Binary64.readExponent?, splitSign, readNatural?_digits notEmpty areDigits, written]
  | minus digits isMark =>
      obtain ⟨notEmpty, areDigits⟩ := grammatical true _ rfl
      refine ⟨isMark, ?_⟩
      simp [Binary64.readExponent?, splitSign, readNatural?_digits notEmpty areDigits, written]

theorem stops_exponent {exponent : Option (Bool × List Char)} {text : List Char}
    (spells : SpellsExponent exponent text) : Stops text ∧ ∀ c ∈ text.head?, c ≠ '.' := by
  have marked {mark : Char} (isMark : mark = 'e' ∨ mark = 'E') :
      isDigit mark = false ∧ mark ≠ '.' := by
    rcases isMark with rfl | rfl <;> decide
  cases spells with
  | none => constructor <;> rintro c ⟨⟩
  | unsigned _ isMark | plus _ isMark | minus _ isMark =>
      constructor <;> rintro c ⟨⟩
      · exact (marked isMark).1
      · exact (marked isMark).2

/-- What is read behind the whole part, with the fraction split off. -/
theorem read?_behindWhole (whole fraction : List Char) (negative : Bool)
    {exponent : Option (Bool × List Char)} {text : List Char} (spells : SpellsExponent exponent text)
    (grammatical : ∀ sign digits, exponent = some (sign, digits) →
      digits ≠ [] ∧ ∀ c ∈ digits, isDigit c = true) (notEmpty : whole ≠ []) :
    (do
      guard (!(whole.isEmpty && fraction.isEmpty))
      let exponent ← match text with
        | [] => some 0
        | mark :: digits =>
          if mark = 'e' ∨ mark = 'E' then Binary64.readExponent? digits else none
      return Binary64.ofDecimal negative (naturalOfDigits 0 (whole ++ fraction))
        (exponent - fraction.length)) =
      some (Binary64.ofDecimal negative (naturalOfDigits 0 (whole ++ fraction))
        (written ⟨false, [], none, exponent⟩ - fraction.length)) := by
  cases text with
  | nil =>
      cases spells
      simp [notEmpty, written]
  | cons mark digits =>
      obtain ⟨isMark, read⟩ := readExponent?_spells spells grammatical
      simp [notEmpty, isMark, read]

/-- A number of a JSON text is typed as the nearest double of its decimal. -/
theorem read?_spelledBody (spelled : t.Spelled cs) : Binary64.read? cs = some t.nearest := by
  obtain ⟨grammatical, exponentText, spells, rfl⟩ := spelled
  obtain ⟨stops, noPoint⟩ := stops_exponent spells
  have stopsFraction : Stops (t.fractionText ++ exponentText) := by
    unfold fractionText
    split
    · exact stops
    · rintro c ⟨⟩
      decide
  obtain ⟨taken, dropped⟩ := takeWhile_append_stops grammatical.whole.2 stopsFraction
  obtain ⟨c, more, text, digit⟩ := head_ne_sign grammatical (t.fractionText ++ exponentText)
  rw [text] at taken dropped ⊢
  have behind := read?_behindWhole t.whole (t.fraction.getD []) t.negative spells
    grammatical.exponent grammatical.whole.1
  simp only [Binary64.read?, splitSign_signed _ digit, named?_of_digit _ digit, taken, dropped]
  rw [nearest, decimal, digits]
  unfold fractionText
  cases fraction : t.fraction with
  | none =>
      rw [fraction] at behind
      rw [List.nil_append]
      split
      · exact absurd rfl (noPoint '.' rfl)
      · exact behind
  | some digits =>
      obtain ⟨fractionTaken, fractionDropped⟩ :=
        takeWhile_append_stops (grammatical.fraction digits fraction).2 stops
      rw [fraction] at behind
      simp only [List.cons_append, fractionTaken, fractionDropped]
      exact behind

/-- The integer that a text without fraction and exponent denotes. -/
def signedWhole (t : NumberText) : Int :=
  if t.negative then -(naturalOfDigits 0 t.whole : Int) else naturalOfDigits 0 t.whole

/-- The nearest double of an integer of 64 bits, which may be the negative zero. -/
theorem nearest_of_signedWhole (noFraction : t.fraction = none) (noExponent : t.exponent = none)
    (fits : naturalOfDigits 0 t.whole < 2 ^ 64) :
    ∃ x : Double, t.nearest = .finite x ∧ x.units = Binary64.nearestUnits t.signedWhole := by
  have decimal : t.decimal = ⟨naturalOfDigits 0 t.whole, 0⟩ := by
    simp [NumberText.decimal, digits, written, noFraction, noExponent]
  obtain ⟨x, found, sign, magnitude⟩ := Binary64.ofDecimal_whole t.negative fits
  refine ⟨x, by rw [nearest, decimal, found], ?_⟩
  rw [Double.units, sign, magnitude, signedWhole, Binary64.nearestUnits]
  rcases Nat.eq_zero_or_pos (naturalOfDigits 0 t.whole) with zero | positive
  · rw [zero, Nat.zero_mul]
    cases t.negative <;> simp [Binary64.roundedUnits, Binary64.roundEven]
  · cases t.negative <;> simp [positive]

/-- The nearest double of a stored integer is the integer's own. -/
theorem nearest_of_ofInt? {n : Integer} (noFraction : t.fraction = none)
    (noExponent : t.exponent = none) (stored : Integer.ofInt? t.signedWhole = some n) :
    ∃ x : Double, t.nearest = .finite x ∧ x.units = (Number.int n).toDouble.units := by
  have val : n.val = t.signedWhole := by
    unfold Integer.ofInt? at stored
    split_ifs at stored
    rw [← Option.some.inj stored]
  have fits : naturalOfDigits 0 t.whole < 2 ^ 64 := by
    have bounds := n.fits
    rw [val, signedWhole] at bounds
    simp only [Integer.least, Integer.most] at bounds
    split_ifs at bounds <;> omega
  obtain ⟨x, found, units⟩ := nearest_of_signedWhole noFraction noExponent fits
  exact ⟨x, found, by rw [units, Number.toDouble_int_units, val]⟩

/-- Nothing but digits stands behind the sign of an integer. -/
theorem plain_of_isDigit {text : List Char} (spells : SpellsExponent t.exponent text)
    (areDigits : ∀ c ∈ t.fractionText ++ text, isDigit c = true) :
    t.fraction = none ∧ t.exponent = none ∧ t.fractionText ++ text = [] := by
  have noFraction : t.fraction = none := by
    cases fraction : t.fraction with
    | none => rfl
    | some digits =>
        have point := areDigits '.' (by simp [fractionText, fraction])
        exact absurd point (by decide)
  have noText : text = [] := by
    cases text with
    | nil => rfl
    | cons mark digits =>
        have stops := (stops_exponent spells).1 mark rfl
        rw [areDigits mark (by simp)] at stops
        cases stops
  subst noText
  refine ⟨noFraction, ?_, by simp [fractionText, noFraction]⟩
  generalize t.exponent = exponent at spells
  cases spells
  rfl

/-- A text that is typed as a signed word has that word as its nearest double. -/
theorem nearest_of_readInt64? {n : Integer} (spelled : t.Spelled cs)
    (read : readInt64? cs = some n) :
    ∃ x : Double, t.nearest = .finite x ∧ x.units = (Number.int n).toDouble.units := by
  obtain ⟨grammatical, exponentText, spells, rfl⟩ := spelled
  obtain ⟨c, more, text, digit⟩ := head_ne_sign grammatical (t.fractionText ++ exponentText)
  rw [text, readInt64?, splitSign_signed _ digit, ← text] at read
  simp only [Option.bind_eq_bind, Option.bind_eq_some_iff] at read
  obtain ⟨magnitude, natural, value, word, signed⟩ := read
  obtain rfl : value = n := by
    split_ifs at signed
    exact Option.some.inj signed
  simp only [readNatural?] at natural
  split_ifs at natural with areDigits
  obtain rfl := Option.some.inj natural
  simp only [Bool.and_eq_true, List.all_eq_true] at areDigits
  obtain ⟨noFraction, noExponent, nothing⟩ := plain_of_isDigit spells fun c member =>
    areDigits.2 c (List.mem_append_right _ member)
  rw [nothing, List.append_nil] at word
  exact nearest_of_ofInt? noFraction noExponent word

/-! ### Blanks around a number -/

theorem not_blank_of_isDigit {digits : List Char} (areDigits : ∀ c ∈ digits, isDigit c = true) :
    ∀ c ∈ digits, isBlank c = false :=
  fun c member => isBlank_digit (isDigit_iff.1 (areDigits c member))

theorem not_blank_fractionText (grammatical : t.Grammatical) :
    ∀ c ∈ t.fractionText, isBlank c = false := by
  unfold fractionText
  split
  · rintro c ⟨⟩
  · rename_i digits fraction
    have dark := not_blank_of_isDigit (grammatical.fraction digits fraction).2
    exact List.forall_mem_cons.2 ⟨by decide, dark⟩

theorem not_blank_exponent {exponent : Option (Bool × List Char)} {text : List Char}
    (spells : SpellsExponent exponent text)
    (areDigits : ∀ sign digits, exponent = some (sign, digits) →
      digits ≠ [] ∧ ∀ c ∈ digits, isDigit c = true) : ∀ c ∈ text, isBlank c = false := by
  have marked {mark : Char} (isMark : mark = 'e' ∨ mark = 'E') : isBlank mark = false := by
    rcases isMark with rfl | rfl <;> decide
  cases spells with
  | none => rintro c ⟨⟩
  | unsigned digits isMark =>
      have dark := not_blank_of_isDigit (areDigits _ digits rfl).2
      exact List.forall_mem_cons.2 ⟨marked isMark, dark⟩
  | plus digits isMark | minus digits isMark =>
      have dark := not_blank_of_isDigit (areDigits _ digits rfl).2
      exact List.forall_mem_cons.2 ⟨marked isMark, List.forall_mem_cons.2 ⟨by decide, dark⟩⟩

theorem not_blank_of_spelled (spelled : t.Spelled cs) : ∀ c ∈ cs, isBlank c = false := by
  obtain ⟨grammatical, exponentText, spells, rfl⟩ := spelled
  have sign : ∀ c ∈ if t.negative then ['-'] else [], isBlank c = false := by
    split_ifs <;> simp [isBlank]
  have whole := not_blank_of_isDigit grammatical.whole.2
  have fraction := not_blank_fractionText grammatical
  have exponent := not_blank_exponent spells grammatical.exponent
  intro c member
  simp only [List.mem_append] at member
  rcases member with inSign | inWhole | inFraction | inExponent
  · exact sign c inSign
  · exact whole c inWhole
  · exact fraction c inFraction
  · exact exponent c inExponent

end Json.NumberText

namespace Json

/-- How a number of a JSON text is read where numbers are typed: as an equal of the nearest
double of its decimal, if that is finite. -/
theorem readNumber?_spelled {t : NumberText} {text : String} {before body behind : List Char}
    (around : text.toList = before ++ (body ++ behind)) (blanks : ∀ c ∈ before, isBlank c = true)
    (behindBlank : ∀ c ∈ behind, isBlank c = true) (spelled : t.Spelled body) :
    (readNumber? text).map (fun n => n.toDouble.units) = t.nearest.toDouble?.map Double.units := by
  have trimmed : trimBlanks text.toList = body := by
    rw [around]
    exact trimBlanks_around blanks behindBlank (NumberText.not_blank_of_spelled spelled)
  unfold readNumber?
  dsimp only
  rw [trimmed]
  cases read : readInt64? body with
  | some n =>
      obtain ⟨x, found, units⟩ := NumberText.nearest_of_readInt64? spelled read
      rw [found]
      exact congrArg some units.symm
  | none =>
      dsimp only
      rw [NumberText.read?_spelledBody spelled, Option.bind_some, Option.map_map]
      rfl

end Json

end DocStore
