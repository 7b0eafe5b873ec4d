import DocStore.Proofs.Conformance
import DocStore.Proofs.ValueEquality

/-!
# Conformance and rounding

Records conform by the exact values of their numbers, and are checked by the nearest
doubles.  Rounding keeps the order and every double, so whatever the check finds is true.
It misses a broken rule exactly if an integer beyond a bound rounds to the bound, or a
value that is not listed to one that is.
-/

namespace DocStore

namespace Number

/-- Whether a number is its own nearest double. -/
def IsExact (n : Number) : Prop :=
  n.units = n.exactUnits

theorem isExact_of_small {n : Number} (small : ∀ m, n = .int m → m.val.natAbs < 2 ^ 53) :
    n.IsExact := by
  cases n with
  | int m =>
      rw [IsExact, units, toDouble_int_units, Binary64.nearestUnits_of_small (small m rfl),
        exactUnits]
  | double x => rfl

theorem units_eq_signedUnits (n : Number) : n.units = Binary64.signedUnits n.exactUnits := by
  cases n with
  | int m => rw [units, toDouble_int_units, Binary64.nearestUnits_eq_signedUnits, exactUnits]
  | double x => exact x.signedUnits_units.symm

end Number

namespace Binary64

variable {bound : Binary64} {key : Int} {n : Number}

/-- A bound is not rounded, not even an infinite one. -/
theorem signedUnits_orderKey (isKey : bound.orderKey? = some key) : signedUnits key = key := by
  cases bound with
  | finite x =>
      obtain rfl := Option.some.inj isKey
      exact x.signedUnits_units
  | infinite negative =>
      obtain rfl := Option.some.inj isKey
      have fits (bits : Nat) : roundedUnits (1 <<< bits) = 1 <<< bits := by
        have powerFits := @roundedUnits_of_fits 1 bits (by norm_num)
        rwa [Nat.one_mul, ← Nat.one_shiftLeft] at powerFits
      refine signedUnits_eq_self ?_
      cases negative <;>
        simp only [Bool.false_eq_true, if_false, if_true, Int.natAbs_neg, Int.natAbs_natCast,
          fits]
  | nan => cases isKey

theorem le_units (isKey : bound.orderKey? = some key) (le : key ≤ n.exactUnits) :
    key ≤ n.units := by
  rw [← signedUnits_orderKey isKey, n.units_eq_signedUnits]
  exact signedUnits_mono le

theorem units_le (isKey : bound.orderKey? = some key) (le : n.exactUnits ≤ key) :
    n.units ≤ key := by
  rw [← signedUnits_orderKey isKey, n.units_eq_signedUnits]
  exact signedUnits_mono le

end Binary64

namespace Rules

variable {rules : Rules} {held : Option Json} {violation : Violation}

/-- How rounding hides that what stands at a position breaks a rule: an integer beyond a
bound rounds to the bound, or a value that is not listed to a listed one. -/
inductive Hides (rules : Rules) : Option Json → Violation → Prop
  | below {n : Number} {bound : Binary64} {key : Int} (declared : rules.min = some bound)
      (isKey : bound.orderKey? = some key) (less : n.exactUnits < key) (meets : n.units = key) :
      Hides rules (some (.number n)) (.belowMinimum bound)
  | above {n : Number} {bound : Binary64} {key : Int} (declared : rules.max = some bound)
      (isKey : bound.orderKey? = some key) (more : key < n.exactUnits) (meets : n.units = key) :
      Hides rules (some (.number n)) (.aboveMaximum bound)
  | unlisted {value : Json} {allowed : List Json} (notNull : value ≠ .null)
      (declared : rules.allowed = some allowed)
      (unlike : ∀ candidate ∈ allowed,
        candidate.sameBy (fun m n => m.exactUnits == n.exactUnits) value = false)
      (alike : ∃ candidate ∈ allowed, candidate.same value = true) :
      Hides rules (some value) (.notListed allowed)

theorem same_of_sameBy_exactUnits {candidate value : Json}
    (equal : candidate.sameBy (fun m n => m.exactUnits == n.exactUnits) value = true) :
    candidate.same value = true := by
  have all (value : Json) : value.NumbersIn fun _ => True :=
    Json.numbersIn_of_forall (fun _ => trivial) value
  refine Json.sameBy_imp (fun m n _ _ equal => ?_) candidate value (all _) (all _) equal
  have equal : m.exactUnits = n.exactUnits := by simpa using equal
  have units : m.units = n.units := by
    rw [m.units_eq_signedUnits, n.units_eq_signedUnits, equal]
  rw [Number.same, beq_iff_eq]
  exact units

/-- What is broken after rounding is broken: rounding keeps the order of a number and a
bound, and what is the same value stays the same. -/
theorem Breaks.exact (broken : rules.Breaks Number.units held violation) :
    rules.Breaks Number.exactUnits held violation := by
  cases broken with
  | below declared isKey less =>
      refine .below declared isKey (lt_of_not_ge fun le => ?_)
      exact absurd less (not_lt.2 (Binary64.le_units isKey le))
  | above declared isKey more =>
      refine .above declared isKey (lt_of_not_ge fun le => ?_)
      exact absurd more (not_lt.2 (Binary64.units_le isKey le))
  | unlisted notNull declared unlike =>
      refine .unlisted notNull declared fun candidate isAllowed => ?_
      refine Bool.eq_false_iff.2 fun equal => ?_
      exact Bool.eq_false_iff.1 (unlike candidate isAllowed) (same_of_sameBy_exactUnits equal)
  | _ => constructor <;> assumption

theorem Hides.not_breaks (hidden : rules.Hides held violation) :
    ¬ rules.Breaks Number.units held violation := by
  intro broken
  cases hidden with
  | below _ isKey _ meets =>
      cases broken with
      | below _ alsoKey less =>
          have equal := Option.some.inj (isKey.symm.trans alsoKey)
          omega
  | above _ isKey _ meets =>
      cases broken with
      | above _ alsoKey more =>
          have equal := Option.some.inj (isKey.symm.trans alsoKey)
          omega
  | unlisted _ _ _ alike =>
      obtain ⟨candidate, isAllowed, alike⟩ := alike
      cases broken with
      | unlisted _ _ unlike => exact Bool.eq_false_iff.1 (unlike candidate isAllowed) alike

/-- What is broken is hidden, or still broken after rounding. -/
theorem Breaks.rounded (broken : rules.Breaks Number.exactUnits held violation)
    (shown : ¬ rules.Hides held violation) : rules.Breaks Number.units held violation := by
  cases broken with
  | below declared isKey less =>
      refine .below declared isKey (lt_of_le_of_ne (Binary64.units_le isKey less.le) ?_)
      exact fun meets => shown (.below declared isKey less meets)
  | above declared isKey more =>
      refine .above declared isKey (lt_of_le_of_ne (Binary64.le_units isKey more.le) ?_)
      exact fun meets => shown (.above declared isKey more meets.symm)
  | unlisted notNull declared unlike =>
      refine .unlisted notNull declared fun candidate isAllowed => ?_
      refine Bool.eq_false_iff.2 fun alike => ?_
      exact shown (.unlisted notNull declared unlike ⟨candidate, isAllowed, alike⟩)
  | _ => constructor <;> assumption

/-- By their nearest doubles, numbers break the rules that they break by their exact values
and that rounding does not hide. -/
theorem breaks_units_iff :
    rules.Breaks Number.units held violation ↔
      rules.Breaks Number.exactUnits held violation ∧ ¬ rules.Hides held violation :=
  ⟨fun broken => ⟨broken.exact, fun hidden => hidden.not_breaks broken⟩,
    fun ⟨broken, shown⟩ => broken.rounded shown⟩

/-- Nothing is hidden where all numbers are their own nearest doubles. -/
theorem not_hides_of_isExact
    (exact : ∀ value, held = some value → value.NumbersIn Number.IsExact)
    (listsExact : ∀ allowed, rules.allowed = some allowed →
      ∀ candidate ∈ allowed, candidate.NumbersIn Number.IsExact) :
    ¬ rules.Hides held violation := by
  intro hidden
  cases hidden with
  | below declared isKey less meets =>
      have isExact : Number.IsExact _ := exact _ rfl
      have := isExact.symm.trans meets
      omega
  | above declared isKey more meets =>
      have isExact : Number.IsExact _ := exact _ rfl
      have := isExact.symm.trans meets
      omega
  | unlisted notNull declared unlike alike =>
      obtain ⟨candidate, isAllowed, alike⟩ := alike
      refine Bool.eq_false_iff.1 (unlike candidate isAllowed) ?_
      refine Json.sameBy_imp (fun m n mExact nExact equal => ?_) candidate _
        (listsExact _ declared candidate isAllowed) (exact _ rfl) alike
      have units : m.units = n.units := by rwa [Number.same, beq_iff_eq] at equal
      rw [beq_iff_eq, ← mExact, ← nExact, units]

end Rules

namespace Field

variable {field target : Field} {held found : Option Json} {steps : List Step}

/-- Whether the numbers among the listed values are their own nearest doubles. -/
def ListsExact (field : Field) : Prop :=
  ∀ allowed, field.rules.allowed = some allowed →
    ∀ candidate ∈ allowed, candidate.NumbersIn Number.IsExact

theorem Leads.throughout {holds : Field → Prop} (leads : field.Leads held steps target found)
    (all : field.Throughout holds) : target.Throughout holds := by
  induction leads with
  | here => exact all
  | step leaves _ ih => exact ih (leaves.throughout all)

theorem Leads.numbersIn {allowed : Number → Prop} (leads : field.Leads held steps target found)
    (inside : ∀ value, held = some value → value.NumbersIn allowed) :
    ∀ value, found = some value → value.NumbersIn allowed := by
  induction leads with
  | here => exact inside
  | step leaves _ ih =>
      refine ih fun value isHeld => ?_
      have whole := inside _ rfl
      cases leaves with
      | property declared isPart =>
          exact Json.numbersIn_object.1 whole _ value (Fields.mem_of_get? isHeld)
      | item declared holds =>
          obtain rfl := Option.some.inj isHeld
          exact Json.numbersIn_array.1 whole _ (List.mem_of_getElem? holds)

end Field

namespace Schema

variable {schema : Schema} {record : Record}

/-- Whether rounding hides that a record does not conform: every rule that is broken
somewhere is hidden, and there is one. -/
def Conceals (schema : Schema) (record : Record) : Prop :=
  ¬ schema.Conforms Number.exactUnits record ∧
    ∀ steps field found violation, schema.whole.Leads (some (.object record)) steps field found →
      field.rules.Breaks Number.exactUnits found violation → field.rules.Hides found violation

theorem conforms_units_of_conforms (conforms : schema.Conforms Number.exactUnits record) :
    schema.Conforms Number.units record :=
  Field.conforms_iff.2 fun steps field found violation leads broken =>
    Field.conforms_iff.1 conforms steps field found violation leads
      (Rules.breaks_units_iff.1 broken).1

/-- The check is fooled exactly by the records whose breaches are all hidden. -/
theorem conforms_units_iff :
    schema.Conforms Number.units record ↔
      schema.Conforms Number.exactUnits record ∨ schema.Conceals record := by
  constructor
  · intro unbroken
    by_cases conforms : schema.Conforms Number.exactUnits record
    · exact .inl conforms
    · refine .inr ⟨conforms, fun steps field found violation leads broken => ?_⟩
      by_contra shown
      exact Field.conforms_iff.1 unbroken steps field found violation leads
        (Rules.breaks_units_iff.2 ⟨broken, shown⟩)
  · rintro (conforms | ⟨-, hidden⟩)
    · exact conforms_units_of_conforms conforms
    · refine Field.conforms_iff.2 fun steps field found violation leads broken => ?_
      obtain ⟨broken, shown⟩ := Rules.breaks_units_iff.1 broken
      exact shown (hidden steps field found violation leads broken)

theorem not_conceals_of_isExact (exact : (Json.object record).NumbersIn Number.IsExact)
    (listsExact : schema.whole.Throughout Field.ListsExact) : ¬ schema.Conceals record := by
  rintro ⟨unlike, hidden⟩
  refine unlike (Field.conforms_iff.2 fun steps field found violation leads broken => ?_)
  refine Rules.not_hides_of_isExact (leads.numbersIn ?_) (leads.throughout listsExact).own
    (hidden steps field found violation leads broken)
  rintro value ⟨⟩
  exact exact

/-- A record is valid exactly if it conforms to the schema, unless rounding hides every rule
that it breaks; it hides none where the numbers in the record and among the listed values
are doubles and integers of less than 53 bits.  The issues are the broken rules that are
not hidden, each with a position that steps lead to from the record, whose text renders the
steps.  A lenient check leaves out the issues of absent fields of the record itself. -/
theorem issues_tell_conformance (schema : Schema) (record : Record) :
    ((schema.issues record false = [] ↔ schema.Conforms Number.exactUnits record) ↔
        ¬ schema.Conceals record) ∧
      ((Json.object record).NumbersIn Number.IsExact →
        schema.whole.Throughout Field.ListsExact → ¬ schema.Conceals record) ∧
      (∀ n : Number, (∀ m, n = .int m → m.val.natAbs < 2 ^ 53) → n.IsExact) ∧
      (∀ place violation, ⟨place, violation⟩ ∈ schema.issues record false ↔
        ∃ field found,
          schema.whole.Leads (some (.object record)) place.path field found ∧
            field.rules.Breaks Number.exactUnits found violation ∧
            ¬ field.rules.Hides found violation) ∧
      (∀ issue ∈ schema.issues record false, ∃ name steps,
        issue.place.path = .property name :: steps ∧
          issue.place.text = name ++ String.join (steps.map Step.text)) ∧
      schema.issues record true =
        (schema.issues record false).filter fun issue => !issue.tellsAbsence record := by
  refine ⟨?_, not_conceals_of_isExact, fun _ => Number.isExact_of_small,
    fun place violation => ?_, fun issue _ => ?_, issues_lenient⟩
  · rw [issues_eq_nil_iff_conforms, conforms_units_iff]
    constructor
    · exact fun same conceals => conceals.1 (same.1 (.inr conceals))
    · exact fun shown => ⟨fun either => either.resolve_right shown, .inl⟩
  · simp only [mem_issues_iff, Rules.breaks_units_iff]
  · exact ⟨issue.place.field, issue.place.steps, rfl,
      congrArg (issue.place.field ++ ·) (Place.stepsText_eq issue.place.steps)⟩

/-- A schema of books with at most `2 ^ 53` copies, in the edition `2 ^ 53`. -/
def boundedSchema : Schema :=
  { name := "books"
    fields := [
      ("copies", .mk { types := [.number], max := some (.ofInt 9007199254740992) } none none),
      ("edition", .mk { types := [.number], allowed := some [.ofInt 9007199254740992] }
        none none)] }

/-- A count above the bound that rounds to it is valid, and so is an edition that rounds to
the listed one, although neither conforms. -/
theorem valid_by_rounding :
    (boundedSchema.issues [("copies", .ofInt 9007199254740993)] false = [] ∧
      ¬ boundedSchema.Conforms Number.exactUnits [("copies", .ofInt 9007199254740993)]) ∧
    (boundedSchema.issues [("edition", .ofInt 9007199254740993)] false = [] ∧
      ¬ boundedSchema.Conforms Number.exactUnits [("edition", .ofInt 9007199254740993)]) := by
  refine ⟨⟨?_, fun conforms => ?_⟩, ?_, fun conforms => ?_⟩
  · apply List.isEmpty_iff.1
    decide +kernel
  · have bound : (Binary64.ofInt 9007199254740992).orderKey? =
        some (9007199254740992 * (Double.unitsPerOne : Int)) := by decide +kernel
    have leads : boundedSchema.whole.Leads
        (some (.object [("copies", .ofInt 9007199254740993)])) [.property "copies"]
        (.mk { types := [.number], max := some (.ofInt 9007199254740992) } none none)
        (some (.ofInt 9007199254740993)) :=
      .step (.property rfl List.mem_cons_self) .here
    refine Field.conforms_iff.1 conforms _ _ _ _ leads (.above rfl bound ?_)
    decide +kernel
  · apply List.isEmpty_iff.1
    decide +kernel
  · have leads : boundedSchema.whole.Leads
        (some (.object [("edition", .ofInt 9007199254740993)])) [.property "edition"]
        (.mk { types := [.number], allowed := some [.ofInt 9007199254740992] } none none)
        (some (.ofInt 9007199254740993)) :=
      .step (.property rfl (List.mem_cons_of_mem _ List.mem_cons_self)) .here
    refine Field.conforms_iff.1 conforms _ _ _ _ leads (.unlisted nofun rfl ?_)
    decide +kernel

end Schema

end DocStore
