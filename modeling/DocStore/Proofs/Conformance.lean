import DocStore.Proofs.FieldPositions
import DocStore.Proofs.NearestDouble
import DocStore.Validation.Check
import Mathlib.Data.List.Basic

/-!
# Conformance

What it means for a record to conform to a schema, read off the declarations alone, and
that the check of records finds it out: every issue names a position and a rule that
what stands there breaks, and every broken rule is named, for bounds and listed values
that are compared by a measure of numbers.  The check takes them by their nearest doubles.
-/

namespace DocStore

namespace Number

/-- The exact value, as a multiple of the least positive double. -/
def exactUnits : Number → Int
  | .int n => n.val * (Double.unitsPerOne : Int)
  | .double x => x.units

/-- The value of the nearest double, as such a multiple. -/
def units (n : Number) : Int :=
  n.toDouble.units

end Number

theorem Binary64.below_iff {x y : Binary64} :
    x.below y = true ↔
      ∃ less more, x.orderKey? = some less ∧ y.orderKey? = some more ∧ less < more := by
  cases first : x.orderKey? <;> cases second : y.orderKey? <;>
    simp [below, compare?, first, second, Int.compare_eq_lt]

/-- The text of a step: a dot before a property, brackets around a position. -/
def Step.text : Step → String
  | .property name => "." ++ name
  | .item index => s!"[{index}]"

theorem Place.stepsText_eq (steps : List Step) :
    stepsText steps = String.join (steps.map Step.text) := by
  induction steps with
  | nil => rfl
  | cons step steps ih =>
      rw [List.map_cons, String.join_cons, ← ih]
      cases step <;> rfl

/-- The place at the end of some steps further down. -/
def Place.along (place : Place) (steps : List Step) : Place :=
  { place with steps := place.steps ++ steps }

theorem Place.along_down (place : Place) (step : Step) (steps : List Step) :
    (place.down step).along steps = place.along (step :: steps) := by
  simp [along, down]

namespace Rules

variable {measure : Number → Int} {rules : Rules} {value : Json} {violation : Violation}

/-- Whether a value other than `null` has an accepted kind, keeps to the bounds of its
number or of its length, has the pattern and the format, is listed, and passes the custom
check.  A bound that is not a number excludes nothing. -/
structure Respected (measure : Number → Int) (rules : Rules) (value : Json) : Prop where
  kind : ∃ tag ∈ rules.types, tag.accepts value = true
  atLeast : ∀ n bound key, value = .number n → rules.min = some bound →
    bound.orderKey? = some key → key ≤ measure n
  atMost : ∀ n bound key, value = .number n → rules.max = some bound →
    bound.orderKey? = some key → measure n ≤ key
  longEnough : ∀ text bound, value = .string text → rules.minLength = some bound →
    bound.toNat ≤ text.length
  shortEnough : ∀ text bound, value = .string text → rules.maxLength = some bound →
    text.length ≤ bound.toNat
  matching : ∀ text pattern, value = .string text → rules.pattern = some pattern →
    pattern.occursIn text = true
  wellFormed : ∀ text format, value = .string text → rules.format = some format →
    format.admits text = true
  listed : ∀ allowed, rules.allowed = some allowed →
    ∃ candidate ∈ allowed, candidate.sameBy (fun m n => measure m == measure n) value = true
  passing : ∀ validator, rules.validator = some validator → validator.check value = .passes

/-- How what stands at a position, or that nothing does, breaks the rules for it. -/
inductive Breaks (measure : Number → Int) (rules : Rules) : Option Json → Violation → Prop
  | absent (required : rules.required = true) : Breaks measure rules none .required
  | null (required : rules.required = true) : Breaks measure rules (some .null) .required
  | kind {value : Json} (notNull : value ≠ .null)
      (refused : ∀ tag ∈ rules.types, tag.accepts value = false) :
      Breaks measure rules (some value) (.wrongType rules.types value)
  | below {n : Number} {bound : Binary64} {key : Int} (declared : rules.min = some bound)
      (isKey : bound.orderKey? = some key) (less : measure n < key) :
      Breaks measure rules (some (.number n)) (.belowMinimum bound)
  | above {n : Number} {bound : Binary64} {key : Int} (declared : rules.max = some bound)
      (isKey : bound.orderKey? = some key) (more : key < measure n) :
      Breaks measure rules (some (.number n)) (.aboveMaximum bound)
  | short {text : String} {bound : UInt64} (declared : rules.minLength = some bound)
      (less : text.length < bound.toNat) :
      Breaks measure rules (some (.string text)) (.tooShort bound)
  | long {text : String} {bound : UInt64} (declared : rules.maxLength = some bound)
      (more : bound.toNat < text.length) :
      Breaks measure rules (some (.string text)) (.tooLong bound)
  | mismatch {text : String} {pattern : Pattern} (declared : rules.pattern = some pattern)
      (unlike : pattern.occursIn text = false) :
      Breaks measure rules (some (.string text)) (.patternMismatch pattern.source)
  | malformed {text : String} {format : TextFormat} (declared : rules.format = some format)
      (refused : format.admits text = false) :
      Breaks measure rules (some (.string text)) (.malformed format)
  | unlisted {value : Json} {allowed : List Json} (notNull : value ≠ .null)
      (declared : rules.allowed = some allowed)
      (unlike : ∀ candidate ∈ allowed,
        candidate.sameBy (fun m n => measure m == measure n) value = false) :
      Breaks measure rules (some value) (.notListed allowed)
  | custom {value : Json} {validator : Validator} {message : Option String}
      (notNull : value ≠ .null) (declared : rules.validator = some validator)
      (fails : validator.check value = .fails message) :
      Breaks measure rules (some value) (.custom message)

theorem respected_iff (notNull : value ≠ .null) :
    rules.Respected measure value ↔
      ∀ violation, ¬ rules.Breaks measure (some value) violation := by
  constructor
  · intro respected violation broken
    cases broken with
    | null => exact notNull rfl
    | kind _ refused =>
        obtain ⟨tag, isType, accepted⟩ := respected.kind
        simp [refused tag isType] at accepted
    | below declared isKey less =>
        have := respected.atLeast _ _ _ rfl declared isKey
        omega
    | above declared isKey more =>
        have := respected.atMost _ _ _ rfl declared isKey
        omega
    | short declared less =>
        have := respected.longEnough _ _ rfl declared
        omega
    | long declared more =>
        have := respected.shortEnough _ _ rfl declared
        omega
    | mismatch declared unlike =>
        simp [respected.matching _ _ rfl declared] at unlike
    | malformed declared refused =>
        simp [respected.wellFormed _ _ rfl declared] at refused
    | unlisted _ declared unlike =>
        obtain ⟨candidate, isAllowed, same⟩ := respected.listed _ declared
        simp [unlike candidate isAllowed] at same
    | custom _ declared fails =>
        simp [respected.passing _ declared] at fails
  · intro unbroken
    constructor
    · by_contra none
      push Not at none
      exact unbroken _ (.kind notNull fun tag isType => by simpa using none tag isType)
    · rintro n bound key rfl declared isKey
      by_contra less
      exact unbroken _ (.below declared isKey (not_le.1 less))
    · rintro n bound key rfl declared isKey
      by_contra more
      exact unbroken _ (.above declared isKey (not_le.1 more))
    · rintro text bound rfl declared
      by_contra less
      exact unbroken _ (.short declared (not_le.1 less))
    · rintro text bound rfl declared
      by_contra more
      exact unbroken _ (.long declared (not_le.1 more))
    · rintro text pattern rfl declared
      by_contra unlike
      exact unbroken _ (.mismatch declared (by simpa using unlike))
    · rintro text format rfl declared
      by_contra refused
      exact unbroken _ (.malformed declared (by simpa using refused))
    · intro allowed declared
      by_contra none
      push Not at none
      exact unbroken _ (.unlisted notNull declared fun candidate isAllowed => by
        simpa using none candidate isAllowed)
    · intro validator declared
      cases checked : validator.check value with
      | passes => rfl
      | fails message => exact absurd (.custom notNull declared checked) (unbroken _)

theorem mem_violationIf {bad : Bool} {named : Violation} :
    violation ∈ violationIf bad named ↔ bad = true ∧ violation = named := by
  cases bad <;> simp [violationIf]

theorem mem_violationOf {α : Type} {bound : Option α} {isBad : α → Bool} {name : α → Violation} :
    violation ∈ violationOf bound isBad name ↔
      ∃ declared, bound = some declared ∧ isBad declared = true ∧ violation = name declared := by
  cases bound <;> simp [violationOf, mem_violationIf]

theorem mem_numberViolations {n : Number} :
    violation ∈ rules.numberViolations n ↔
      (∃ bound, rules.min = some bound ∧ (∃ key, bound.orderKey? = some key ∧ n.units < key) ∧
        violation = .belowMinimum bound) ∨
      (∃ bound, rules.max = some bound ∧ (∃ key, bound.orderKey? = some key ∧ key < n.units) ∧
        violation = .aboveMaximum bound) := by
  have ownKey : n.toBinary64.orderKey? = some n.units := rfl
  simp only [numberViolations, List.mem_append, mem_violationOf, Binary64.below_iff, ownKey,
    Option.some.injEq, exists_eq_left', exists_and_left]

theorem mem_textViolations {text : String} :
    violation ∈ rules.textViolations text ↔
      (∃ bound, rules.minLength = some bound ∧ text.length < bound.toNat ∧
        violation = .tooShort bound) ∨
      (∃ bound, rules.maxLength = some bound ∧ bound.toNat < text.length ∧
        violation = .tooLong bound) ∨
      (∃ pattern, rules.pattern = some pattern ∧ pattern.occursIn text = false ∧
        violation = .patternMismatch pattern.source) ∨
      (∃ format, rules.format = some format ∧ format.admits text = false ∧
        violation = .malformed format) := by
  simp [textViolations, mem_violationOf]

theorem mem_customViolations :
    violation ∈ rules.customViolations value ↔
      ∃ validator message, rules.validator = some validator ∧
        validator.check value = .fails message ∧ violation = .custom message := by
  unfold customViolations
  cases rules.validator with
  | none => simp
  | some validator => cases checked : validator.check value <;> simp [checked]

/-- What the check has against a value other than `null` are the rules that it breaks, when
numbers are taken by their nearest doubles. -/
theorem mem_violations_iff (notNull : value ≠ .null) :
    violation ∈ rules.violations value ∨ violation ∈ rules.customViolations value ↔
      rules.Breaks Number.units (some value) violation := by
  simp only [violations, List.mem_append, mem_violationIf, mem_violationOf, mem_customViolations]
  constructor
  · rintro (((⟨refused, rfl⟩ | own) | ⟨allowed, declared, unlike, rfl⟩) |
      ⟨validator, message, declared, fails, rfl⟩)
    · exact .kind notNull (by simpa using refused)
    · cases value with
      | number n =>
          rcases mem_numberViolations.1 own with
            ⟨bound, declared, ⟨key, isKey, less⟩, rfl⟩ |
            ⟨bound, declared, ⟨key, isKey, more⟩, rfl⟩
          · exact .below declared isKey less
          · exact .above declared isKey more
      | string text =>
          rcases mem_textViolations.1 own with
            ⟨bound, declared, less, rfl⟩ | ⟨bound, declared, more, rfl⟩ |
            ⟨pattern, declared, unlike, rfl⟩ | ⟨format, declared, refused, rfl⟩
          · exact .short declared less
          · exact .long declared more
          · exact .mismatch declared unlike
          · exact .malformed declared refused
      | null | bool | array | object => cases own
    · have unlike : ∀ candidate ∈ allowed, candidate.same value = false := by simpa using unlike
      exact .unlisted notNull declared unlike
    · exact .custom notNull declared fails
  · intro broken
    cases broken with
    | null => exact absurd rfl notNull
    | kind _ refused => exact .inl (.inl (.inl ⟨by simpa using refused, rfl⟩))
    | below declared isKey less =>
        exact .inl (.inl (.inr (mem_numberViolations.2 (.inl
          ⟨_, declared, ⟨_, isKey, less⟩, rfl⟩))))
    | above declared isKey more =>
        exact .inl (.inl (.inr (mem_numberViolations.2 (.inr
          ⟨_, declared, ⟨_, isKey, more⟩, rfl⟩))))
    | short declared less =>
        exact .inl (.inl (.inr (mem_textViolations.2 (.inl ⟨_, declared, less, rfl⟩))))
    | long declared more =>
        exact .inl (.inl (.inr (mem_textViolations.2 (.inr (.inl ⟨_, declared, more, rfl⟩)))))
    | mismatch declared unlike =>
        exact .inl (.inl (.inr (mem_textViolations.2
          (.inr (.inr (.inl ⟨_, declared, unlike, rfl⟩))))))
    | malformed declared refused =>
        exact .inl (.inl (.inr (mem_textViolations.2
          (.inr (.inr (.inr ⟨_, declared, refused, rfl⟩))))))
    | @unlisted _ allowed _ declared unlike =>
        have unlike : ∀ candidate ∈ allowed, candidate.same value = false := unlike
        exact .inl (.inr ⟨_, declared, by simpa using unlike, rfl⟩)
    | custom _ declared fails => exact .inr ⟨_, _, declared, fails, rfl⟩

end Rules

namespace Field

variable {measure : Number → Int} {field : Field} {value : Json} {held : Option Json}
  {place : Place} {issue : Issue}

/-- Whether what stands in a field conforms to it: an absent or null value must not be
required, and any other one must respect the rules and conform in its parts. -/
inductive Conforms (measure : Number → Int) : Field → Option Json → Prop
  | absent {field : Field} (optional : field.rules.required = false) :
      Conforms measure field none
  | null {field : Field} (optional : field.rules.required = false) :
      Conforms measure field (some .null)
  | value {field : Field} {value : Json} (notNull : value ≠ .null)
      (respected : field.rules.Respected measure value)
      (parts : ∀ step part held, field.StepsTo value step part held →
        Conforms measure part held) :
      Conforms measure field (some value)

/-- What stands in a field conforms to it exactly if no rule is broken at any position
that steps lead to. -/
theorem conforms_iff :
    field.Conforms measure held ↔
      ∀ steps target found violation, field.Leads held steps target found →
        ¬ target.rules.Breaks measure found violation := by
  constructor
  · intro conforms steps target found violation leads broken
    induction leads with
    | here =>
        cases conforms with
        | absent optional =>
            cases broken with
            | absent required => simp [optional] at required
        | null optional =>
            cases broken with
            | null required => simp [optional] at required
            | kind notNull | unlisted notNull | custom notNull => exact notNull rfl
        | value notNull respected => exact (Rules.respected_iff notNull).1 respected _ broken
    | step leaves _ ih =>
        cases conforms with
        | null => cases leaves
        | value _ _ parts => exact ih (parts _ _ _ leaves) broken
  · induction field using steps_induction generalizing held with
    | step field ih =>
        intro unbroken
        cases held with
        | none =>
            refine .absent (by_contra fun required => ?_)
            exact unbroken [] field none _ .here (.absent (by simpa using required))
        | some value =>
            by_cases isNull : value = .null
            · subst isNull
              refine .null (by_contra fun required => ?_)
              exact unbroken [] field _ _ .here (.null (by simpa using required))
            · refine .value isNull ?_ ?_
              · exact (Rules.respected_iff isNull).2 fun violation broken =>
                  unbroken [] field _ violation .here broken
              · intro step part next leaves
                refine ih value step part next leaves ?_
                intro steps target found violation leads
                exact unbroken (step :: steps) target found violation (.step leaves leads)

/-- The issues of what stands in a field at a place: one if it is absent and required. -/
def issuesAt (place : Place) (field : Field) : Option Json → List Issue
  | some value => field.issues place value
  | none => if field.rules.required then [⟨place, .required⟩] else []

/-- The issues of the parts of a value. -/
def partIssues (place : Place) (field : Field) (value : Json) : List Issue :=
  match value, field.properties, field.items with
  | .object object, some fields, _ => propertyIssues place fields object
  | .array elements, _, some item =>
    elements.zipIdx.flatMap fun (element, k) => issues (place.down (.item k)) item element
  | _, _, _ => []

theorem mem_required {required : Bool} {violation : Violation} {there : Place} :
    (⟨there, violation⟩ : Issue) ∈ (if required then [⟨place, .required⟩] else []) ↔
      required = true ∧ there = place ∧ violation = .required := by
  cases required <;> simp

theorem propertyIssues_eq (fields : List (String × Field)) (object : Record) :
    propertyIssues place fields object = fields.flatMap fun entry =>
      issuesAt (place.down (.property entry.1)) entry.2 (Fields.get? entry.1 object) := by
  induction fields with
  | nil => rfl
  | cons entry rest ih =>
      rw [propertyIssues, ih, List.flatMap_cons]
      cases Fields.get? entry.1 object <;> rfl

theorem mem_partIssues :
    issue ∈ field.partIssues place value ↔
      ∃ step part held, field.StepsTo value step part held ∧
        issue ∈ part.issuesAt (place.down step) held := by
  constructor
  · intro member
    unfold partIssues at member
    split at member
    · rename_i object fields declared
      rw [propertyIssues_eq] at member
      obtain ⟨⟨name, part⟩, isPart, inPart⟩ := List.mem_flatMap.1 member
      exact ⟨_, part, _, .property declared isPart, inPart⟩
    · rename_i elements item declared
      obtain ⟨⟨element, k⟩, isElement, inElement⟩ := List.mem_flatMap.1 member
      exact ⟨_, item, _, .item declared (List.mem_zipIdx_iff_getElem?.1 isElement), inElement⟩
    · cases member
  · rintro ⟨step, part, held, leaves, member⟩
    cases leaves with
    | property declared isPart =>
        simp only [partIssues, declared, propertyIssues_eq]
        exact List.mem_flatMap.2 ⟨_, isPart, member⟩
    | @item _ _ index element declared holds =>
        simp only [partIssues, declared]
        exact List.mem_flatMap.2
          ⟨(element, index), List.mem_zipIdx_iff_getElem?.2 holds, member⟩

theorem issues_of_ne_null (notNull : value ≠ .null) :
    field.issues place value =
      (field.rules.violations value).map (⟨place, ·⟩) ++ field.partIssues place value ++
        (field.rules.customViolations value).map (⟨place, ·⟩) := by
  have isValue : value.isNull = false := by
    cases value with
    | null => exact absurd rfl notNull
    | bool | number | string | array | object => rfl
  obtain ⟨rules, properties, items⟩ := field
  rw [issues.eq_def]
  simp only [isValue, Bool.false_eq_true, if_false]
  rfl

theorem issues_null :
    field.issues place .null = if field.rules.required then [⟨place, .required⟩] else [] := by
  obtain ⟨rules, properties, items⟩ := field
  rw [issues.eq_def]
  rfl

theorem mem_issuesAt :
    issue ∈ field.issuesAt place held ↔
      (issue.place = place ∧ field.rules.Breaks Number.units held issue.violation) ∨
        ∃ value step part next, held = some value ∧ field.StepsTo value step part next ∧
          issue ∈ part.issuesAt (place.down step) next := by
  obtain ⟨there, violation⟩ := issue
  rcases held with _ | value
  · simp only [issuesAt, mem_required]
    constructor
    · rintro ⟨required, rfl, rfl⟩
      exact .inl ⟨rfl, .absent required⟩
    · rintro (⟨rfl, broken⟩ | ⟨_, _, _, _, isHeld, -⟩)
      · cases broken with
        | absent required => exact ⟨required, rfl, rfl⟩
      · cases isHeld
  · by_cases isNull : value = .null
    · subst isNull
      simp only [issuesAt, issues_null, mem_required]
      constructor
      · rintro ⟨required, rfl, rfl⟩
        exact .inl ⟨rfl, .null required⟩
      · rintro (⟨rfl, broken⟩ | ⟨_, _, _, _, isHeld, leaves, -⟩)
        · cases broken with
          | null required => exact ⟨required, rfl, rfl⟩
          | kind notNull | unlisted notNull | custom notNull => exact absurd rfl notNull
        · cases isHeld
          cases leaves
    · have own : (violation ∈ field.rules.violations value ∨
          violation ∈ field.rules.customViolations value) ↔
          field.rules.Breaks Number.units (some value) violation :=
        Rules.mem_violations_iff isNull
      rw [← own, issuesAt, issues_of_ne_null isNull, List.mem_append, List.mem_append,
        mem_partIssues, List.mem_map, List.mem_map]
      simp only [Issue.mk.injEq, Option.some.injEq]
      constructor
      · rintro ((⟨_, found, rfl, rfl⟩ | inPart) | ⟨_, found, rfl, rfl⟩)
        · exact .inl ⟨rfl, .inl found⟩
        · exact .inr ⟨value, by simpa using inPart⟩
        · exact .inl ⟨rfl, .inr found⟩
      · rintro (⟨rfl, found | found⟩ | ⟨_, step, part, next, rfl, leaves, inPart⟩)
        · exact .inl (.inl ⟨_, found, rfl, rfl⟩)
        · exact .inr ⟨_, found, rfl, rfl⟩
        · exact .inl (.inr ⟨step, part, next, leaves, inPart⟩)

/-- An issue of what stands in a field names a position that steps lead to and a rule that
is broken there, and every broken rule is named. -/
theorem mem_issuesAt_iff :
    issue ∈ field.issuesAt place held ↔
      ∃ steps target found, field.Leads held steps target found ∧
        issue.place = place.along steps ∧
        target.rules.Breaks Number.units found issue.violation := by
  induction field using steps_induction generalizing place held with
  | step field ih =>
      rw [mem_issuesAt]
      constructor
      · rintro (⟨isPlace, broken⟩ | ⟨value, step, part, next, rfl, leaves, member⟩)
        · exact ⟨[], field, held, .here, by simpa [Place.along] using isPlace, broken⟩
        · obtain ⟨steps, target, found, leads, isPlace, broken⟩ :=
            (ih value step part next leaves).1 member
          rw [Place.along_down] at isPlace
          exact ⟨step :: steps, target, found, .step leaves leads, isPlace, broken⟩
      · rintro ⟨steps, target, found, leads, isPlace, broken⟩
        cases leads with
        | here => exact .inl ⟨by simpa [Place.along] using isPlace, broken⟩
        | step leaves rest =>
            refine .inr ⟨_, _, _, _, rfl, leaves, (ih _ _ _ _ leaves).2 ?_⟩
            exact ⟨_, target, found, rest, by rw [isPlace, Place.along_down], broken⟩

end Field

/-- Whether an issue is that a record lacks a field of its own. -/
def Issue.tellsAbsence (record : Record) : Issue → Bool
  | ⟨⟨field, []⟩, .required⟩ => !Fields.has field record
  | _ => false

theorem Issue.tellsAbsence_iff {record : Record} {issue : Issue} :
    issue.tellsAbsence record = true ↔
      ∃ field, issue = ⟨⟨field, []⟩, .required⟩ ∧ Fields.has field record = false := by
  obtain ⟨⟨field, steps⟩, violation⟩ := issue
  cases steps <;> cases violation <;> simp [tellsAbsence]

namespace Schema

variable {schema : Schema} {record : Record}

/-- Whether a record conforms to a schema. -/
def Conforms (measure : Number → Int) (schema : Schema) (record : Record) : Prop :=
  schema.whole.Conforms measure (some (.object record))

theorem fieldIssues_eq (name : String) (field : Field) :
    fieldIssues false record name field =
      field.issuesAt ⟨name, []⟩ (Fields.get? name record) := by
  unfold fieldIssues Field.issuesAt
  cases Fields.get? name record <;> simp

theorem mem_issues_iff {issue : Issue} :
    issue ∈ schema.issues record false ↔
      ∃ target found,
        schema.whole.Leads (some (.object record)) issue.place.path target found ∧
          target.rules.Breaks Number.units found issue.violation := by
  simp only [issues, List.mem_flatMap, fieldIssues_eq, Field.mem_issuesAt_iff]
  constructor
  · rintro ⟨⟨name, field⟩, isField, steps, target, found, leads, isPlace, broken⟩
    refine ⟨target, found, ?_, broken⟩
    have path : issue.place.path = .property name :: steps := by rw [isPlace]; rfl
    rw [path]
    exact .step (.property rfl isField) leads
  · rintro ⟨target, found, leads, broken⟩
    obtain ⟨⟨name, steps⟩, violation⟩ := issue
    cases leads with
    | step leaves rest =>
        cases leaves with
        | property declared isField =>
            cases declared
            exact ⟨_, isField, steps, target, found, rest, rfl, broken⟩

theorem whole_unbroken {measure : Number → Int} {violation : Violation} :
    ¬ schema.whole.rules.Breaks measure (some (.object record)) violation := by
  rintro (_ | _ | ⟨_, refused⟩ | _ | _ | _ | _ | _ | _ | ⟨_, declared⟩ | ⟨_, declared⟩)
  · simpa [TypeTag.accepts] using refused .object (by simp [whole, Field.rules])
  · cases declared
  · cases declared

theorem issues_eq_nil_iff_conforms :
    schema.issues record false = [] ↔ schema.Conforms Number.units record := by
  rw [Conforms, Field.conforms_iff, List.eq_nil_iff_forall_not_mem]
  constructor
  · intro none steps target found violation leads broken
    cases steps with
    | nil =>
        cases leads
        exact whole_unbroken broken
    | cons first steps =>
        cases leads with
        | step leaves rest =>
            cases leaves with
            | @property _ _ name _ declared isField =>
                have leads : schema.whole.Leads (some (.object record))
                    (Place.path ⟨name, steps⟩) target found :=
                  .step (.property declared isField) rest
                exact none ⟨⟨name, steps⟩, violation⟩
                  (mem_issues_iff.2 ⟨target, found, leads, broken⟩)
  · intro unbroken issue member
    obtain ⟨target, found, leads, broken⟩ := mem_issues_iff.1 member
    exact unbroken _ target found _ leads broken

/-- A lenient check leaves out the issues that tell of absent fields and nothing else. -/
theorem issues_lenient :
    schema.issues record true =
      (schema.issues record false).filter fun issue => !issue.tellsAbsence record := by
  rw [issues, issues, List.filter_flatMap]
  refine List.flatMap_congr fun entry _ => ?_
  obtain ⟨name, field⟩ := entry
  simp only [fieldIssues]
  cases found : Fields.get? name record with
  | none =>
      cases field.rules.required <;> simp [Issue.tellsAbsence, Fields.has, found]
  | some value =>
      refine (List.filter_eq_self.2 fun issue member => ?_).symm
      obtain ⟨steps, _, _, _, isPlace, _⟩ :=
        Field.mem_issuesAt_iff.1 (show issue ∈ field.issuesAt ⟨name, []⟩ (some value) from member)
      obtain ⟨place, violation⟩ := issue
      obtain rfl : place = ⟨name, steps⟩ := isPlace
      cases steps <;> cases violation <;> simp [Issue.tellsAbsence, Fields.has, found]

end Schema

end DocStore
