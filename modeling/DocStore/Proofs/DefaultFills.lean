import DocStore.Proofs.PreparedRecords
import Mathlib.Data.List.Nodup

/-!
# Generated values in prepared records

Preparation goes through the objects of a record and through the objects among the items
of its arrays, in which a new record may omit positions that have a default.  Which
positions it reaches depends on what generators make on the way, so the positions are told
by `Field.Reaches` for given results, the fills.  The generators that run while a record is
prepared then run for the omitted positions with a generated default, once for each.
-/

namespace DocStore

/-- A value that a generator makes for a position, told by the steps to it. -/
structure Fill where
  steps : List Step
  generator : Generator
  value : Json

namespace Fill

variable {step other : Step} {steps : List Step} {generator : Generator} {value : Json}
  {fill : Fill} {fills rest : List Fill}

/-- The fill as it is told from one step further up. -/
def under (step : Step) (fill : Fill) : Fill :=
  { fill with steps := step :: fill.steps }

/-- The fill as it is told from one step further down, if it lies there. -/
def below? (step : Step) (fill : Fill) : Option Fill :=
  match fill.steps with
  | first :: steps => if first = step then some { fill with steps } else none
  | [] => none

/-- The fills that lie below a step, told from there. -/
def below (step : Step) (fills : List Fill) : List Fill :=
  fills.filterMap (below? step)

theorem below?_eq_some {inside : Fill} :
    fill.below? step = some inside ↔ fill = inside.under step := by
  obtain ⟨_ | ⟨first, steps⟩, generator, value⟩ := fill
  · simp [below?, under]
  · obtain ⟨otherSteps, otherGenerator, otherValue⟩ := inside
    simp only [below?, under]
    split_ifs with same
    · simp [same]
    · simp [same]

theorem mem_below : fill ∈ below step fills ↔ fill.under step ∈ fills := by
  simp [below, below?_eq_some]

theorem below_append_self (apart : ∀ fill ∈ rest, ∀ steps, fill.steps ≠ step :: steps) :
    below step (fills.map (under step) ++ rest) = fills := by
  have own : below step (fills.map (under step)) = fills := by
    rw [below, List.filterMap_map]
    have inverse : below? step ∘ under step = some :=
      funext fun fill => below?_eq_some.2 rfl
    rw [inverse, List.filterMap_some]
  have others : below step rest = [] := by
    refine List.filterMap_eq_nil_iff.2 fun fill member => ?_
    cases found : fill.below? step with
    | none => rfl
    | some inside =>
        have isUnder := below?_eq_some.1 found
        exact absurd (congrArg steps isUnder) (apart fill member inside.steps)
  rw [below, List.filterMap_append, ← below, ← below, own, others, List.append_nil]

theorem below_append_of_ne (different : step ≠ other) :
    below other (fills.map (under step) ++ rest) = below other rest := by
  have own : below other (fills.map (under step)) = [] := by
    refine List.filterMap_eq_nil_iff.2 fun fill member => ?_
    obtain ⟨inside, -, rfl⟩ := List.mem_map.1 member
    simp [below?, under, different]
  rw [below, List.filterMap_append, ← below, ← below, own, List.nil_append]

theorem nodup_below (nodup : (fills.map Fill.steps).Nodup) (step : Step) :
    ((below step fills).map Fill.steps).Nodup := by
  refine List.Nodup.map_on ?_ (List.Nodup.filterMap ?_ nodup.of_map)
  · intro first inFirst second inSecond same
    have opened : (first.under step).steps = (second.under step).steps :=
      congrArg (List.cons step) same
    have equal := List.inj_on_of_nodup_map nodup (mem_below.1 inFirst) (mem_below.1 inSecond) opened
    exact Option.some.inj ((below?_eq_some.2 rfl).symm.trans (below?_eq_some.2 equal))
  · intro first second inside isFirst isSecond
    exact (below?_eq_some.1 isFirst).trans (below?_eq_some.1 isSecond).symm

theorem nodup_append (nodup : (fills.map Fill.steps).Nodup)
    (restNodup : (rest.map Fill.steps).Nodup)
    (apart : ∀ fill ∈ rest, ∀ steps, fill.steps ≠ step :: steps) :
    ((fills.map (under step) ++ rest).map Fill.steps).Nodup := by
  rw [List.map_append]
  refine List.Nodup.append ?_ restNodup ?_
  · rw [List.map_map]
    have opened : Fill.steps ∘ under step = fun fill => step :: fill.steps := rfl
    rw [opened]
    have := nodup.map (f := fun steps => step :: steps) fun _ _ same => (List.cons.inj same).2
    rwa [List.map_map] at this
  · intro steps inFirst inRest
    obtain ⟨fill, fillInRest, rfl⟩ := List.mem_map.1 inRest
    obtain ⟨_, inMap, same⟩ := List.mem_map.1 inFirst
    obtain ⟨inside, -, rfl⟩ := List.mem_map.1 inMap
    exact apart fill fillInRest inside.steps same.symm

/-- Whether fills lie at the positions with some generators, once each. -/
structure Lists (fills : List Fill) (omitted : List Step → Generator → Prop) : Prop where
  nodup : (fills.map Fill.steps).Nodup
  mem_iff : ∀ steps generator,
    (∃ value, ⟨steps, generator, value⟩ ∈ fills) ↔ omitted steps generator

end Fill

/-- The generators of fills run one after the other, and each makes the value of its fill. -/
inductive Supply.Runs : Supply → List Fill → Supply → Prop
  | none {supply : Supply} : Runs supply [] supply
  | next {supply later : Supply} {fill : Fill} {fills : List Fill}
      (makes : fill.value = (draw fill.generator supply).1)
      (ran : Runs (draw fill.generator supply).2 fills later) :
      Runs supply (fill :: fills) later

namespace Supply

variable {supply middle later : Supply} {fills rest : List Fill}

theorem Runs.append (ran : supply.Runs fills middle) (restRan : middle.Runs rest later) :
    supply.Runs (fills ++ rest) later := by
  induction ran with
  | none => exact restRan
  | next makes _ ih => exact .next makes (ih restRan)

theorem Runs.map (ran : supply.Runs fills later) (retold : Fill → Fill)
    (same : ∀ fill, (retold fill).generator = fill.generator ∧ (retold fill).value = fill.value) :
    supply.Runs (fills.map retold) later := by
  induction ran with
  | none => exact .none
  | @next supply later fill fills makes _ ih =>
      refine .next ?_ ?_
      · rw [(same fill).1, (same fill).2]
        exact makes
      · rw [(same fill).1]
        exact ih

/-- The log of draws has one entry for each fill, the last one first. -/
theorem Runs.later_eq (ran : supply.Runs fills later) :
    later = { supply with
      drawn := (fills.map fun fill => drawOf fill.generator).reverse ++ supply.drawn } := by
  induction ran with
  | none => rfl
  | next makes _ ih =>
      rw [ih]
      simp [draw]

end Supply

/-- The values that the preparation of a field may start from: the one held, or the default
if none is held and the record is new; of a generated one, what a fill says. -/
inductive Rules.Enters (rules : Rules) (isNew : Bool) (fills : List Fill) :
    Option Json → Json → Prop
  | held {value : Json} : Enters rules isNew fills (some value) value
  | literal {value : Json} (new : isNew = true) (declared : rules.default = some (.literal value)) :
      Enters rules isNew fills none value
  | generated {generator : Generator} {value : Json} (new : isNew = true)
      (declared : rules.default = some (.generated generator))
      (made : ⟨[], generator, value⟩ ∈ fills) : Enters rules isNew fills none value

namespace Field

/-- The positions that preparation reaches from what stands in a field: the field itself, the
properties of its value once that is transformed, and the properties of objects among the
items of an array.  The items themselves are left out; none of them is ever omitted. -/
inductive Reaches (isNew : Bool) :
    List Fill → Field → Option Json → List Step → Field → Option Json → Prop
  | here {fills : List Fill} {field : Field} {held : Option Json} :
      Reaches isNew fills field held [] field held
  | property {fills : List Fill} {field part target : Field} {held partHeld found : Option Json}
      {value : Json} {name : String} {steps : List Step}
      (enters : field.rules.Enters isNew fills held value)
      (leaves : field.StepsTo (field.rules.transformed value) (.property name) part partHeld)
      (rest : Reaches isNew (Fill.below (.property name) fills) part partHeld steps target found) :
      Reaches isNew fills field held (.property name :: steps) target found
  | item {fills : List Fill} {field item part target : Field} {held partHeld found : Option Json}
      {value element : Json} {index : Nat} {name : String} {steps : List Step}
      (enters : field.rules.Enters isNew fills held value)
      (leaves : field.StepsTo (field.rules.transformed value) (.item index) item (some element))
      (intoItem : item.StepsTo element (.property name) part partHeld)
      (rest : Reaches isNew (Fill.below (.property name) (Fill.below (.item index) fills)) part
        partHeld steps target found) :
      Reaches isNew fills field held (.item index :: .property name :: steps) target found

/-- Whether a new record omits a position that preparation reaches and for which a generated
default is declared. -/
def Omits (isNew : Bool) (fills : List Fill) (field : Field) (held : Option Json)
    (steps : List Step) (generator : Generator) : Prop :=
  isNew = true ∧ ∃ target, field.Reaches isNew fills held steps target none ∧
    target.rules.default = some (.generated generator)

/-- The same of the properties of a value. -/
def OmitsProperties (isNew : Bool) (fills : List Fill) (field : Field) (value : Json)
    (steps : List Step) (generator : Generator) : Prop :=
  ∃ name part held rest, steps = .property name :: rest ∧
    field.StepsTo value (.property name) part held ∧
    part.Omits isNew (Fill.below (.property name) fills) held rest generator

/-- The same of the properties of a value and of its items. -/
def OmitsBelow (isNew : Bool) (fills : List Fill) (field : Field) (value : Json)
    (steps : List Step) (generator : Generator) : Prop :=
  field.OmitsProperties isNew fills value steps generator ∨
    ∃ index item element rest, steps = .item index :: rest ∧
      field.StepsTo value (.item index) item (some element) ∧
      item.OmitsProperties isNew (Fill.below (.item index) fills) element rest generator

/-- A position is omitted if the field itself is, or if it lies below the value that the
preparation of the field starts from. -/
theorem omits_iff {isNew : Bool} {fills : List Fill} {field : Field} {held : Option Json}
    {steps : List Step} {generator : Generator} :
    field.Omits isNew fills held steps generator ↔
      (isNew = true ∧ steps = [] ∧ held = none ∧
        field.rules.default = some (.generated generator)) ∨
      ∃ value, field.rules.Enters isNew fills held value ∧
        field.OmitsBelow isNew fills (field.rules.transformed value) steps generator := by
  constructor
  · rintro ⟨new, target, reaches, generated⟩
    cases reaches with
    | here => exact .inl ⟨new, rfl, rfl, generated⟩
    | property enters leaves rest =>
        exact .inr ⟨_, enters, .inl ⟨_, _, _, _, rfl, leaves, new, target, rest, generated⟩⟩
    | item enters leaves intoItem rest =>
        exact .inr ⟨_, enters, .inr ⟨_, _, _, _, rfl, leaves,
          ⟨_, _, _, _, rfl, intoItem, new, target, rest, generated⟩⟩⟩
  · rintro (⟨new, rfl, rfl, generated⟩ | ⟨value, enters, below | below⟩)
    · exact ⟨new, field, .here, generated⟩
    · obtain ⟨name, part, partHeld, rest, rfl, leaves, new, target, reaches, generated⟩ := below
      exact ⟨new, target, .property enters leaves reaches, generated⟩
    · obtain ⟨index, item, element, _, rfl, leaves, name, part, partHeld, rest, rfl, intoItem,
        new, target, reaches, generated⟩ := below
      exact ⟨new, target, .item enters leaves intoItem reaches, generated⟩

/-- Whether the generators that run when what stands in a field is prepared run for the
omitted positions, once for each. -/
def RunsOnce (isNew : Bool) (field : Field) : Prop :=
  ∀ held (supply : Supply), ∃ fills,
    supply.Runs fills (prepareHeld isNew field held supply).2 ∧
      Fill.Lists fills (field.Omits isNew fills held)

variable {isNew : Bool} {field item : Field} {fields : List (String × Field)} {record : Record}
  {supply : Supply} {value : Json} {held : Option Json} {fills : List Fill}

/-- Preparation of fields in turn: each has its fills under its own name. -/
theorem prepareFields_runs (nodup : (fields.map Prod.fst).Nodup)
    (each : ∀ name part, (name, part) ∈ fields → part.RunsOnce isNew) :
    ∃ fills, supply.Runs fills (prepareFields isNew fields record supply).2 ∧
      (fills.map Fill.steps).Nodup ∧
      (∀ fill ∈ fills, ∃ name ∈ fields.map Prod.fst, ∃ rest, fill.steps = .property name :: rest) ∧
      ∀ name part, (name, part) ∈ fields →
        Fill.Lists (Fill.below (.property name) fills)
          (part.Omits isNew (Fill.below (.property name) fills) (Fields.get? name record)) := by
  induction fields generalizing record supply with
  | nil => exact ⟨[], .none, List.nodup_nil, by simp, by simp⟩
  | cons entry rest ih =>
      obtain ⟨first, firstPart⟩ := entry
      obtain ⟨fresh, restNodup⟩ := List.nodup_cons.1 nodup
      obtain ⟨own, ownRan, ownLists⟩ :=
        each first firstPart List.mem_cons_self (Fields.get? first record) supply
      rw [prepareFields_cons]
      obtain ⟨others, othersRan, othersNodup, othersLie, othersList⟩ :=
        ih restNodup fun name part inRest => each name part (List.mem_cons_of_mem _ inRest)
      -- the names are apart, so what the other fields fill does not lie under this one's name
      have apart : ∀ fill ∈ others, ∀ steps, fill.steps ≠ .property first :: steps := by
        intro fill member steps same
        obtain ⟨name, inRest, tail, isSteps⟩ := othersLie fill member
        rw [isSteps] at same
        cases same
        exact fresh inRest
      refine ⟨own.map (Fill.under (.property first)) ++ others, ?_, ?_, ?_, ?_⟩
      · exact (ownRan.map (Fill.under (.property first)) fun _ => ⟨rfl, rfl⟩).append othersRan
      · exact Fill.nodup_append ownLists.nodup othersNodup apart
      · intro fill member
        rcases List.mem_append.1 member with inOwn | inOthers
        · obtain ⟨inside, -, rfl⟩ := List.mem_map.1 inOwn
          exact ⟨first, List.mem_cons_self, inside.steps, rfl⟩
        · obtain ⟨name, inRest, tail, isSteps⟩ := othersLie fill inOthers
          exact ⟨name, List.mem_cons_of_mem _ inRest, tail, isSteps⟩
      · intro name part isPart
        rcases List.mem_cons.1 isPart with atHead | inRest
        · obtain ⟨rfl, rfl⟩ := Prod.mk.inj atHead
          rw [Fill.below_append_self apart]
          exact ownLists
        · have different : first ≠ name := by
            rintro rfl
            exact fresh (List.mem_map.2 ⟨_, inRest, rfl⟩)
          have lists := othersList name part inRest
          rw [Fields.get?_putHeld_of_ne different] at lists
          rw [Fill.below_append_of_ne (by simpa using different)]
          exact lists

theorem prepareFields_lists (declared : field.properties = some fields)
    (nodup : (fields.map Prod.fst).Nodup)
    (each : ∀ name part, (name, part) ∈ fields → part.RunsOnce isNew) (object : Record)
    (supply : Supply) :
    ∃ fills, supply.Runs fills (prepareFields isNew fields object supply).2 ∧
      Fill.Lists fills (field.OmitsProperties isNew fills (.object object)) := by
  obtain ⟨fills, ran, fillsNodup, lie, lists⟩ := prepareFields_runs nodup each
  refine ⟨fills, ran, fillsNodup, fun steps generator => ?_⟩
  constructor
  · rintro ⟨made, member⟩
    obtain ⟨name, isName, rest, rfl⟩ := lie _ member
    obtain ⟨⟨_, part⟩, isPart, rfl⟩ := List.mem_map.1 isName
    refine ⟨_, part, _, rest, rfl, .property declared isPart, ?_⟩
    exact ((lists _ part isPart).mem_iff rest generator).1 ⟨made, Fill.mem_below.2 member⟩
  · rintro ⟨name, part, held, rest, rfl, leaves, omits⟩
    cases leaves with
    | property alsoDeclared isPart =>
        rw [declared] at alsoDeclared
        cases alsoDeclared
        obtain ⟨made, member⟩ := ((lists name part isPart).mem_iff rest generator).2 omits
        exact ⟨made, Fill.mem_below.1 member⟩

/-- The fills of an item are those of its properties. -/
def ItemRunsOnce (isNew : Bool) (item : Field) : Prop :=
  ∀ value (supply : Supply), ∃ fills,
    supply.Runs fills (prepareItem isNew item value supply).2 ∧
      Fill.Lists fills (item.OmitsProperties isNew fills value)

theorem itemRunsOnce (apart : item.NamesApart)
    (each : ∀ fields, item.properties = some fields → ∀ name part, (name, part) ∈ fields →
      part.RunsOnce isNew) : item.ItemRunsOnce isNew := by
  intro value supply
  rcases prepareItem_cases isNew item value with
    ⟨object, fields, rfl, declared, prepares⟩ | ⟨noProperty, prepares⟩
  · rw [prepares]
    exact prepareFields_lists declared (apart fields declared) (each fields declared) object supply
  · rw [prepares]
    refine ⟨[], .none, List.nodup_nil, fun steps generator => ?_⟩
    refine iff_of_false (by simp) ?_
    rintro ⟨name, part, held, rest, -, leaves, -⟩
    exact noProperty name part held leaves

/-- Preparation of items in turn: each has its fills under its own position. -/
theorem mapM_runs (each : item.ItemRunsOnce isNew) (elements : List Json) (offset : Nat)
    (supply : Supply) :
    ∃ fills, supply.Runs fills (elements.mapM (prepareItem isNew item) supply).2 ∧
      (fills.map Fill.steps).Nodup ∧
      (∀ fill ∈ fills, ∃ index < elements.length, ∃ rest,
        fill.steps = .item (offset + index) :: rest) ∧
      ∀ index element, elements[index]? = some element →
        Fill.Lists (Fill.below (.item (offset + index)) fills)
          (item.OmitsProperties isNew (Fill.below (.item (offset + index)) fills) element) := by
  induction elements generalizing offset supply with
  | nil => exact ⟨[], .none, List.nodup_nil, by simp, by simp⟩
  | cons first rest ih =>
      obtain ⟨own, ownRan, ownLists⟩ := each first supply
      obtain ⟨others, othersRan, othersNodup, othersLie, othersList⟩ :=
        ih (offset + 1) (prepareItem isNew item first supply).2
      have apart : ∀ fill ∈ others, ∀ steps, fill.steps ≠ .item offset :: steps := by
        intro fill member steps same
        obtain ⟨index, -, tail, isSteps⟩ := othersLie fill member
        rw [isSteps] at same
        have := Step.item.inj (List.cons.inj same).1
        omega
      refine ⟨own.map (Fill.under (.item offset)) ++ others, ?_, ?_, ?_, ?_⟩
      · rw [List.mapM_cons]
        exact (ownRan.map (Fill.under (.item offset)) fun _ => ⟨rfl, rfl⟩).append othersRan
      · exact Fill.nodup_append ownLists.nodup othersNodup apart
      · intro fill member
        rcases List.mem_append.1 member with inOwn | inOthers
        · obtain ⟨inside, -, rfl⟩ := List.mem_map.1 inOwn
          exact ⟨0, by simp, inside.steps, rfl⟩
        · obtain ⟨index, inside, tail, isSteps⟩ := othersLie fill inOthers
          refine ⟨index + 1, by simpa using inside, tail, ?_⟩
          rw [isSteps, Nat.add_assoc, Nat.add_comm 1]
      · intro index element holds
        cases index with
        | zero =>
            obtain rfl : first = element := by simpa using holds
            rw [Nat.add_zero, Fill.below_append_self apart]
            exact ownLists
        | succ index =>
            have lists := othersList index element (by simpa using holds)
            have further : offset + 1 + index = offset + (index + 1) := by omega
            rw [Fill.below_append_of_ne (by simp), ← further]
            exact lists

theorem mapM_lists (declared : field.items = some item) (each : item.ItemRunsOnce isNew)
    (elements : List Json) (supply : Supply) :
    ∃ fills, supply.Runs fills (elements.mapM (prepareItem isNew item) supply).2 ∧
      Fill.Lists fills (field.OmitsBelow isNew fills (.array elements)) := by
  obtain ⟨fills, ran, fillsNodup, lie, lists⟩ := mapM_runs each elements 0 supply
  simp only [Nat.zero_add] at lie lists
  refine ⟨fills, ran, fillsNodup, fun steps generator => ?_⟩
  constructor
  · rintro ⟨made, member⟩
    obtain ⟨index, inside, rest, rfl⟩ := lie _ member
    have holds : elements[index]? = some elements[index] := List.getElem?_eq_getElem inside
    refine .inr ⟨index, item, _, rest, rfl, .item declared holds, ?_⟩
    exact ((lists index _ holds).mem_iff rest generator).1 ⟨made, Fill.mem_below.2 member⟩
  · rintro (⟨_, _, _, _, -, leaves, -⟩ | ⟨index, part, element, rest, rfl, leaves, omits⟩)
    · cases leaves
    · cases leaves with
      | item alsoDeclared holds =>
          rw [declared] at alsoDeclared
          cases alsoDeclared
          obtain ⟨made, member⟩ := ((lists index element holds).mem_iff rest generator).2 omits
          exact ⟨made, Fill.mem_below.1 member⟩

theorem prepare_lists (apart : field.NamesApart)
    (ofProperties : ∀ fields, field.properties = some fields → ∀ name part,
      (name, part) ∈ fields → part.RunsOnce isNew)
    (ofItems : ∀ item, field.items = some item → item.ItemRunsOnce isNew)
    (value : Json) (supply : Supply) :
    ∃ fills, supply.Runs fills (prepare isNew field value supply).2 ∧
      Fill.Lists fills (field.OmitsBelow isNew fills (field.rules.transformed value)) := by
  rcases prepare_cases isNew field value with
    ⟨object, fields, isObject, declared, prepares⟩ |
    ⟨elements, item, isArray, declared, prepares⟩ | ⟨noPart, prepares⟩
  · rw [prepares, isObject]
    obtain ⟨fills, ran, nodup, mem_iff⟩ := prepareFields_lists declared (apart fields declared)
      (ofProperties fields declared) object supply
    refine ⟨fills, ran, nodup, fun steps generator => (mem_iff steps generator).trans ?_⟩
    refine (or_iff_left ?_).symm
    rintro ⟨_, _, _, _, -, leaves, -⟩
    cases leaves
  · rw [prepares, isArray]
    exact mapM_lists declared (ofItems item declared) elements supply
  · rw [prepares]
    refine ⟨[], .none, List.nodup_nil, fun steps generator => iff_of_false (by simp) ?_⟩
    rintro (⟨_, part, held, _, -, leaves, -⟩ | ⟨_, item, element, _, -, leaves, -⟩)
    · exact noPart _ part held leaves
    · exact noPart _ item (some element) leaves

theorem omitsBelow_congr {others : List Fill}
    (same : ∀ step, Fill.below step fills = Fill.below step others) (steps : List Step)
    (generator : Generator) :
    field.OmitsBelow isNew fills value steps generator ↔
      field.OmitsBelow isNew others value steps generator := by
  simp only [OmitsBelow, OmitsProperties, same]

theorem not_omitsBelow_nil (generator : Generator) :
    ¬ field.OmitsBelow isNew fills value [] generator := by
  rintro (⟨_, _, _, _, isSteps, -⟩ | ⟨_, _, _, _, isSteps, -⟩) <;> cases isSteps

/-- Where the preparation can only start from one value and the position itself is not to be
filled by a generator, the fills are those below the value. -/
theorem lists_of_enters (filled : ¬ (isNew = true ∧ held = none ∧
      ∃ generator, field.rules.default = some (.generated generator)))
    (only : ∀ entered, field.rules.Enters isNew fills held entered ↔ entered = value)
    (lists : Fill.Lists fills (field.OmitsBelow isNew fills (field.rules.transformed value))) :
    Fill.Lists fills (field.Omits isNew fills held) := by
  refine ⟨lists.nodup, fun steps generator => (lists.mem_iff steps generator).trans ?_⟩
  rw [omits_iff]
  constructor
  · exact fun below => .inr ⟨value, (only value).2 rfl, below⟩
  · rintro (⟨new, -, isHeld, generated⟩ | ⟨entered, enters, below⟩)
    · exact absurd ⟨new, isHeld, generator, generated⟩ filled
    · rwa [← (only entered).1 enters]

theorem lists_of_not_enters (notFilled : ¬ (isNew = true ∧ held = none ∧
      ∃ generator, field.rules.default = some (.generated generator)))
    (never : ∀ entered, ¬ field.rules.Enters isNew [] held entered) :
    Fill.Lists [] (field.Omits isNew [] held) := by
  refine ⟨List.nodup_nil, fun steps generator => iff_of_false (by simp) ?_⟩
  rw [omits_iff]
  rintro (⟨new, -, isHeld, generated⟩ | ⟨entered, enters, -⟩)
  · exact notFilled ⟨new, isHeld, generator, generated⟩
  · exact never entered enters

/-- A generated default comes before the fills below it. -/
theorem lists_generated {generator : Generator}
    (declared : field.rules.default = some (.generated generator))
    (lists : Fill.Lists fills (field.OmitsBelow true fills (field.rules.transformed value))) :
    Fill.Lists (⟨[], generator, value⟩ :: fills)
      (field.Omits true (⟨[], generator, value⟩ :: fills) none) := by
  -- all other fills lie further down, so the new one is the only one at the position itself
  have belowOnly (other : Generator) (made : Json) : ⟨[], other, made⟩ ∉ fills := fun member =>
    not_omitsBelow_nil other ((lists.mem_iff [] other).1 ⟨made, member⟩)
  have below (step : Step) : Fill.below step (⟨[], generator, value⟩ :: fills) =
      Fill.below step fills := rfl
  constructor
  · refine List.nodup_cons.2 ⟨fun member => ?_, lists.nodup⟩
    obtain ⟨⟨steps, other, made⟩, inFills, isSteps⟩ := List.mem_map.1 member
    obtain rfl : steps = [] := isSteps
    exact belowOnly other made inFills
  · intro steps other
    rw [omits_iff]
    constructor
    · rintro ⟨made, member⟩
      rcases List.mem_cons.1 member with atHead | inFills
      · cases atHead
        exact .inl ⟨rfl, rfl, rfl, declared⟩
      · refine .inr ⟨value, .generated rfl declared List.mem_cons_self, ?_⟩
        rw [omitsBelow_congr below]
        exact (lists.mem_iff steps other).1 ⟨made, inFills⟩
    · rintro (⟨-, rfl, -, generated⟩ | ⟨entered, enters, omits⟩)
      · rw [declared] at generated
        cases generated
        exact ⟨value, List.mem_cons_self⟩
      · have isValue : entered = value := by
          cases enters with
          | literal _ alsoDeclared => simp [declared] at alsoDeclared
          | generated _ _ made =>
              rcases List.mem_cons.1 made with atHead | inFills
              · exact congrArg Fill.value atHead
              · exact absurd inFills (belowOnly _ _)
        rw [isValue, omitsBelow_congr below] at omits
        obtain ⟨made, member⟩ := (lists.mem_iff steps other).2 omits
        exact ⟨made, List.mem_cons_of_mem _ member⟩

theorem runsOnce_of_prepare (prepares : ∀ value (supply : Supply), ∃ fills,
      supply.Runs fills (prepare isNew field value supply).2 ∧
        Fill.Lists fills (field.OmitsBelow isNew fills (field.rules.transformed value))) :
    field.RunsOnce isNew := by
  intro held supply
  cases held with
  | some value =>
      obtain ⟨fills, ran, lists⟩ := prepares value supply
      refine ⟨fills, ran, lists_of_enters (by simp) (fun entered => ?_) lists⟩
      constructor
      · intro enters
        cases enters
        rfl
      · rintro rfl
        exact .held
  | none =>
      by_cases notFilled : isNew = false ∨ field.rules.default = none
      · rw [prepareHeld_none notFilled]
        refine ⟨[], .none, lists_of_not_enters ?_ fun entered enters => ?_⟩
        · rintro ⟨new, -, generator, declared⟩
          simp [new, declared] at notFilled
        · cases enters <;> simp_all
      · rw [not_or] at notFilled
        obtain rfl : isNew = true := by simpa using notFilled.1
        obtain ⟨value | generator, declared⟩ := Option.ne_none_iff_exists'.1 notFilled.2
        · obtain ⟨fills, ran, lists⟩ := prepares value supply
          rw [prepareHeld_default declared]
          refine ⟨fills, ran, lists_of_enters (by simp [declared]) (fun entered => ?_) lists⟩
          constructor
          · intro enters
            cases enters <;> simp_all
          · rintro rfl
            exact .literal rfl declared
        · obtain ⟨fills, ran, lists⟩ := prepares (Supply.draw generator supply).1
            (Supply.draw generator supply).2
          rw [prepareHeld_default declared]
          exact ⟨_, .next rfl ran, lists_generated declared lists⟩

/-- Preparation runs generators for omitted positions only, once for each. -/
theorem runsOnce (isNew : Bool) (apart : field.Throughout NamesApart) :
    field.RunsOnce isNew := by
  -- items are prepared in a way of their own, so the induction carries both
  suffices both : field.RunsOnce isNew ∧ field.ItemRunsOnce isNew from both.1
  induction field using parts_induction with
  | step field ofProperties ofItems =>
      obtain ⟨own, partsApart, itemsApart⟩ := apart
      have eachProperty fields (declared : field.properties = some fields) name part
          (isPart : (name, part) ∈ fields) : part.RunsOnce isNew :=
        (ofProperties fields declared name part isPart
          (partsApart fields declared name part isPart)).1
      have eachItem item (declared : field.items = some item) : item.ItemRunsOnce isNew :=
        (ofItems item declared (itemsApart item declared)).2
      exact ⟨runsOnce_of_prepare (prepare_lists own eachProperty eachItem),
        itemRunsOnce own eachProperty⟩

variable {target otherTarget : Field} {found otherFound : Option Json}

theorem enters_unique {entered other : Json} (nodup : (fills.map Fill.steps).Nodup)
    (enters : field.rules.Enters isNew fills held entered)
    (otherEnters : field.rules.Enters isNew fills held other) : entered = other := by
  cases enters with
  | held =>
      cases otherEnters
      rfl
  | literal _ declared =>
      cases otherEnters with
      | literal _ alsoDeclared => simpa [declared] using alsoDeclared
      | generated _ alsoDeclared => simp [declared] at alsoDeclared
  | generated _ declared made =>
      cases otherEnters with
      | literal _ alsoDeclared => simp [declared] at alsoDeclared
      | generated _ alsoDeclared alsoMade =>
          exact congrArg Fill.value (List.inj_on_of_nodup_map nodup made alsoMade rfl)

/-- The same steps reach one position only: what is supplied there is not omitted. -/
theorem Reaches.unique {steps : List Step} (nodup : (fills.map Fill.steps).Nodup)
    (apart : field.Throughout NamesApart)
    (reaches : field.Reaches isNew fills held steps target found)
    (otherReaches : field.Reaches isNew fills held steps otherTarget otherFound) :
    target = otherTarget ∧ found = otherFound := by
  induction reaches with
  | here =>
      cases otherReaches
      exact ⟨rfl, rfl⟩
  | property enters leaves _ ih =>
      cases otherReaches with
      | property otherEnters otherLeaves otherRest =>
          obtain rfl := enters_unique nodup enters otherEnters
          obtain ⟨rfl, rfl⟩ := leaves.unique apart.own otherLeaves
          exact ih (Fill.nodup_below nodup _) (leaves.throughout apart) otherRest
  | item enters leaves intoItem _ ih =>
      cases otherReaches with
      | item otherEnters otherLeaves otherIntoItem otherRest =>
          obtain rfl := enters_unique nodup enters otherEnters
          obtain ⟨rfl, sameElement⟩ := leaves.unique apart.own otherLeaves
          cases sameElement
          have itemApart := leaves.throughout apart
          obtain ⟨rfl, rfl⟩ := intoItem.unique itemApart.own otherIntoItem
          exact ih (Fill.nodup_below (Fill.nodup_below nodup _) _) (intoItem.throughout itemApart)
            otherRest

end Field

namespace Schema

variable {schema : Schema} {isNew : Bool} {record : Record} {supply : Supply}

/-- The names of a prepared record are those that it had, those of the defaults, and those
of the instants, each only where it is not there before. -/
theorem names_prepare (nodup : (schema.fields.map Prod.fst).Nodup) :
    Fields.names (schema.prepare isNew record supply).1 =
      (Fields.names record ++ Field.defaulted isNew schema.fields record) ++
        (schema.instantNames isNew).filter
          (· ∉ Fields.names record ++ Field.defaulted isNew schema.fields record) := by
  rw [prepare_eq, names_stamp, ← Field.names_prepareFields nodup record supply]
  congr 1
  refine List.filter_congr fun name _ => ?_
  simp [← Fields.has_iff]

theorem get?_prepare_of_plain {name : String} {value : Json}
    (found : Fields.get? name record = some value) (notInstant : name ∉ schema.instantNames isNew)
    (plain : ∀ field, (name, field) ∈ schema.fields → field.rules.transform = none ∧
      field.properties = none ∧ field.items = none) :
    Fields.get? name (schema.prepare isNew record supply).1 = some value := by
  rw [prepare_eq, get?_stamp, if_neg notInstant]
  exact Field.get?_prepareFields_of_plain found plain

/-- What preparation adds to a record and leaves in it.  The names of the record come first,
then those of its omitted fields with a default, then those of the instants that are still
missing; a value stays where its field has no transform and no parts.  The generators that
run are those of the positions that a new record omits, one after the other and once each:
none runs for a position where something is held, and none at all if the record is not new. -/
theorem prepare_fills_omitted (apart : schema.whole.Throughout Field.NamesApart)
    (isNew : Bool) (record : Record) (supply : Supply) :
    let prepared := (schema.prepare isNew record supply).1
    let later := (schema.prepare isNew record supply).2
    let filled := Fields.names record ++ Field.defaulted isNew schema.fields record
    Fields.names prepared = filled ++ (schema.instantNames isNew).filter (· ∉ filled) ∧
    (∀ name value, Fields.get? name record = some value → name ∉ schema.instantNames isNew →
      (∀ field, (name, field) ∈ schema.fields → field.rules.transform = none ∧
        field.properties = none ∧ field.items = none) →
      Fields.get? name prepared = some value) ∧
    ∃ fills, supply.Runs fills later ∧
      later.drawn = (fills.map fun fill => Supply.drawOf fill.generator).reverse ++ supply.drawn ∧
      (fills.map Fill.steps).Nodup ∧
      (∀ steps generator, (∃ value, ⟨steps, generator, value⟩ ∈ fills) ↔
        schema.whole.Omits isNew fills (some (.object record)) steps generator) ∧
      (∀ steps target value, schema.whole.Reaches isNew fills (some (.object record)) steps
        target (some value) → steps ∉ fills.map Fill.steps) ∧
      (isNew = false → later = supply) := by
  intro prepared later filled
  obtain ⟨fills, ran, nodup, mem_iff⟩ :=
    Field.runsOnce isNew apart (some (.object record)) supply
  have ranToLater : supply.Runs fills later := ran
  refine ⟨names_prepare (apart.own _ rfl), fun _ _ => get?_prepare_of_plain, fills, ranToLater,
    by rw [ranToLater.later_eq], nodup, mem_iff, ?_, ?_⟩
  · intro steps target value supplied filledHere
    obtain ⟨⟨_, generator, made⟩, member, rfl⟩ := List.mem_map.1 filledHere
    obtain ⟨-, other, omitted, -⟩ := (mem_iff _ generator).1 ⟨made, member⟩
    cases (supplied.unique nodup apart omitted).2
  · rintro rfl
    have noFill : fills = [] := by
      refine List.eq_nil_iff_forall_not_mem.2 fun fill member => ?_
      obtain ⟨new, -⟩ := (mem_iff fill.steps fill.generator).1 ⟨fill.value, member⟩
      cases new
    rw [ranToLater.later_eq, noFill]
    rfl

/-- A field whose values are made. -/
def madeField (tag : TypeTag) (generator : Generator) : Field :=
  .mk { types := [tag], default := some (.generated generator) } none none

/-- Orders with a number and with lines that have a code each, all of them made. -/
def orderSchema : Schema where
  name := "orders"
  fields :=
    [("number", madeField .number (.counted "number" 0 .ofNat)),
      ("lines", .mk { types := [.array] } none
        (some (.mk { types := [.object] }
          (some [("code", madeField .string (.standard .nanoid))]) none)))]
  timestamps := true

/-- An order whose second line has a code: only the first line gets one. -/
theorem order_fills_omitted :
    let record : Record :=
      [("lines", .array [.object [], .object [("code", .string "a")]])]
    let prepared := orderSchema.prepare true record (.start 0 1)
    Fields.names prepared.1 = ["lines", "number", createdField, updatedField] ∧
    ∃ fills, (Supply.start 0 1).Runs fills prepared.2 ∧
      (∃ value, ⟨[.property "lines", .item 0, .property "code"], .standard .nanoid, value⟩ ∈
        fills) ∧
      [.property "lines", .item 1, .property "code"] ∉ fills.map Fill.steps := by
  intro record prepared
  have apart : orderSchema.whole.Throughout Field.NamesApart := by decide
  obtain ⟨names, -, fills, ran, -, -, mem_iff, supplied, -⟩ :=
    prepare_fills_omitted apart true record (.start 0 1)
  have reaches (index : Nat) (line : Record)
      (isLine : [Json.object [], .object [("code", .string "a")]][index]? = some (.object line)) :
      orderSchema.whole.Reaches true fills (some (.object record))
        [.property "lines", .item index, .property "code"]
        (madeField .string (.standard .nanoid)) (Fields.get? "code" line) :=
    .property .held (.property rfl (.tail _ (.head _)))
      (.item .held (.item rfl isLine) (.property rfl (.head _)) .here)
  exact ⟨names.trans (by decide), fills, ran, (mem_iff _ _).2 ⟨rfl, _, reaches 0 [] rfl, rfl⟩,
    supplied _ _ (.string "a") (reaches 1 _ rfl)⟩

end Schema

end DocStore
