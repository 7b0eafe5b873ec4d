import DocStore.Proofs.RecordSubstitution
import DocStore.Proofs.RequestedRecord

/-!
# Generated defaults in a deletion

Where a generator makes the values that replace references to a record that goes, it runs
once for every record that refers to it, and the records get its results in their order.
A loop over the ids that were found before shows it: what it has dealt with lies in front
of what is still to come, and the supply tells how many results were drawn.
-/

namespace DocStore

namespace Supply

variable {supply : Supply} {generator : Generator}

/-- The supply after so many draws of a generator. -/
def advanced (supply : Supply) (generator : Generator) (count : Nat) : Supply :=
  { supply with drawn := List.replicate count (drawOf generator) ++ supply.drawn }

/-- What a generator makes at one of its next draws, counted from zero. -/
def result (supply : Supply) (generator : Generator) (turn : Nat) : Json :=
  (supply.advanced generator turn).next generator

theorem advanced_advanced (first second : Nat) :
    (supply.advanced generator first).advanced generator second =
      supply.advanced generator (second + first) := by
  simp only [advanced, List.replicate_add, List.append_assoc]

theorem result_advanced (count turn : Nat) :
    (supply.advanced generator count).result generator turn =
      supply.result generator (turn + count) := by
  rw [result, advanced_advanced, result]

end Supply

namespace Record

variable {field : String} {value : Json} {result : Nat → Json} {turn : Nat}

/-- The records of a list, those that hold a value in a field with new values for it: the
first one with the result of a turn, the next one with that of the next turn, and so on. -/
def givenInTurn (field : String) (value : Json) (result : Nat → Json) :
    Nat → List Record → List Record
  | _, [] => []
  | turn, record :: rest =>
    if record.holds field value then
      Fields.put field (result turn) record :: givenInTurn field value result (turn + 1) rest
    else record :: givenInTurn field value result turn rest

theorem givenInTurn_shift (shift : Nat) (records : List Record) :
    givenInTurn field value (fun turn => result (turn + shift)) turn records =
      givenInTurn field value result (turn + shift) records := by
  induction records generalizing turn with
  | nil => rfl
  | cons record rest ih =>
      simp only [givenInTurn]
      split_ifs
      · rw [ih, Nat.add_right_comm]
      · rw [ih]

theorem Apart.put_left {record other : Record} (apart : record.Apart other)
    (notId : field ≠ idField) (value : Json) : Apart (Fields.put field value record) other := by
  have sameId := id?_put_of_ne notId value record
  constructor
  · intro id isId
    exact (hasId_congr sameId id).trans (apart.1 id isId)
  · intro id isId
    exact apart.2 id (sameId.symm.trans isId)

end Record

theorem pairwise_apart_put {before after : List Record} {record : Record} {field : String}
    (apart : (before ++ record :: after).Pairwise Record.Apart) (notId : field ≠ idField)
    (value : Json) :
    (before ++ Fields.put field value record :: after).Pairwise Record.Apart := by
  obtain ⟨beforeApart, restApart, across⟩ := List.pairwise_append.1 apart
  obtain ⟨recordApart, afterApart⟩ := List.pairwise_cons.1 restApart
  apply List.pairwise_append.2 ⟨beforeApart, List.pairwise_cons.2 ⟨?_, afterApart⟩, ?_⟩
  · exact fun other inAfter => (recordApart other inAfter).put_left notId value
  · intro other inBefore next member
    rcases List.mem_cons.1 member with rfl | inAfter
    · exact ((across other inBefore record List.mem_cons_self).symm.put_left notId value).symm
    · exact across other inBefore next (List.mem_cons_of_mem _ inAfter)

/-- Whether a generator makes the default of a dependent's field. -/
def ReferenceRules.Generates (rules : ReferenceRules) (dependent : Dependent)
    (generator : Generator) : Prop :=
  ∃ schema field, rules.registry.find? dependent.collection = some schema ∧
    Fields.get? dependent.field schema.fields = some field ∧
    field.rules.default = some (.generated generator)

/-- Items with which nothing is to be done may be left out of a loop. -/
theorem Attempt.forM_filter {σ ι : Type} {each : ι → Attempt σ PUnit} {todo : ι → Bool}
    (idle : ∀ item, todo item = false → each item = pure ⟨⟩) (items : List ι) :
    items.forM each = (items.filter todo).forM each := by
  induction items with
  | nil => rfl
  | cons item items ih =>
      cases isTodo : todo item with
      | true =>
          rw [List.filter_cons_of_pos isTodo]
          exact congrArg (fun next => each item >>= fun _ => next) ih
      | false =>
          rw [List.filter_cons_of_neg (by simp [isTodo]), ← ih]
          change (each item >>= fun _ => items.forM each) = _
          rw [idle item isTodo, pure_bind]

namespace Cascade

variable {A : Type} [Adapter A] {rules : ReferenceRules} {dependent : Dependent}
  {generator : Generator} {delete : String → Json → Attempt (Cascade A) Bool}
  {first last : Cascade A} {before rest : List Record} {record : Record} {id value : Json}

omit [Adapter A] in
theorem defaultFor_generated (generates : rules.Generates dependent generator)
    (cascade : Cascade A) :
    (onSpace (Workspace.defaultFor rules dependent)).outcome cascade =
      (.ok (cascade.space.supply.result generator 0),
        cascade.supplied (cascade.space.supply.advanced generator 1)) := by
  obtain ⟨schema, field, known, declared, generated⟩ := generates
  have found : (rules.registry.find? dependent.collection).bind
      (fun schema => Fields.get? dependent.field schema.fields) = some field := by
    rw [known, Option.bind_some, declared]
  simp only [Workspace.defaultFor, found, Field.defaultOrNull, generated]
  rfl

/-- One turn draws a value and gives it to the record that the id finds. -/
theorem applyPolicy_generated (generates : rules.Generates dependent generator)
    (notId : dependent.field ≠ idField)
    (split : first.held.records dependent.collection = before ++ record :: rest)
    (others : ∀ other ∈ before, other.hasId id = false) (found : record.hasId id = true)
    (ran : (applyPolicy rules delete dependent .setDefault id).outcome first = (.ok ⟨⟩, last)) :
    last.space.supply = first.space.supply.advanced generator 1 ∧
      last.held = first.held.insert dependent.collection
        (before ++ Fields.put dependent.field (first.space.supply.result generator 0) record ::
          rest) := by
  obtain ⟨value, drawn, drew, given⟩ := Attempt.bind_ok_iff.1 ran
  rw [defaultFor_generated generates] at drew
  obtain ⟨isResult, rfl⟩ := Prod.mk.inj drew
  obtain rfl := Except.ok.inj isResult
  obtain ⟨changed, after, gave, done⟩ := Attempt.bind_ok_iff.1 given
  obtain rfl : after = last := congrArg Prod.snd done
  have supply : ((onSpace (Workspace.setField dependent id
      (first.space.supply.result generator 0))).outcome
        (first.supplied (first.space.supply.advanced generator 1))).2.space.supply =
          first.space.supply.advanced generator 1 :=
    Workspace.setField_supply ..
  have held := (setField_outcome dependent id (first.space.supply.result generator 0)
    (first.supplied (first.space.supply.advanced generator 1))).1
  rw [gave] at supply held
  constructor
  · exact supply
  · have updated := Collections.update_of_split split others found notId
      (first.space.supply.result generator 0)
    change after.held = Edit.applied _ first.held at held
    rw [held, Edit.applied, updated]

theorem forM_applyPolicy_generated (generates : rules.Generates dependent generator)
    (notId : dependent.field ≠ idField)
    (split : first.held.records dependent.collection = before ++ rest)
    (apart : (before ++ rest).Pairwise Record.Apart)
    (distinct : ∀ record ∈ rest, ∀ id, record.id? = some id → id.DistinctNames)
    (identified : ∀ record ∈ rest, record.holds dependent.field value = true →
      record.id?.isSome = true)
    (ran : (((rest.filter (·.holds dependent.field value)).filterMap Record.id?).forM
      (applyPolicy rules delete dependent .setDefault)).outcome first = (.ok ⟨⟩, last)) :
    last.space.supply = first.space.supply.advanced generator
        (rest.filter (·.holds dependent.field value)).length ∧
      ∀ name, last.held.get? name =
        if name = dependent.collection then
          (first.held.get? name).map fun _ => before ++
            Record.givenInTurn dependent.field value (first.space.supply.result generator) 0 rest
        else first.held.get? name := by
  -- The records of `before` are dealt with, those of `rest` are still to come.
  induction rest generalizing before first with
  | nil =>
      obtain rfl : first = last := congrArg Prod.snd ran
      refine ⟨rfl, fun name => ?_⟩
      split_ifs with same
      · subst same
        rw [Record.givenInTurn, ← split, Collections.records]
        cases first.held.get? dependent.collection <;> rfl
      · rfl
  | cons record rest ih =>
      have distinctRest : ∀ other ∈ rest, ∀ id, other.id? = some id → id.DistinctNames :=
        fun other inRest => distinct other (List.mem_cons_of_mem _ inRest)
      have identifiedRest : ∀ other ∈ rest, other.holds dependent.field value = true →
          other.id?.isSome = true :=
        fun other inRest => identified other (List.mem_cons_of_mem _ inRest)
      by_cases holds : record.holds dependent.field value = true
      · obtain ⟨id, isId⟩ :=
          Option.isSome_iff_exists.1 (identified record List.mem_cons_self holds)
        simp only [List.filter_cons, holds, if_true, List.filterMap_cons, isId] at ran
        obtain ⟨_, middle, ranFirst, ranRest⟩ := Attempt.bind_ok_iff.1 ran
        have others : ∀ other ∈ before, other.hasId id = false := fun other inBefore =>
          ((List.pairwise_append.1 apart).2.2 other inBefore record List.mem_cons_self).1 id isId
        have found : record.hasId id = true := Record.hasId_iff.2
          ⟨id, isId, Json.same_refl id (distinct record List.mem_cons_self id isId)⟩
        obtain ⟨supply, held⟩ :=
          applyPolicy_generated generates notId split others found ranFirst
        -- The record just given its value joins those that are dealt with.
        have splitRest : middle.held.records dependent.collection =
            (before ++ [Fields.put dependent.field (first.space.supply.result generator 0)
              record]) ++ rest := by
          rw [held, Collections.records_insert_self, List.append_assoc]
          rfl
        have apartRest := pairwise_apart_put apart notId (first.space.supply.result generator 0)
        rw [List.append_cons] at apartRest
        obtain ⟨supplyRest, heldRest⟩ :=
          ih splitRest apartRest distinctRest identifiedRest ranRest
        constructor
        · rw [supplyRest, supply, Supply.advanced_advanced]
          simp only [List.filter_cons, holds, if_true, List.length_cons]
        · intro name
          have shifted : middle.space.supply.result generator =
              fun turn => first.space.supply.result generator (turn + 1) := by
            rw [supply]
            exact funext (Supply.result_advanced 1)
          rw [heldRest, held, SortedMap.get?_insert, shifted, Record.givenInTurn_shift]
          by_cases same : name = dependent.collection
          · subst same
            obtain ⟨records, isHeld⟩ : ∃ records,
                first.held.get? dependent.collection = some records := by
              cases isHeld : first.held.get? dependent.collection with
              | none => simp [Collections.records, isHeld] at split
              | some records => exact ⟨records, rfl⟩
            simp [isHeld, Record.givenInTurn, holds]
          · simp [same, Ne.symm same]
      · have passed : record.holds dependent.field value = false := Bool.eq_false_iff.2 holds
        simp only [List.filter_cons, passed] at ran ⊢
        rw [List.append_cons] at split apart
        obtain ⟨supply, held⟩ := ih split apart distinctRest identifiedRest ran
        refine ⟨supply, fun name => ?_⟩
        rw [held]
        simp [Record.givenInTurn, passed]

theorem applyDependent_eq {action : ReferenceAction} {value : Json} {record : Record}
    (declared : dependent.onDelete = some action)
    (linked : record.linked? dependent.key = some value) (cascade : Cascade A) :
    (applyDependent rules delete record dependent).outcome cascade =
      (((cascade.held.holding dependent.collection dependent.field value).filterMap
        Record.id?).forM (applyPolicy rules delete dependent action)).outcome cascade := by
  unfold applyDependent
  rw [declared, linked]
  rfl

theorem applyPolicies_of_single {owner : String} {record : Record}
    (single : (rules.graph.dependentsOf owner).filter (·.onDelete.isSome) = [dependent])
    (ran : (applyPolicies rules delete owner record).outcome first = (.ok ⟨⟩, last)) :
    (applyDependent rules delete record dependent).outcome first = (.ok ⟨⟩, last) := by
  have idle (other : Dependent) (undeclared : other.onDelete.isSome = false) :
      applyDependent rules delete record other = pure ⟨⟩ := by
    have noPolicy : other.onDelete = none := by simpa using undeclared
    rw [applyDependent, noPolicy]
  rw [applyPolicies, Attempt.forM_filter idle, single] at ran
  obtain ⟨_, middle, applied, done⟩ := Attempt.bind_ok_iff.1 ran
  obtain rfl : middle = last := congrArg Prod.snd done
  exact applied

/-- The policies of a record, where a generated default is the only one. -/
theorem applyPolicies_generated {owner : String} {record : Record} (lawful : first.held.Lawful)
    (single : (rules.graph.dependentsOf owner).filter (·.onDelete.isSome) = [dependent])
    (defaults : dependent.onDelete = some .setDefault) (notId : dependent.field ≠ idField)
    (generates : rules.Generates dependent generator)
    (linked : record.linked? dependent.key = some value)
    (identified : ∀ holder ∈ first.held.holding dependent.collection dependent.field value,
      holder.id?.isSome = true)
    (ran : (applyPolicies rules delete owner record).outcome first = (.ok ⟨⟩, last)) :
    last.space.supply = first.space.supply.advanced generator
        (first.held.holding dependent.collection dependent.field value).length ∧
      ∀ name, last.held.get? name = (first.held.get? name).map fun records =>
        if name = dependent.collection then
          Record.givenInTurn dependent.field value (first.space.supply.result generator) 0 records
        else records := by
  have looped := applyPolicies_of_single single ran
  rw [applyDependent_eq defaults linked] at looped
  obtain ⟨supply, held⟩ := forM_applyPolicy_generated generates notId (List.nil_append _).symm
    (by simpa using lawful.idsUnique dependent.collection)
    (fun record member _ => Record.distinctNames_id? (lawful.distinctNames _ record member))
    (fun record member holds => identified record (Collections.mem_holding.2 ⟨member, holds⟩))
    looped
  refine ⟨supply, fun name => ?_⟩
  rw [held, Collections.records]
  by_cases same : name = dependent.collection
  · subst same
    cases first.held.get? dependent.collection <;> simp
  · cases first.held.get? name <;> simp [same]

theorem removal_true {name : String} {cascade : Cascade A}
    (removed : (removal name id).outcome cascade = (.ok true, last)) :
    last.space.supply = cascade.space.supply ∧
      last.held = cascade.held.insert name ((cascade.held.records name).eraseP (·.hasId id)) := by
  constructor
  · obtain rfl : ((removal name id).outcome cascade).2 = last := congrArg Prod.snd removed
    rfl
  · obtain ⟨changed, made, isLast, -⟩ := remove_ok removed
    simp only [Collections.remove] at made
    split_ifs at made
    · obtain ⟨-, rfl⟩ := Prod.mk.inj (Except.ok.inj made)
      exact isLast
    · cases (Prod.mk.inj (Except.ok.inj made)).1

end Cascade

namespace Workspace

variable {A : Type} [Adapter A] {rules : ReferenceRules} {dependent : Dependent}
  {generator : Generator} {collection : String} {id value : Json} {record : Record}
  {space after : Workspace A}

/-- Where the only policy of all that points at a collection is a generated default, a
deletion draws one value for each of the records that hold the value of the record that
goes, and they get them in their order, the record that goes among them if it points at
itself.  No other record changes. -/
theorem delete_gives_in_turn (lawful : space.Lawful)
    (single : (rules.graph.dependentsOf collection).filter (·.onDelete.isSome) = [dependent])
    (defaults : dependent.onDelete = some .setDefault) (notId : dependent.field ≠ idField)
    (generates : rules.Generates dependent generator)
    (found : space.store.collections.find? collection id = some record)
    (linked : record.linked? dependent.key = some value)
    (identified : ∀ holder ∈ space.store.collections.holding dependent.collection
      dependent.field value, holder.id?.isSome = true)
    (deleted : (delete rules collection id).outcome space = (.ok true, after)) :
    after.supply = space.supply.advanced generator
        (space.store.collections.holding dependent.collection dependent.field value).length ∧
      ∀ name, after.store.collections.get? name =
        (space.store.collections.get? name).map fun records =>
          let given := if name = dependent.collection then
            Record.givenInTurn dependent.field value (space.supply.result generator) 0 records
              else records
          if name = collection then given.eraseP (·.hasId id) else given := by
  rcases ran : (Cascade.deleteWithin rules space.store.collections.cascadeDepth collection
    id).outcome ⟨space, []⟩ with ⟨result, last⟩
  rw [delete_outcome, ran] at deleted
  obtain ⟨rfl, rfl⟩ := Prod.mk.inj deleted
  rcases Cascade.deleteWithin_ok ran with
    ⟨absent, -, -⟩ | ⟨within, stored, middle, isStored, followed, removed⟩
  · rw [found] at absent
    cases absent
  · obtain rfl : record = stored := Option.some.inj (found.symm.trans isStored)
    obtain ⟨supply, held⟩ := Cascade.applyPolicies_generated
      (show (Cascade.opened ⟨space, []⟩ (visitMark collection id)).held.Lawful from lawful)
      single defaults notId generates linked identified followed
    obtain ⟨sameSupply, isLast⟩ := Cascade.removal_true removed
    have given (name : String) : middle.held.get? name =
        (space.store.collections.get? name).map fun records =>
          if name = dependent.collection then
            Record.givenInTurn dependent.field value (space.supply.result generator) 0 records
          else records := held name
    refine ⟨sameSupply.trans supply, fun name => ?_⟩
    change last.held.get? name = _
    rw [isLast, SortedMap.get?_insert]
    by_cases gone : collection = name
    · subst gone
      cases isHeld : space.store.collections.get? collection with
      | none => simp [Collections.find?, Collections.records, isHeld] at found
      | some records => simp [Collections.records, given, isHeld]
    · simp [given, gone, Ne.symm gone]

/-- Counts from one hundred. -/
def hundreds : Generator :=
  .counted "hundreds" 0 fun turn => .ofInt (100 + turn)

/-- Rules by which a task whose parent goes gets a number of its own in its place. -/
def numberedRules : ReferenceRules :=
  .ofRegistry (Registry.register {} {
    name := "tasks"
    fields := [
      ("parent", (Field.ofTypes [.number]).withRules fun rules =>
        { rules with
          default := some (.generated hundreds)
          relation := some { Relation.manyToOne "tasks" with onDelete := some .setDefault } })] })

/-- A task and its parent. -/
def taskOf (number parent : Int) : Record :=
  [(idField, .ofInt number), ("parent", .ofInt parent)]

/-- Three tasks, two of which have the first one as their parent, itself among them. -/
def threeTasks : Workspace Memory :=
  ofTasks [taskOf 1 1, taskOf 2 1, taskOf 3 2]

theorem threeTasks_lawful : threeTasks.Lawful := by
  apply ofTasks_lawful (by decide +kernel)
  simp [taskOf, Json.DistinctNames, Json.DistinctNames.DistinctNamesFields, idField, Json.ofInt]

/-- The first number goes with the first task, and the second task has the next one. -/
theorem delete_numbers_threeTasks :
    ∃ after, (delete numberedRules "tasks" (.ofInt 1)).outcome threeTasks = (.ok true, after) ∧
      after.supply.drawn = [.counted 0, .counted 0] ∧
      after.store.collections.get? "tasks" = some [taskOf 2 101, taskOf 3 2] := by
  have answers : ((delete numberedRules "tasks" (.ofInt 1)).outcome threeTasks).1.toOption =
      some true := by decide +kernel
  obtain ⟨after, deleted⟩ := Attempt.exists_of_toOption answers
  have single : (numberedRules.graph.dependentsOf "tasks").filter (·.onDelete.isSome) =
      [⟨"tasks", "parent", idField, some .setDefault, none, "tasks"⟩] := by decide +kernel
  have generates : numberedRules.Generates
      ⟨"tasks", "parent", idField, some .setDefault, none, "tasks"⟩ hundreds :=
    ⟨_, _, rfl, rfl, rfl⟩
  have isFirst (parent : Int) : (taskOf 1 parent).hasId (.ofInt 1) = true :=
    Record.hasId_iff.2 ⟨.ofInt 1, rfl, by decide +kernel⟩
  have found : threeTasks.store.collections.find? "tasks" (.ofInt 1) = some (taskOf 1 1) :=
    List.find?_cons_of_pos (isFirst 1)
  have identified : ∀ holder ∈ threeTasks.store.collections.holding "tasks" "parent" (.ofInt 1),
      holder.id?.isSome = true := by decide +kernel
  have children : (taskOf 1 1).holds "parent" (.ofInt 1) = true ∧
      (taskOf 2 1).holds "parent" (.ofInt 1) = true ∧
      (taskOf 3 2).holds "parent" (.ofInt 1) = false := by decide +kernel
  obtain ⟨supply, held⟩ := delete_gives_in_turn threeTasks_lawful single rfl (by decide)
    generates found rfl identified deleted
  refine ⟨after, deleted, ?_, ?_⟩
  · rw [supply]
    decide +kernel
  · have given : Record.givenInTurn "parent" (.ofInt 1) (threeTasks.supply.result hundreds) 0
        [taskOf 1 1, taskOf 2 1, taskOf 3 2] = [taskOf 1 100, taskOf 2 101, taskOf 3 2] := by
      simp only [Record.givenInTurn, children]
      rfl
    have isHeld : threeTasks.store.collections.get? "tasks" =
      some [taskOf 1 1, taskOf 2 1, taskOf 3 2] := rfl
    simp only [held, isHeld, Option.map_some, if_true, given]
    exact congrArg some (List.eraseP_cons_of_pos (isFirst 100))

end Workspace

end DocStore
