import DocStore.Proofs.DeletionSteps
import Mathlib.Logic.Relation

/-!
# The walk of a deletion

A deletion is a depth-first walk along references whose nodes vanish on the way back.
The invariant tells of a record that is gone that whatever still points at it has been
come to; the progress of a part of the walk is that it comes to more records, all of
which are gone at its end, and takes none of those that it found in progress.
-/

namespace DocStore

namespace ReferenceGraph

/-- Whether a deletion of the first record takes the second one along: the two are
given with the names of their collections. -/
def Takes (graph : ReferenceGraph) (collections : Collections) (taker taken : String × Record) :
    Prop :=
  taken.2 ∈ collections.records taken.1 ∧
    ∃ dependent ∈ graph.dependentsOf taker.1, dependent.onDelete = some .cascade ∧
      dependent.collection = taken.1 ∧
      ∃ value, taker.2.linked? dependent.key = some value ∧
        taken.2.holds dependent.field value = true

/-- Whether no delete policy gives defaults, or puts `null` into a field that others
point at. -/
structure KeepsKeys (graph : ReferenceGraph) : Prop where
  noDefault : ∀ owner, ∀ dependent ∈ graph.dependentsOf owner,
    dependent.onDelete ≠ some .setDefault
  keysKept : ∀ owner, ∀ dependent ∈ graph.dependentsOf owner,
    dependent.onDelete = some .setNull →
      ∀ keyed ∈ graph.dependentsOf dependent.collection, keyed.key ≠ dependent.field

theorem KeepsKeys.not_nulls {graph : ReferenceGraph} (keeps : graph.KeepsKeys) {name : String}
    {dependent : Dependent} (member : dependent ∈ graph.dependentsOf name) :
    ¬ graph.Nulls name dependent.key := by
  rintro ⟨owner, nulling, isDependent, nulls, rfl, sameField⟩
  exact keeps.keysKept owner nulling isDependent nulls dependent member sameField.symm

end ReferenceGraph

/-- Whether the delete policy of a dependent leaves nothing that points at the record
that goes.  An id that is set to `null` is put back. -/
def Dependent.Clears (dependent : Dependent) : Prop :=
  dependent.onDelete ≠ none ∧
    ¬ (dependent.onDelete = some .setNull ∧ dependent.field = idField)

namespace Cascade

variable {A : Type} {graph : ReferenceGraph} {origin : Collections}
  {source : String × Record}

/-- Whether all that points at a record by way of a dependent has been come to. -/
def Settled (record : Record) (dependent : Dependent) (cascade : Cascade A) : Prop :=
  ∀ value, record.linked? dependent.key = some value →
    ∀ pointing ∈ cascade.held.records dependent.collection,
      pointing.holds dependent.field value = true →
        ∀ id, pointing.id? = some id → visitMark dependent.collection id ∈ cascade.visited

/-- The invariant of a deletion from given collections. -/
structure Inv (graph : ReferenceGraph) (origin : Collections) (cascade : Cascade A) : Prop where
  descends : cascade.held.Descends graph origin
  visited_of_gone : ∀ name, ∀ record ∈ origin.records name, ∀ id, record.id? = some id →
    ¬ cascade.held.Stores name id → visitMark name id ∈ cascade.visited
  settled_of_gone : ∀ name, ∀ record ∈ origin.records name, ∀ id, record.id? = some id →
    ¬ cascade.held.Stores name id →
      ∀ dependent ∈ graph.dependentsOf name, dependent.Clears → cascade.Settled record dependent

/-- What a part of a deletion does that starts at a record. -/
structure Progress (graph : ReferenceGraph) (origin : Collections) (source : String × Record)
    (before now : Cascade A) : Prop where
  visited : before.visited ⊆ now.visited
  descends : now.held.Descends graph before.held
  keeps_open : ∀ name id, before.held.Stores name id → visitMark name id ∈ before.visited →
    now.held.Stores name id
  closes_new : ∀ name id, now.held.Stores name id → visitMark name id ∈ now.visited →
    visitMark name id ∈ before.visited
  reaches : ∀ name, ∀ record ∈ origin.records name, ∀ id, record.id? = some id →
    visitMark name id ∈ now.visited → visitMark name id ∈ before.visited ∨
      Relation.ReflTransGen (graph.Takes origin) source (name, record)

theorem Settled.mono {record : Record} {dependent : Dependent} {before now : Cascade A}
    (settled : before.Settled record dependent)
    (descends : now.held.Descends graph before.held)
    (visited : before.visited ⊆ now.visited) : now.Settled record dependent := by
  intro value linked pointing member holds id isId
  obtain ⟨source, isSource, descended⟩ := descends.exists_before member
  have notNull := (Record.linked?_eq_some.1 linked).2
  exact visited (settled value linked source isSource (descended.holds notNull holds) id
    (descended.id?_eq ▸ isId))

namespace Progress

variable {before middle now : Cascade A}

theorem refl (graph : ReferenceGraph) (origin : Collections) (source : String × Record)
    (cascade : Cascade A) : Progress graph origin source cascade cascade :=
  ⟨List.Subset.refl _, .refl _, fun _ _ stored _ => stored, fun _ _ _ visited => visited,
    fun _ _ _ _ _ visited => .inl visited⟩

theorem trans (first : Progress graph origin source before middle)
    (second : Progress graph origin source middle now) :
    Progress graph origin source before now := by
  constructor
  case visited => exact List.Subset.trans first.visited second.visited
  case descends => exact second.descends.trans first.descends
  case keeps_open =>
      intro name id stored visited
      have inMiddle := first.keeps_open name id stored visited
      exact second.keeps_open name id inMiddle (first.visited visited)
  case closes_new =>
      intro name id stored visited
      have inMiddle := second.closes_new name id stored visited
      exact first.closes_new name id (second.descends.stores stored) inMiddle
  case reaches =>
      intro name record member id isId visited
      rcases second.reaches name record member id isId visited with earlier | reached
      · exact first.reaches name record member id isId earlier
      · exact .inr reached

/-- A part of the walk that starts at a record taken along belongs to the whole. -/
theorem of_takes {taken : String × Record} (takes : graph.Takes origin source taken)
    (progress : Progress graph origin taken before now) :
    Progress graph origin source before now :=
  { progress with
    reaches := fun name record member id isId visited =>
      (progress.reaches name record member id isId visited).imp_right fun reached =>
        .head takes reached }

end Progress

/-- A step that comes to no record and takes none away keeps the invariant. -/
theorem Inv.quiet {before now : Cascade A} (inv : Inv graph origin before)
    (descends : now.held.Descends graph before.held)
    (stores : ∀ name id, now.held.Stores name id ↔ before.held.Stores name id)
    (visited : now.visited = before.visited) :
    Inv graph origin now ∧ Progress graph origin source before now := by
  have goneBefore {name : String} {id : Json} (gone : ¬ now.held.Stores name id) :
      ¬ before.held.Stores name id :=
    fun stored => gone ((stores name id).2 stored)
  refine ⟨⟨descends.trans inv.descends, ?_, ?_⟩, ⟨by simp [visited], descends, ?_, ?_, ?_⟩⟩
  · intro name record member id isId gone
    rw [visited]
    exact inv.visited_of_gone name record member id isId (goneBefore gone)
  · intro name record member id isId gone dependent isDependent clears
    have settled := inv.settled_of_gone name record member id isId (goneBefore gone) dependent
      isDependent clears
    exact settled.mono descends (by simp [visited])
  · intro name id stored _
    exact (stores name id).2 stored
  · intro name id _ isVisited
    exact visited ▸ isVisited
  · intro name record _ id _ isVisited
    exact .inl (visited ▸ isVisited)

/-- A record that points at another one during a deletion did so before it. -/
theorem Inv.exists_origin {cascade : Cascade A} (inv : Inv graph origin cascade)
    {name field : String} {value id : Json} (notNull : value ≠ .null)
    (member : id ∈ (cascade.held.holding name field value).filterMap Record.id?) :
    ∃ record ∈ origin.records name, record.id? = some id ∧ record.holds field value = true := by
  obtain ⟨pointing, isPointing, isId⟩ := List.mem_filterMap.1 member
  obtain ⟨stored, holds⟩ := Collections.mem_holding.1 isPointing
  obtain ⟨record, isRecord, descended⟩ := inv.descends.exists_before stored
  exact ⟨record, isRecord, descended.id?_eq ▸ isId, descended.holds notNull holds⟩

/-- Among what is left, an id of the given collections finds its own record. -/
theorem Inv.id?_of_hasId {cascade : Cascade A} (inv : Inv graph origin cascade)
    (addressed : origin.Addressed) {name : String} {record found : Record} {id : Json}
    (member : record ∈ origin.records name) (isId : record.id? = some id)
    (isFound : found ∈ cascade.held.records name) (holds : found.hasId id = true) :
    found.id? = some id ∧ found.Descends graph name record := by
  obtain ⟨source, isSource, descended⟩ := inv.descends.exists_before isFound
  have sourceHolds : source.hasId id = true := by
    rw [Record.hasId, ← descended.id?_eq, ← Record.hasId, holds]
  obtain rfl := addressed.eq_of_hasId member isId isSource sourceHolds
  exact ⟨descended.id?_eq.trans isId, descended⟩

section Policies

variable {name : String} {record : Record} {dependent : Dependent}

/-- Only what pointed at a record before can point at it now. -/
theorem settled_of_pointing {before now : Cascade A} {value : Json}
    (linked : record.linked? dependent.key = some value)
    (descends : now.held.Descends graph before.held)
    (done : ∀ id ∈ (before.held.holding dependent.collection dependent.field value).filterMap
      Record.id?, ∀ pointing ∈ now.held.records dependent.collection,
        pointing.id? = some id → pointing.holds dependent.field value = true →
          visitMark dependent.collection id ∈ now.visited) :
    now.Settled record dependent := by
  intro other isOther pointing member holds id isId
  obtain rfl : value = other := by simpa [linked] using isOther
  obtain ⟨source, isSource, descended⟩ := descends.exists_before member
  have notNull := (Record.linked?_eq_some.1 linked).2
  have sourceHolds := Collections.mem_holding.2 ⟨isSource, descended.holds notNull holds⟩
  have isItem := List.mem_filterMap.2 ⟨source, sourceHolds, descended.id?_eq ▸ isId⟩
  exact done id isItem pointing member isId holds

variable [Adapter A] {rules : ReferenceRules} {delete : String → Json → Attempt (Cascade A) Bool}

/-- What a deletion of one record is to do: afterwards it has come to the record. -/
def Deletes (graph : ReferenceGraph) (origin : Collections)
    (delete : String → Json → Attempt (Cascade A) Bool) : Prop :=
  ∀ name, ∀ record ∈ origin.records name, ∀ id, record.id? = some id →
    ∀ before now answer, Inv graph origin before →
      (delete name id).outcome before = (.ok answer, now) →
        Inv graph origin now ∧ Progress graph origin (name, record) before now ∧
          visitMark name id ∈ now.visited

theorem setNull_ok {dependent : Dependent} {id : Json} {before now : Cascade A}
    (ran : (applyPolicy rules delete dependent .setNull id).outcome before = (.ok (), now)) :
    ∃ answer changed,
      Collections.update dependent.collection id [(dependent.field, .null)] before.held =
        .ok (answer, changed) ∧
      now.held = changed.getD before.held ∧ now.visited = before.visited := by
  obtain ⟨_, middle, set, done⟩ := Attempt.bind_ok_iff.1 ran
  obtain rfl : middle = now := congrArg Prod.snd done
  rw [onSpace, Attempt.onPart_outcome, Prod.mk.injEq] at set
  obtain ⟨answer, space, committed, rest⟩ := Attempt.bind_ok_iff.1 (Prod.ext set.1 rfl)
  have spaceIs : space = middle.space := by
    rw [← set.2]
    exact congrArg Prod.snd rest
  rw [Workspace.onStore, Attempt.onPart_outcome, Prod.mk.injEq] at committed
  obtain ⟨changed, updated, kept⟩ := Store.commit_ok (Prod.ext committed.1 rfl)
  refine ⟨answer, changed, updated, ?_, by rw [← set.2]⟩
  rw [held, ← spaceIs, ← committed.2]
  exact kept

theorem cascade_ok {dependent : Dependent} {id : Json} {before now : Cascade A}
    (ran : (applyPolicy rules delete dependent .cascade id).outcome before = (.ok (), now)) :
    ∃ answer, (delete dependent.collection id).outcome before = (.ok answer, now) := by
  obtain ⟨answer, middle, deleted, done⟩ := Attempt.bind_ok_iff.1 ran
  obtain rfl : middle = now := congrArg Prod.snd done
  exact ⟨answer, deleted⟩

/-- The records that point at one that goes are come to, where they go as well. -/
theorem cascadeAll_ok (deletes : Deletes rules.graph origin delete)
    {value : Json} (member : dependent ∈ rules.graph.dependentsOf name)
    (cascades : dependent.onDelete = some .cascade)
    (linked : record.linked? dependent.key = some value) {before now : Cascade A}
    (inv : Inv rules.graph origin before)
    (ran : (((before.held.holding dependent.collection dependent.field value).filterMap
      Record.id?).forM (applyPolicy rules delete dependent .cascade)).outcome before =
        (.ok (), now)) :
    Inv rules.graph origin now ∧ Progress rules.graph origin (name, record) before now ∧
      now.Settled record dependent := by
  obtain ⟨nowInv, progress, visited⟩ := Attempt.forM_ok
    (Inv rules.graph origin) (Progress rules.graph origin (name, record))
    (fun id cascade => visitMark dependent.collection id ∈ cascade.visited)
    (.refl _ _ _) (fun first second => first.trans second)
    (fun progress isVisited => progress.visited isVisited)
    (fun id isItem first second firstInv turn => by
      obtain ⟨answer, deleted⟩ := cascade_ok turn
      obtain ⟨target, isTarget, isId, holds⟩ :=
        inv.exists_origin (Record.linked?_eq_some.1 linked).2 isItem
      obtain ⟨secondInv, progress, isVisited⟩ :=
        deletes _ target isTarget id isId _ _ _ firstInv deleted
      have takes : rules.graph.Takes origin (name, record) (dependent.collection, target) :=
        ⟨isTarget, dependent, member, cascades, rfl, value, linked, holds⟩
      exact ⟨secondInv, progress.of_takes takes, isVisited⟩) inv ran
  exact ⟨nowInv, progress, settled_of_pointing linked progress.descends
    fun id isItem _ _ _ _ => visited id isItem⟩

/-- The records that point at one that goes point nowhere afterwards, where their
fields are set to null. -/
theorem setNullAll_ok (addressed : origin.Addressed) {value : Json}
    (member : dependent ∈ rules.graph.dependentsOf name)
    (nulls : dependent.onDelete = some .setNull)
    (linked : record.linked? dependent.key = some value) {before now : Cascade A}
    (inv : Inv rules.graph origin before)
    (ran : (((before.held.holding dependent.collection dependent.field value).filterMap
      Record.id?).forM (applyPolicy rules delete dependent .setNull)).outcome before =
        (.ok (), now)) :
    Inv rules.graph origin now ∧ Progress rules.graph origin (name, record) before now ∧
      (dependent.field ≠ idField → now.Settled record dependent) := by
  have notNull := (Record.linked?_eq_some.1 linked).2
  obtain ⟨nowInv, progress, nulled⟩ := Attempt.forM_ok
    (Inv rules.graph origin) (Progress rules.graph origin (name, record))
    (fun id cascade => dependent.field ≠ idField →
      ∀ pointing ∈ cascade.held.records dependent.collection, pointing.id? = some id →
        pointing.holds dependent.field value = false)
    (.refl _ _ _) (fun first second => first.trans second)
    (fun progress isNulled notId pointing isPointing isId => by
      obtain ⟨source, isSource, descended⟩ := progress.descends.exists_before isPointing
      refine Bool.eq_false_iff.2 fun holds => ?_
      have sourceHolds := descended.holds notNull holds
      rw [isNulled notId source isSource (descended.id?_eq ▸ isId)] at sourceHolds
      cases sourceHolds)
    (fun id isItem first second firstInv turn => by
      obtain ⟨answer, changed, updated, kept, visited⟩ := setNull_ok turn
      obtain ⟨target, isTarget, isId, -⟩ := inv.exists_origin notNull isItem
      have isNulls : rules.graph.Nulls dependent.collection dependent.field :=
        ⟨name, dependent, member, nulls, rfl, rfl⟩
      obtain ⟨descends, stores, gone⟩ :=
        (addressed.descend firstInv.descends).setNull isNulls
          (fun found isFound holds =>
            (firstInv.id?_of_hasId addressed isTarget isId isFound holds).1) updated
      rw [← kept] at descends stores gone
      obtain ⟨secondInv, progress⟩ := firstInv.quiet descends stores visited
      exact ⟨secondInv, progress, fun notId pointing isPointing isId =>
        gone notId pointing isPointing isId value notNull⟩) inv ran
  refine ⟨nowInv, progress, fun notId => settled_of_pointing linked progress.descends ?_⟩
  intro id isItem pointing isPointing isId holds
  rw [nulled id isItem notId pointing isPointing isId] at holds
  cases holds

/-- Where a restriction is all that a policy asks for, nothing is done. -/
theorem restrictAll_ok {ids : List Json} {before now : Cascade A}
    (ran : (ids.forM (applyPolicy rules delete dependent .restrict)).outcome before =
      (.ok (), now)) : now = before := by
  refine (Attempt.forM_ok (fun cascade => cascade = before) (fun _ _ => True) (fun _ _ => True)
    (fun _ => trivial) (fun _ _ => trivial) (fun _ _ => trivial)
    (fun _ _ _ _ isBefore turn => ?_) rfl ran).1
  exact ⟨(congrArg Prod.snd turn).symm.trans isBefore, trivial, trivial⟩

/-- The policy of one dependent settles it, if a restriction was settled before. -/
theorem applyDependent_ok (addressed : origin.Addressed) (keeps : rules.graph.KeepsKeys)
    (deletes : Deletes rules.graph origin delete) {current : Record}
    (descended : current.Descends rules.graph name record)
    (member : dependent ∈ rules.graph.dependentsOf name) {before now : Cascade A}
    (restricted : dependent.onDelete = some .restrict → before.Settled record dependent)
    (inv : Inv rules.graph origin before)
    (ran : (applyDependent rules delete current dependent).outcome before = (.ok (), now)) :
    Inv rules.graph origin now ∧ Progress rules.graph origin (name, record) before now ∧
      (dependent.Clears → now.Settled record dependent) := by
  have linked_eq := descended.linked?_eq (keeps.not_nulls member)
  unfold applyDependent at ran
  rw [linked_eq] at ran
  cases action : dependent.onDelete with
  | none =>
      rw [action] at ran
      obtain rfl : before = now := congrArg Prod.snd ran
      exact ⟨inv, .refl _ _ _ _, fun clears => absurd action clears.1⟩
  | some policy =>
      rw [action] at ran
      cases linked : record.linked? dependent.key with
      | none =>
          rw [linked] at ran
          obtain rfl : before = now := congrArg Prod.snd ran
          exact ⟨inv, .refl _ _ _ _, fun _ value isLinked => by simp [linked] at isLinked⟩
      | some value =>
          rw [linked] at ran
          obtain ⟨snapshot, middle, read, ran⟩ := Attempt.bind_ok_iff.1 ran
          obtain ⟨rfl, rfl⟩ : before.held = snapshot ∧ before = middle :=
            ⟨Except.ok.inj (congrArg Prod.fst read), congrArg Prod.snd read⟩
          cases policy with
          | cascade =>
              obtain ⟨nowInv, progress, settled⟩ :=
                cascadeAll_ok deletes member action linked inv ran
              exact ⟨nowInv, progress, fun _ => settled⟩
          | setNull =>
              obtain ⟨nowInv, progress, settled⟩ :=
                setNullAll_ok addressed member action linked inv ran
              exact ⟨nowInv, progress, fun clears =>
                settled fun isId => clears.2 ⟨action, isId⟩⟩
          | setDefault => exact absurd action (keeps.noDefault name dependent member)
          | restrict =>
              obtain rfl := restrictAll_ok ran
              exact ⟨inv, .refl _ _ _ _, fun _ => restricted action⟩

/-- After the policies of all dependents, nothing points at the record that goes but
what has been come to. -/
theorem applyPolicies_ok (addressed : origin.Addressed) (keeps : rules.graph.KeepsKeys)
    (deletes : Deletes rules.graph origin delete) {current : Record}
    (descended : current.Descends rules.graph name record) {before now : Cascade A}
    (restricted : ∀ dependent ∈ rules.graph.dependentsOf name,
      dependent.onDelete = some .restrict → before.Settled record dependent)
    (inv : Inv rules.graph origin before)
    (ran : (applyPolicies rules delete name current).outcome before = (.ok (), now)) :
    Inv rules.graph origin now ∧ Progress rules.graph origin (name, record) before now ∧
      ∀ dependent ∈ rules.graph.dependentsOf name, dependent.Clears →
        now.Settled record dependent := by
  obtain ⟨⟨nowInv, progress⟩, -, settled⟩ := Attempt.forM_ok
    (fun cascade => Inv rules.graph origin cascade ∧
      Progress rules.graph origin (name, record) before cascade)
    (Progress rules.graph origin (name, record))
    (fun dependent cascade => dependent.Clears → cascade.Settled record dependent)
    (.refl _ _ _) (fun first second => first.trans second)
    (fun progress settled clears => (settled clears).mono progress.descends progress.visited)
    (fun dependent member first second good turn => by
      obtain ⟨firstInv, led⟩ := good
      obtain ⟨secondInv, progress, settled⟩ :=
        applyDependent_ok addressed keeps deletes descended member
          (fun restricts => (restricted dependent member restricts).mono led.descends led.visited)
          firstInv turn
      exact ⟨⟨secondInv, led.trans progress⟩, progress, settled⟩)
    ⟨inv, .refl _ _ _ before⟩ ran
  exact ⟨nowInv, progress, settled⟩

end Policies

theorem Inv.opened {cascade : Cascade A} (inv : Inv graph origin cascade) (mark : String) :
    Inv graph origin (cascade.opened mark) := by
  refine ⟨inv.descends, ?_, ?_⟩
  · intro name record member id isId gone
    exact List.mem_cons_of_mem _ (inv.visited_of_gone name record member id isId gone)
  · intro name record member id isId gone dependent isDependent clears
    have settled := inv.settled_of_gone name record member id isId gone dependent isDependent
      clears
    have descends : (cascade.opened mark).held.Descends graph cascade.held := .refl _
    exact settled.mono descends (List.subset_cons_self _ _)

theorem settled_of_restricting {record current : Record} {name : String} {cascade : Cascade A}
    (keeps : graph.KeepsKeys) (descended : current.Descends graph name record)
    (free : graph.restricting cascade.held name current = none) :
    ∀ dependent ∈ graph.dependentsOf name, dependent.onDelete = some .restrict →
      cascade.Settled record dependent := by
  intro dependent member restricts value linked pointing isPointing holds
  have blocked := List.find?_eq_none.1 free dependent member
  rw [restricts, descended.linked?_eq (keeps.not_nulls member), linked] at blocked
  have nonempty := List.ne_nil_of_mem (Collections.mem_holding.2 ⟨isPointing, holds⟩)
  simp [nonempty] at blocked

/-- The way back: the record that was noted is gone, and all that pointed at it is
settled. -/
theorem Inv.close {before middle now : Cascade A} {name : String} {record : Record} {id : Json}
    (addressed : origin.Addressed) (member : record ∈ origin.records name)
    (isId : record.id? = some id) (new : visitMark name id ∉ before.visited)
    (inv : Inv graph origin middle)
    (progress : Progress graph origin (name, record) (before.opened (visitMark name id)) middle)
    (settled : ∀ dependent ∈ graph.dependentsOf name, dependent.Clears →
      middle.Settled record dependent)
    (descends : now.held.Descends graph middle.held)
    (stores : ∀ other otherId, now.held.Stores other otherId ↔
      middle.held.Stores other otherId ∧ ¬ (other = name ∧ otherId = id))
    (visited : now.visited = middle.visited) :
    Inv graph origin now ∧ Progress graph origin (name, record) before now ∧
      visitMark name id ∈ now.visited := by
  have isVisited : visitMark name id ∈ now.visited :=
    visited ▸ progress.visited List.mem_cons_self
  have visitedSubset : middle.visited ⊆ now.visited := by simp [visited]
  have stored : origin.Stores name id := ⟨record, member, isId⟩
  have goneBefore {other : String} {otherId : Json} (gone : ¬ now.held.Stores other otherId)
      (different : ¬ (other = name ∧ otherId = id)) : ¬ middle.held.Stores other otherId :=
    fun still => gone ((stores other otherId).2 ⟨still, different⟩)
  refine ⟨⟨descends.trans inv.descends, ?_, ?_⟩,
    ⟨?_, descends.trans progress.descends, ?_, ?_, ?_⟩, isVisited⟩
  · intro other otherRecord isStored otherId isOther gone
    by_cases same : other = name ∧ otherId = id
    · obtain ⟨rfl, rfl⟩ := same
      exact isVisited
    · apply visitedSubset
      exact inv.visited_of_gone other otherRecord isStored otherId isOther (goneBefore gone same)
  · intro other otherRecord isStored otherId isOther gone dependent isDependent clears
    by_cases same : other = name ∧ otherId = id
    · obtain ⟨rfl, rfl⟩ := same
      obtain rfl := addressed.eq_of_id? member isId isStored isOther
      exact (settled dependent isDependent clears).mono descends visitedSubset
    · have settledBefore := inv.settled_of_gone other otherRecord isStored otherId isOther
        (goneBefore gone same) dependent isDependent clears
      exact settledBefore.mono descends visitedSubset
  · intro mark isMark
    exact visitedSubset (progress.visited (List.mem_cons_of_mem _ isMark))
  · intro other otherId isStored isMark
    have still := progress.keeps_open other otherId isStored (List.mem_cons_of_mem _ isMark)
    refine (stores other otherId).2 ⟨still, ?_⟩
    rintro ⟨rfl, rfl⟩
    exact new isMark
  · intro other otherId isStored isMark
    obtain ⟨still, different⟩ := (stores other otherId).1 isStored
    rcases List.mem_cons.1 (progress.closes_new other otherId still (visited ▸ isMark)) with
      same | earlier
    · exact absurd (addressed.eq_of_visitMark stored (inv.descends.stores still) same) different
    · exact earlier
  · intro other otherRecord isStored otherId isOther isMark
    rcases progress.reaches other otherRecord isStored otherId isOther (visited ▸ isMark) with
      isOpen | reached
    · rcases List.mem_cons.1 isOpen with same | earlier
      · obtain ⟨rfl, rfl⟩ :=
          addressed.eq_of_visitMark stored ⟨otherRecord, isStored, isOther⟩ same
        obtain rfl := addressed.eq_of_id? member isId isStored isOther
        exact .inr .refl
      · exact .inl earlier
    · exact .inr reached

section Deletion

variable [Adapter A]

/-- A deletion that succeeds keeps the invariant, makes progress, and has come to its
record, at any depth. -/
theorem deleteWithin_deletes (rules : ReferenceRules) (addressed : origin.Addressed)
    (keeps : rules.graph.KeepsKeys) (depth : Nat) :
    Deletes rules.graph origin (deleteWithin (A := A) rules depth) := by
  induction depth with
  | zero =>
      intro name record member id isId before now answer inv ran
      cases congrArg Prod.fst ran
  | succ depth ih =>
      intro name record member id isId before now answer inv ran
      have outcome := deleteWithin_outcome rules depth name id before
      generalize (deleteWithin rules (depth + 1) name id).outcome before = out at outcome ran
      cases outcome with
      | missing absent =>
          obtain rfl : before = now := congrArg Prod.snd ran
          refine ⟨inv, .refl _ _ _ _, inv.visited_of_gone name record member id isId ?_⟩
          rintro ⟨stored, isStored, storedId⟩
          have holds := (addressed.descend inv.descends).hasId isStored storedId
          rw [Collections.find?_eq_none.1 absent stored isStored] at holds
          cases holds
      | again visited =>
          obtain rfl : before = now := congrArg Prod.snd ran
          exact ⟨inv, .refl _ _ _ _, visited⟩
      | restricted => cases congrArg Prod.fst ran
      | @followed current found new free =>
          obtain ⟨isStored, holds⟩ := Collections.mem_of_find? found
          obtain ⟨-, descended⟩ := inv.id?_of_hasId addressed member isId isStored holds
          obtain ⟨_, middle, applied, removing⟩ := Attempt.bind_ok_iff.1 ran
          have openedInv := inv.opened (visitMark name id)
          have restricted : ∀ dependent ∈ rules.graph.dependentsOf name,
              dependent.onDelete = some .restrict →
                (before.opened (visitMark name id)).Settled record dependent :=
            settled_of_restricting keeps descended free
          obtain ⟨middleInv, progress, settled⟩ :=
            applyPolicies_ok addressed keeps ih descended restricted openedInv applied
          obtain ⟨last, isLast, lastId⟩ := progress.keeps_open name id
            ⟨current, isStored, descended.id?_eq.trans isId⟩ List.mem_cons_self
          obtain ⟨left, removed, descends, stores⟩ :=
            (addressed.descend middleInv.descends).remove rules.graph isLast lastId
          obtain ⟨changed, isRemoved, kept, visited⟩ := remove_ok removing
          obtain ⟨-, rfl⟩ : true = answer ∧ some left = changed := by
            simpa [removed, eq_comm] using isRemoved
          rw [Option.getD_some] at kept
          rw [← kept] at descends stores
          exact middleInv.close addressed member isId new progress settled descends stores
            visited

end Deletion

end Cascade

end DocStore
