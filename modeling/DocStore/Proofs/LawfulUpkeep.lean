import DocStore.Proofs.DeletionSteps
import DocStore.Proofs.KeyChangePlans

/-!
# Unique ids under the upkeep of references

Deletions along references and changes of keys leave a lawful map of collections
lawful, whether they succeed, are refused or cannot be saved.  They reach the
collections through updates and removals only.
-/

namespace DocStore

/-- Whether every default of a dependent's field is a value with distinct names. -/
def ReferenceRules.DefaultsDistinct (rules : ReferenceRules) : Prop :=
  ∀ collection schema name field supply, rules.registry.find? collection = some schema →
    Fields.get? name schema.fields = some field →
    (field.defaultOrNull supply).1.DistinctNames

/-- Fields without defaults have `null` as theirs. -/
theorem ReferenceRules.defaultsDistinct_of_none {rules : ReferenceRules}
    (none : ∀ entry ∈ rules.registry.schemas.entries, ∀ field ∈ entry.2.fields,
      field.2.rules.default.isNone = true) : rules.DefaultsDistinct := by
  intro collection schema name field supply known declared
  have noDefault := none _ (SortedMap.get?_eq_some_iff.1 known) _ (Fields.mem_of_get? declared)
  rw [Field.defaultOrNull, Option.isNone_iff_eq_none.1 noDefault]
  trivial

theorem ReferenceGraph.distinctNames_keyChanges {graph : ReferenceGraph} {collection : String}
    {old new : Record} {change : KeyChange} (distinct : (Json.object new).DistinctNames)
    (member : change ∈ graph.keyChanges collection old new) : change.new.DistinctNames := by
  rw [(mem_keyChanges member).2]
  cases found : Fields.get? change.dependent.key new with
  | none => trivial
  | some value => exact distinct.get? found

namespace Store

variable {A : Type} [Adapter A] {α : Type}

theorem commit_keeps {property : Collections → Prop} {edit : Edit α}
    (keeps : ∀ collections, property collections → property (Edit.applied edit collections)) :
    (commit (A := A) edit).Keeps (property ·.collections) := by
  intro store holds
  rw [commit_collections]
  exact keeps _ holds

end Store

namespace Workspace

variable {A : Type} {rules : ReferenceRules}

/-- Whether the store of a workspace holds lawful collections. -/
def Lawful (space : Workspace A) : Prop :=
  space.store.collections.Lawful

theorem defaultFor_keeps_lawful (dependent : Dependent) :
    (defaultFor (A := A) rules dependent).Keeps Lawful := by
  unfold defaultFor
  split
  · exact fun _ lawful => lawful
  · exact fun _ lawful => lawful

theorem defaultFor_distinct (distinct : rules.DefaultsDistinct) {dependent : Dependent}
    {space after : Workspace A} {value : Json}
    (made : (defaultFor rules dependent).outcome space = (.ok value, after)) :
    value.DistinctNames := by
  unfold defaultFor at made
  split at made
  · rename_i field found
    obtain ⟨schema, known, declared⟩ := Option.bind_eq_some_iff.1 found
    have drawn : (.ok (field.defaultOrNull space.supply).1 : Except Failure Json) = .ok value :=
      congrArg Prod.fst made
    exact Except.ok.inj drawn ▸ distinct _ schema _ field space.supply known declared
  · obtain rfl : Json.null = value := Except.ok.inj (congrArg Prod.fst made)
    trivial

variable [Adapter A]

theorem onStore_keeps_lawful {α : Type} {edit : Edit α}
    (keeps : ∀ collections : Collections, collections.Lawful →
      (Edit.applied edit collections).Lawful) :
    (onStore (A := A) (Store.commit edit)).Keeps Lawful :=
  (Store.commit_keeps keeps).onPart (fun _ lawful => lawful) fun _ _ _ lawful => lawful

theorem setField_keeps_lawful (dependent : Dependent) {id value : Json}
    (idDistinct : id.DistinctNames) (distinct : value.DistinctNames) :
    (setField (A := A) dependent id value).Keeps Lawful := by
  refine Attempt.Keeps.bind (onStore_keeps_lawful fun collections lawful => ?_)
    fun _ _ _ _ _ => Attempt.keeps_of_stays fun _ => rfl
  refine Collections.lawful_update lawful _ idDistinct (Json.distinctNames_object.2 ⟨by simp, ?_⟩)
  intro name held member
  rw [List.mem_singleton, Prod.mk.injEq] at member
  exact member.2 ▸ distinct

end Workspace

namespace Cascade

variable {A : Type} {rules : ReferenceRules}

/-- Whether a cascade works on lawful collections. -/
def Lawful (cascade : Cascade A) : Prop :=
  cascade.space.Lawful

theorem onSpace_keeps_lawful {α : Type} {attempt : Attempt (Workspace A) α}
    (keeps : attempt.Keeps Workspace.Lawful) : (onSpace attempt).Keeps Lawful :=
  keeps.onPart (fun _ lawful => lawful) fun _ _ _ lawful => lawful

variable [Adapter A]

theorem lawful_keptBySteps (defaults : rules.DefaultsDistinct) :
    KeptBySteps rules (fun _ id => id.DistinctNames) (fun _ id => id.DistinctNames)
      (Lawful (A := A)) where
  stored lawful isStored := by
    obtain ⟨record, member, isId⟩ := isStored
    exact Record.distinctNames_id? (lawful.distinctNames _ record member) isId
  takes _ distinct := distinct
  visits lawful _ _ := lawful
  draws _ lawful := lawful
  sets {dependent id value} gives idDistinct := by
    apply onSpace_keeps_lawful (Workspace.setField_keeps_lawful dependent idDistinct ?_)
    cases gives with
    | null => trivial
    | drawn _ _ draws => exact Workspace.defaultFor_distinct defaults draws
  removes {_ name id} _ _ _ :=
    onSpace_keeps_lawful (Workspace.onStore_keeps_lawful fun _ lawful =>
      Collections.lawful_remove lawful name id)

end Cascade

namespace Workspace

variable {A : Type} {rules : ReferenceRules}

theorem cascading_keeps_lawful {α : Type} (visited : List String)
    {attempt : Attempt (Cascade A) α} (keeps : attempt.Keeps Cascade.Lawful) :
    (cascading visited attempt).Keeps Lawful :=
  fun space lawful => keeps ⟨space, visited⟩ lawful

variable [Adapter A]

theorem deleteWithin_keeps_lawful (defaults : rules.DefaultsDistinct)
    (bound : Collections → Nat) (collection : String) {id : Json} (distinct : id.DistinctNames) :
    (deleteWithin (A := A) rules bound collection id).Keeps Lawful :=
  Attempt.keeps_get_bind fun space lawful =>
    cascading_keeps_lawful [] ((Cascade.lawful_keptBySteps defaults).deleteWithin
      (bound space.store.collections) collection id distinct) space lawful

theorem applyDeletePoliciesWithin_keeps_lawful (defaults : rules.DefaultsDistinct)
    (bound : Collections → Nat) (collection : String) (id : Json) :
    (applyDeletePoliciesWithin (A := A) rules bound collection id).Keeps Lawful := by
  refine Attempt.keeps_get_bind fun space lawful => ?_
  simp only
  split
  · exact lawful
  · have steps := Cascade.lawful_keptBySteps (A := A) defaults
    exact cascading_keeps_lawful _ (steps.applyPolicies
      (steps.deleteWithin (bound space.store.collections)) collection _) space lawful

theorem followOne_keeps_lawful (defaults : rules.DefaultsDistinct) {group : Followers}
    (newDistinct : group.change.new.DistinctNames) {id : Json} (idDistinct : id.DistinctNames) :
    (followOne (A := A) rules group id).Keeps Lawful := by
  have valueKeeps : (followingValue (A := A) rules group.change group.action).Keeps Lawful := by
    cases group.action with
    | setDefault =>
        exact (defaultFor_keeps_lawful _).bind fun _ _ _ _ _ =>
          Attempt.keeps_of_stays fun _ => rfl
    | _ => exact Attempt.keeps_of_stays fun _ => rfl
  refine valueKeeps.bind fun space given middle _ made => ?_
  cases given with
  | none => exact Attempt.keeps_of_stays fun _ => rfl
  | some value =>
      have distinct : value.DistinctNames := by
        cases action : group.action with
        | cascade =>
            rw [action] at made
            obtain rfl := Option.some.inj (Except.ok.inj (congrArg Prod.fst made))
            exact newDistinct
        | setNull =>
            rw [action] at made
            obtain rfl := Option.some.inj (Except.ok.inj (congrArg Prod.fst made))
            trivial
        | setDefault =>
            rw [action] at made
            obtain ⟨drawn, after, drew, rest⟩ := Attempt.bind_ok_iff.1 made
            obtain rfl := Option.some.inj (Except.ok.inj (congrArg Prod.fst rest))
            exact defaultFor_distinct defaults drew
        | restrict =>
            rw [action] at made
            cases Except.ok.inj (congrArg Prod.fst made)
      exact (setField_keeps_lawful _ idDistinct distinct).bind fun _ _ _ _ _ =>
        Attempt.keeps_of_stays fun _ => rfl

theorem followChanges_keeps_lawful (defaults : rules.DefaultsDistinct)
    {changes : List KeyChange} (newDistinct : ∀ change ∈ changes, change.new.DistinctNames) :
    (followChanges (A := A) rules changes).Keeps Lawful := by
  refine Attempt.keeps_get_bind fun space lawful => ?_
  cases planned : KeyChange.plan space.store.collections [] changes with
  | error failure => exact lawful
  | ok groups =>
      refine Attempt.keeps_foldlM groups _ 0 (fun group member count => ?_) space lawful
      obtain ⟨-, decides, -, matching⟩ := KeyChange.mem_plan planned member
      refine Attempt.keeps_foldlM _ _ count fun id isId total => ?_
      obtain ⟨follower, holds, own⟩ := List.mem_filterMap.1 isId
      rw [matching] at holds
      have idDistinct : id.DistinctNames := Record.distinctNames_id?
        (lawful.distinctNames _ follower (Collections.mem_holding.1 holds).1) own
      exact (followOne_keeps_lawful defaults (newDistinct _ decides.mem) idDistinct).bind
        fun _ _ _ _ _ => Attempt.keeps_of_stays fun _ => rfl

theorem followIdChange_keeps_lawful (defaults : rules.DefaultsDistinct) (collection : String)
    (old : Json) {new : Json} (newDistinct : new.DistinctNames) :
    (followIdChange (A := A) rules collection old new).Keeps Lawful := by
  refine followChanges_keeps_lawful defaults fun change member => ?_
  obtain ⟨dependent, -, rfl⟩ := List.mem_map.1 member
  exact newDistinct

theorem followKeyChanges_keeps_lawful (defaults : rules.DefaultsDistinct)
    (collection : String) (old : Record) {new : Record}
    (newDistinct : (Json.object new).DistinctNames) :
    (followKeyChanges (A := A) rules collection old new).Keeps Lawful :=
  followChanges_keeps_lawful defaults fun _ member =>
    ReferenceGraph.distinctNames_keyChanges newDistinct member

end Workspace

end DocStore
