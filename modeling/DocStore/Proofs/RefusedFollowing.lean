import DocStore.Proofs.Edits
import DocStore.Proofs.KeyChangePlans

/-!
# Refusals of key changes

Of the steps that make records follow a change, only the plan refuses it for the
references to it, and it does so before the first record is changed.  All other
failures are those of storage or of ids that are taken.
-/

namespace DocStore

/-- Whether a change is refused for what the record holds or for the references to
it. -/
def Failure.IsRefusal : Failure → Prop
  | .invalid _ => True
  | .referenced _ => True
  | _ => False

namespace Collections

variable {collections : Collections} {name : String} {id : Json}

/-- A replacement fails only for a new id that is taken. -/
theorem replace_error {record : Record} {failure : Failure}
    (failed : replace name id record collections = .error failure) :
    ¬ failure.IsRefusal := by
  have outcome := amend_outcome collections name id fun _ => record
  unfold replace at failed
  rw [failed] at outcome
  cases outcome
  exact fun refusal => refusal

end Collections

namespace Workspace

variable {A : Type}

theorem defaultFor_fails (rules : ReferenceRules) (dependent : Dependent) :
    (defaultFor (A := A) rules dependent).FailsOnly (¬ ·.IsRefusal) := by
  unfold defaultFor
  split
  · rename_i field _
    exact Attempt.failsOnly_of_ok (fun space => (field.defaultOrNull space.supply).1)
      fun _ => rfl
  · exact Attempt.failsOnly_of_ok (fun _ => .null) fun _ => rfl

/-- The check before a change fails exactly if a restriction stands against it. -/
theorem checkKeyChanges_outcome (rules : ReferenceRules) (collection : String)
    (old new : Record) (space : Workspace A) :
    ((∃ change, KeyChange.Forbidden space.store.collections
        (rules.graph.keyChanges collection old new) change) ∧
      ∃ problem, (checkKeyChanges rules collection old new).outcome space =
        (.error (.referenced problem), space)) ∨
    ((∀ change, ¬ KeyChange.Forbidden space.store.collections
        (rules.graph.keyChanges collection old new) change) ∧
      (checkKeyChanges rules collection old new).outcome space = (.ok (), space)) := by
  have planned := KeyChange.plan_error_iff space.store.collections []
    (rules.graph.keyChanges collection old new)
  have outcome : (checkKeyChanges rules collection old new).outcome space =
      ((KeyChange.plan space.store.collections []
        (rules.graph.keyChanges collection old new)).map fun _ => (), space) := by
    unfold checkKeyChanges
    rw [Attempt.get_bind_outcome, Attempt.bind_outcome, Attempt.ofResult_outcome]
    cases KeyChange.plan space.store.collections []
      (rules.graph.keyChanges collection old new) <;> rfl
  rw [outcome]
  cases result : KeyChange.plan space.store.collections []
      (rules.graph.keyChanges collection old new) with
  | error failure =>
      obtain ⟨change, -, forbidden⟩ := planned.1 ⟨failure, result⟩
      obtain ⟨problem, rfl⟩ := KeyChange.plan_error result
      exact .inl ⟨⟨change, forbidden⟩, problem, rfl⟩
  | ok groups =>
      refine .inr ⟨fun change forbidden => ?_, rfl⟩
      obtain ⟨failure, failed⟩ := planned.2 ⟨change, by simp, forbidden⟩
      simp [result] at failed

variable [Adapter A]

theorem commit_fails {α : Type} {edit : Edit α}
    (editFails : ∀ collections failure, edit collections = .error failure → ¬ failure.IsRefusal) :
    (Store.commit (A := A) edit).FailsOnly (¬ ·.IsRefusal) := by
  intro store failure after failed
  rcases Store.commit_error failed with ⟨refused, -⟩ | ⟨problem, rfl⟩
  · exact editFails _ failure refused
  · exact fun refusal => refusal

theorem setField_fails (dependent : Dependent) (id value : Json) :
    (setField (A := A) dependent id value).FailsOnly (¬ ·.IsRefusal) := by
  refine Attempt.FailsOnly.bind (Attempt.FailsOnly.onPart (commit_fails ?_)) fun changed =>
    Attempt.failsOnly_of_ok (fun _ => changed.isSome) fun _ => rfl
  intro collections failure failed
  have outcome := Collections.amend_outcome collections dependent.collection id
    (·.putAll [(dependent.field, value)])
  unfold Collections.update at failed
  rw [failed] at outcome
  cases outcome
  exact fun refusal => refusal

theorem followOne_fails (rules : ReferenceRules) (group : Followers) (id : Json) :
    (followOne (A := A) rules group id).FailsOnly (¬ ·.IsRefusal) := by
  have valueFails : (followingValue (A := A) rules group.change group.action).FailsOnly
      (¬ ·.IsRefusal) := by
    cases group.action with
    | cascade => exact Attempt.failsOnly_of_ok (fun _ => some group.change.new) fun _ => rfl
    | setNull => exact Attempt.failsOnly_of_ok (fun _ => some .null) fun _ => rfl
    | setDefault =>
        exact (defaultFor_fails rules _).bind fun value =>
          Attempt.failsOnly_of_ok (fun _ => some value) fun _ => rfl
    | restrict => exact Attempt.failsOnly_of_ok (fun _ => none) fun _ => rfl
  refine valueFails.bind fun given => ?_
  cases given with
  | none => exact Attempt.failsOnly_of_ok (fun _ => 0) fun _ => rfl
  | some value =>
      exact (setField_fails _ id value).bind fun changed =>
        Attempt.failsOnly_of_ok (fun _ => if changed then 1 else 0) fun _ => rfl

theorem followAll_fails (rules : ReferenceRules) (groups : List Followers) :
    (followAll (A := A) rules groups).FailsOnly (¬ ·.IsRefusal) :=
  Attempt.failsOnly_foldlM _ _ _ fun _ group =>
    Attempt.failsOnly_foldlM _ _ _ fun total id =>
      (followOne_fails rules group id).bind fun followed =>
        Attempt.failsOnly_of_ok (fun _ => total + followed) fun _ => rfl

/-- Following is refused only by its plan, before any record is changed. -/
theorem followChanges_refused {rules : ReferenceRules} {changes : List KeyChange}
    {space after : Workspace A} {failure : Failure}
    (failed : (followChanges rules changes).outcome space = (.error failure, after))
    (refusal : failure.IsRefusal) :
    (∃ change, KeyChange.Forbidden space.store.collections changes change) ∧ after = space := by
  unfold followChanges at failed
  rw [Attempt.get_bind_outcome] at failed
  rcases Attempt.bind_error_iff.1 failed with planFailed | ⟨groups, middle, -, followFailed⟩
  · rw [Attempt.ofResult_outcome, Prod.mk.injEq] at planFailed
    obtain ⟨change, -, forbidden⟩ :=
      (KeyChange.plan_error_iff _ _ _).1 ⟨failure, planFailed.1⟩
    exact ⟨⟨change, forbidden⟩, planFailed.2.symm⟩
  · exact absurd refusal (followAll_fails rules groups middle failure after followFailed)

end Workspace

end DocStore
