import DocStore.Proofs.ChangeRefusal
import DocStore.Proofs.DeletionSteps

/-!
# What every commit keeps

Deletions, changes of keys and the operations of a database reach a store by commits
only.  A property of stores that every commit keeps outlives all of them, also where
they stop half way.
-/

namespace DocStore

open Attempt

/-- Whether every commit leaves a property of stores true, whatever its outcome. -/
def Store.KeptByCommits {A : Type} [Adapter A] (property : Store A → Prop) : Prop :=
  ∀ {α : Type} (edit : Edit α), (Store.commit edit).Keeps property

namespace Workspace

variable {A α : Type} {property : Store A → Prop} (rules : ReferenceRules)

theorem onStore_keeps {attempt : Attempt (Store A) α} (keeps : attempt.Keeps property) :
    (onStore attempt).Keeps (property ·.store) :=
  keeps.onPart (fun _ holds => holds) fun _ _ _ holds => holds

theorem defaultFor_keeps (dependent : Dependent) :
    (defaultFor rules dependent).Keeps (property ·.store) := by
  unfold defaultFor
  split
  · exact fun _ holds => holds
  · exact fun _ holds => holds

theorem followingValue_keeps (change : KeyChange) (action : ReferenceAction) :
    (followingValue rules change action).Keeps (property ·.store) := by
  cases action with
  | setDefault =>
      exact (defaultFor_keeps rules change.dependent).bind fun _ _ _ _ _ =>
        keeps_of_stays fun _ => rfl
  | _ => exact keeps_of_stays fun _ => rfl

theorem checkKeyChanges_keeps (collection : String) (old new : Record) :
    (checkKeyChanges rules collection old new).Keeps (property ·.store) := by
  refine keeps_get_bind fun space holds => ?_
  have planned : (Attempt.ofResult (σ := Workspace A) (KeyChange.plan
      space.store.collections [] (rules.graph.keyChanges collection old new))).Keeps
        (property ·.store) :=
    keeps_of_stays fun _ => rfl
  exact planned.bind (fun _ _ _ _ _ => keeps_of_stays fun _ => rfl) space holds

variable [Adapter A]

theorem setField_keeps (commits : Store.KeptByCommits property) (dependent : Dependent)
    (id value : Json) : (setField dependent id value).Keeps (property ·.store) := by
  have committed := onStore_keeps
    (commits (Collections.update dependent.collection id [(dependent.field, value)]))
  exact committed.bind fun _ _ _ _ _ => keeps_of_stays fun _ => rfl

theorem followOne_keeps (commits : Store.KeptByCommits property) (group : Followers)
    (id : Json) : (followOne rules group id).Keeps (property ·.store) := by
  refine (followingValue_keeps rules group.change group.action).bind fun _ given _ _ _ => ?_
  cases given with
  | none => exact keeps_of_stays fun _ => rfl
  | some value =>
      exact (setField_keeps commits group.change.dependent id value).bind fun _ _ _ _ _ =>
        keeps_of_stays fun _ => rfl

theorem followChanges_keeps (commits : Store.KeptByCommits property)
    (changes : List KeyChange) : (followChanges rules changes).Keeps (property ·.store) := by
  refine keeps_get_bind fun space holds => ?_
  have planned : (Attempt.ofResult (σ := Workspace A)
      (KeyChange.plan space.store.collections [] changes)).Keeps (property ·.store) :=
    keeps_of_stays fun _ => rfl
  refine planned.bind (fun _ groups _ _ _ => ?_) space holds
  refine keeps_foldlM groups _ 0 fun group _ count => ?_
  refine keeps_foldlM _ _ count fun id _ total => ?_
  exact (followOne_keeps rules commits group id).bind fun _ _ _ _ _ => keeps_of_stays fun _ => rfl

end Workspace

namespace Cascade

variable {A α : Type} {property : Store A → Prop} (rules : ReferenceRules)

theorem onSpace_keeps {attempt : Attempt (Workspace A) α}
    (keeps : attempt.Keeps (property ·.store)) :
    (onSpace attempt).Keeps (property ·.space.store) :=
  keeps.onPart (fun _ holds => holds) fun _ _ _ holds => holds

variable [Adapter A]

theorem keptBySteps_of_commits (commits : Store.KeptByCommits property) :
    KeptBySteps rules (fun _ _ => True) (fun _ _ => True)
      (fun cascade : Cascade A => property cascade.space.store) where
  stored _ _ := trivial
  takes _ _ := trivial
  visits holds _ _ := holds
  draws _ holds := holds
  sets _ _ := onSpace_keeps (Workspace.setField_keeps commits _ _ _)
  removes _ _ _ := onSpace_keeps (Workspace.onStore_keeps (commits _))

end Cascade

namespace Workspace

variable {A : Type} [Adapter A] {property : Store A → Prop} (rules : ReferenceRules)

theorem deleteWithin_keeps (commits : Store.KeptByCommits property) (bound : Collections → Nat)
    (collection : String) (id : Json) :
    (deleteWithin rules bound collection id).Keeps (property ·.store) :=
  keeps_get_bind fun space holds =>
    (Cascade.keptBySteps_of_commits rules commits).deleteWithin
      (bound space.store.collections) collection id trivial ⟨space, []⟩ holds

theorem applyDeletePoliciesWithin_keeps (commits : Store.KeptByCommits property)
    (bound : Collections → Nat) (collection : String) (id : Json) :
    (applyDeletePoliciesWithin rules bound collection id).Keeps (property ·.store) := by
  refine keeps_get_bind fun space holds => ?_
  simp only
  split
  · exact holds
  · rename_i record _
    have steps := Cascade.keptBySteps_of_commits rules commits
    exact steps.applyPolicies (steps.deleteWithin (bound space.store.collections))
      collection record ⟨space, [visitMark collection id]⟩ holds

end Workspace

namespace Database

variable {A α : Type} {property : Store A → Prop}

theorem onStore_keeps {attempt : Attempt (Store A) α} (keeps : attempt.Keeps property) :
    (onStore attempt).Keeps (property ·.store) :=
  keeps.onPart (fun _ holds => holds) fun _ _ _ holds => holds

theorem onSpace_keeps {attempt : Attempt (Workspace A) α}
    (keeps : attempt.Keeps (property ·.store)) :
    (onSpace attempt).Keeps (property ·.store) :=
  keeps.onPart (fun _ holds => holds) fun _ _ _ holds => holds

/-- What goes by the rules keeps what it keeps under all of them. -/
theorem byRules_keeps {attempt : ReferenceRules → Attempt (Workspace A) α}
    (keeps : ∀ rules, (attempt rules).Keeps (property ·.store)) :
    (rules >>= fun rules => onSpace (attempt rules)).Keeps (property ·.store) := by
  intro db holds
  obtain ⟨known, outcome⟩ := byRules_outcome attempt db
  rw [outcome]
  exact onSpace_keeps (keeps _) (db.keeping known) holds

theorem prepare_keeps (collection : String) (isNew lenient : Bool) (record : Record) :
    (prepare (A := A) collection isNew lenient record).Keeps (property ·.store) := by
  intro db holds
  obtain ⟨supply, after⟩ := prepare_outcome collection isNew lenient record db
  rw [after]
  exact holds

theorem find?_keeps (collection : String) (id : Json) :
    (find? (A := A) collection id).Keeps (property ·.store) :=
  keeps_of_stays fun _ => rfl

variable [Adapter A]

theorem create_keeps (commits : Store.KeptByCommits property) (collection : String)
    (record : Record) : (create collection record).Keeps (property ·.store) := by
  refine (prepare_keeps collection true false record).bind fun _ prepared _ _ _ =>
    onStore_keeps ?_
  rw [Store.add_eq_commit]
  exact commits (Collections.add collection prepared)

theorem commitFree_keeps (commits : Store.KeptByCommits property) (collection : String)
    (id : Json) (existing updated : Record) :
    (commitFree collection id existing updated).Keeps (property ·.store) := by
  intro db holds
  obtain ⟨known, ruled⟩ := rules_outcome db
  have checks : (onSpace (Workspace.checkKeyChanges (A := A) ⟨db.registry, db.graphInUse⟩
      collection existing updated)).Keeps (property ·.store) :=
    onSpace_keeps (Workspace.checkKeyChanges_keeps _ collection existing updated)
  have replaces := onStore_keeps (commits (Collections.replace collection id updated))
  rw [commitFree, bind_outcome, ruled]
  refine checks.bind (fun _ _ _ _ _ => ?_) (db.keeping known) holds
  refine replaces.bind fun _ stored _ _ _ => ?_
  cases stored with
  | none => exact keeps_of_stays fun _ => rfl
  | some stored =>
      have follows := onSpace_keeps (Workspace.followChanges_keeps
        ⟨db.registry, db.graphInUse⟩ commits
        (db.graphInUse.keyChanges collection existing stored))
      refine follows.bind fun _ count _ _ _ => ?_
      split_ifs
      · exact keeps_of_stays fun _ => rfl
      · split
        · exact find?_keeps collection _
        · exact keeps_of_stays fun _ => rfl

theorem commitChange_keeps (commits : Store.KeptByCommits property) (collection : String)
    (id : Json) (existing updated : Record) :
    (commitChange collection id existing updated).Keeps (property ·.store) := by
  intro db holds
  rcases commitChange_outcome collection id existing updated db with ⟨newId, -, taken⟩ | free
  · rw [taken]
    exact holds
  · rw [free]
    exact commitFree_keeps commits collection id existing updated db holds

theorem replace_keeps (commits : Store.KeptByCommits property) (collection : String)
    (id : Json) (body : Record) :
    (replace collection id body).Keeps (property ·.store) := by
  refine (find?_keeps collection id).bind fun _ found _ _ _ => ?_
  cases found with
  | none => exact keeps_of_stays fun _ => rfl
  | some existing =>
      refine keeps_get_bind fun db holds => ?_
      have prepares : (prepare (A := A) collection false false
          (completed (db.registry.find? collection) id existing body)).Keeps
            (property ·.store) := prepare_keeps collection false false _
      exact prepares.bind (fun _ prepared _ _ _ =>
        commitChange_keeps commits collection id existing prepared) db holds

theorem patch_keeps (commits : Store.KeptByCommits property) (collection : String)
    (id : Json) (patch : Record) :
    (Database.patch collection id patch).Keeps (property ·.store) := by
  refine (find?_keeps collection id).bind fun _ found _ _ _ => ?_
  cases found with
  | none => exact keeps_of_stays fun _ => rfl
  | some existing =>
      exact (prepare_keeps collection false true (existing.putAll patch)).bind
        fun _ prepared _ _ _ => commitChange_keeps commits collection id existing prepared

theorem takeInText_keeps (commits : Store.KeptByCommits property) (format : ExchangeFormat)
    (text : String) : (takeInText format text).Keeps (property ·.store) := by
  have reads : (Attempt.ofResult (σ := Database A) (format.read text)).Keeps
      (property ·.store) := keeps_of_stays fun _ => rfl
  exact reads.bind fun _ collections _ _ _ =>
    onStore_keeps (commits (Collections.swap collections))

end Database

end DocStore
