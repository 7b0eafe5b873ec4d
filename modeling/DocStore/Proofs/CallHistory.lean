import DocStore.Proofs.LawfulUpkeep
import DocStore.Storage.Memory

/-!
# Histories of calls

A workspace goes through any calls that change its collections, in any order, some
of which fail.  Its ids stay unique up to the first record that is added without an
id and gets one that is there already.
-/

namespace DocStore

/-- A call that may change the collections of a workspace.  What deletes goes by any bound
on its depth. -/
inductive Call where
  | create (name : String)
  | add (name : String) (record : Record)
  | update (name : String) (id : Json) (patch : Record)
  | replace (name : String) (id : Json) (record : Record)
  | remove (name : String) (id : Json)
  | swap (incoming : Collections)
  | delete (rules : ReferenceRules) (bound : Collections → Nat) (collection : String) (id : Json)
  | applyDeletePolicies (rules : ReferenceRules) (bound : Collections → Nat)
      (collection : String) (id : Json)
  | followIdChange (rules : ReferenceRules) (collection : String) (old new : Json)
  | followKeyChanges (rules : ReferenceRules) (collection : String) (old new : Record)

namespace Call

variable {A : Type} [Adapter A]

/-- The workspace after a call, whatever the call answers. -/
def after (space : Workspace A) : Call → Workspace A
  | create name =>
    ((Workspace.onStore (Store.commit (Collections.create name))).outcome space).2
  | add name record =>
    ((Workspace.onStore (Store.add name record)).outcome space).2
  | update name id patch =>
    ((Workspace.onStore (Store.commit (Collections.update name id patch))).outcome space).2
  | replace name id record =>
    ((Workspace.onStore (Store.commit (Collections.replace name id record))).outcome space).2
  | remove name id =>
    ((Workspace.onStore (Store.commit (Collections.remove name id))).outcome space).2
  | swap incoming =>
    ((Workspace.onStore (Store.commit (Collections.swap incoming))).outcome space).2
  | delete rules bound collection id =>
    ((Workspace.deleteWithin rules bound collection id).outcome space).2
  | applyDeletePolicies rules bound collection id =>
    ((Workspace.applyDeletePoliciesWithin rules bound collection id).outcome space).2
  | followIdChange rules collection old new =>
    ((Workspace.followIdChange rules collection old new).outcome space).2
  | followKeyChanges rules collection old new =>
    ((Workspace.followKeyChanges rules collection old new).outcome space).2

/-- The workspace after some calls. -/
def afterAll (space : Workspace A) (calls : List Call) : Workspace A :=
  calls.foldl after space

/-- A workspace over memory that holds nothing yet. -/
def inMemory : Workspace Memory :=
  ⟨{ storage := {}, key := "library" }, .start 0 0⟩

/-- Whether the names of every object among the arguments are distinct, as in every
JSON value that a program holds. -/
def DistinctNames : Call → Prop
  | create _ => True
  | add _ record => (Json.object record).DistinctNames
  | update _ id patch => id.DistinctNames ∧ (Json.object patch).DistinctNames
  | replace _ id record => id.DistinctNames ∧ (Json.object record).DistinctNames
  | remove _ id => id.DistinctNames
  | swap incoming =>
    ∀ name, ∀ record ∈ incoming.records name, (Json.object record).DistinctNames
  | delete rules _ _ id => rules.DefaultsDistinct ∧ id.DistinctNames
  | applyDeletePolicies rules _ _ id => rules.DefaultsDistinct ∧ id.DistinctNames
  | followIdChange rules _ old new =>
    rules.DefaultsDistinct ∧ old.DistinctNames ∧ new.DistinctNames
  | followKeyChanges rules _ old new =>
    rules.DefaultsDistinct ∧ (Json.object old).DistinctNames ∧ (Json.object new).DistinctNames

/-- Whether a call adds a record without an id whose generated id is there already. -/
def RepeatsId (collections : Collections) : Call → Prop
  | add name record =>
    record.id? = none ∧ Collections.NextIdTaken name (collections.records name)
  | _ => False

/-- One call leaves a lawful workspace lawful, unless it repeats an id. -/
theorem lawful_after {space : Workspace A} {call : Call} (lawful : space.Lawful)
    (distinct : call.DistinctNames)
    (fresh : ¬ call.RepeatsId space.store.collections) : (call.after space).Lawful := by
  cases call with
  | create name =>
      exact Workspace.onStore_keeps_lawful (fun _ lawful =>
        Collections.lawful_create lawful name) space lawful
  | add name record =>
      have collectionsLawful := Collections.lawful_add lawful distinct
        fun noId taken => fresh ⟨noId, taken⟩
      rw [← Store.commit_collections (A := A), ← Store.add_eq_commit] at collectionsLawful
      exact collectionsLawful
  | update name id patch =>
      exact Workspace.onStore_keeps_lawful (fun _ lawful =>
        Collections.lawful_update lawful name distinct.1 distinct.2) space lawful
  | replace name id record =>
      exact Workspace.onStore_keeps_lawful (fun _ lawful =>
        Collections.lawful_replace lawful name distinct.1 distinct.2) space lawful
  | remove name id =>
      exact Workspace.onStore_keeps_lawful (fun _ lawful =>
        Collections.lawful_remove lawful name id) space lawful
  | swap incoming =>
      exact Workspace.onStore_keeps_lawful (fun _ lawful =>
        Collections.lawful_swap lawful distinct) space lawful
  | delete rules bound collection id =>
      exact Workspace.deleteWithin_keeps_lawful distinct.1 bound collection distinct.2 space lawful
  | applyDeletePolicies rules bound collection id =>
      exact Workspace.applyDeletePoliciesWithin_keeps_lawful distinct.1 bound collection id
        space lawful
  | followIdChange rules collection old new =>
      exact Workspace.followIdChange_keeps_lawful distinct.1 collection old distinct.2.2
        space lawful
  | followKeyChanges rules collection old new =>
      exact Workspace.followKeyChanges_keeps_lawful distinct.1 collection old distinct.2.2
        space lawful

theorem not_idsUnique_after {space : Workspace A} {call : Call}
    (repeated : call.RepeatsId space.store.collections) :
    ¬ (call.after space).store.collections.IdsUnique := by
  cases call with
  | add name record =>
      have notUnique := Collections.not_idsUnique_add repeated.1 repeated.2
      rw [← Store.commit_collections (A := A), ← Store.add_eq_commit] at notUnique
      exact notUnique
  | _ => exact repeated.elim

/-- From a lawful workspace, ids are unique after every call exactly when no call
repeats an id. -/
theorem idsUnique_afterAll_iff_of_lawful {space : Workspace A} (lawful : space.Lawful)
    (calls : List Call) (distinct : ∀ call ∈ calls, call.DistinctNames) :
    (∀ done, done <+: calls → (afterAll space done).store.collections.IdsUnique) ↔
      ∀ done call, done ++ [call] <+: calls →
        ¬ call.RepeatsId (afterAll space done).store.collections := by
  induction calls generalizing space with
  | nil =>
      refine ⟨fun _ done call isPrefix => ?_, fun _ done isPrefix => ?_⟩
      · simp at isPrefix
      · rw [List.prefix_nil.1 isPrefix]
        exact lawful.idsUnique
  | cons first rest ih =>
      have restDistinct : ∀ call ∈ rest, call.DistinctNames :=
        fun call member => distinct call (List.mem_cons_of_mem _ member)
      by_cases repeated : first.RepeatsId space.store.collections
      · refine iff_of_false (fun unique => ?_) (fun fresh => ?_)
        · exact not_idsUnique_after repeated (unique [first] (by simp))
        · exact fresh [] first (by simp) repeated
      · have next := ih (lawful_after lawful (distinct first (by simp)) repeated) restDistinct
        constructor
        · intro unique done call isPrefix
          cases done with
          | nil =>
              obtain rfl : call = first := by simpa using isPrefix
              exact repeated
          | cons head done =>
              obtain ⟨rfl, restPrefix⟩ := List.cons_prefix_cons.1 isPrefix
              refine next.1 (fun later isLater => ?_) done call restPrefix
              exact unique (head :: later) (List.cons_prefix_cons.2 ⟨rfl, isLater⟩)
        · intro fresh done isPrefix
          cases done with
          | nil => exact lawful.idsUnique
          | cons head done =>
              obtain ⟨rfl, restPrefix⟩ := List.cons_prefix_cons.1 isPrefix
              refine next.2 (fun later call isLater => ?_) done restPrefix
              exact fresh (head :: later) call (List.cons_prefix_cons.2 ⟨rfl, isLater⟩)

/-- From empty collections, ids are unique after every call exactly up to the first
one that adds a record without an id whose generated id is there already. -/
theorem idsUnique_throughout_iff {space : Workspace A}
    (empty : space.store.collections = .empty) (calls : List Call)
    (distinct : ∀ call ∈ calls, call.DistinctNames) :
    (∀ done, done <+: calls → (afterAll space done).store.collections.IdsUnique) ↔
      ∀ done call, done ++ [call] <+: calls →
        ¬ call.RepeatsId (afterAll space done).store.collections := by
  refine idsUnique_afterAll_iff_of_lawful ?_ calls distinct
  rw [Workspace.Lawful, empty]
  exact Collections.lawful_empty

/-- Two records that are added without ids get different ones. -/
theorem idsUnique_after_two_added :
    (afterAll inMemory [add "books" [], add "books" []]).store.collections.IdsUnique := by
  refine (idsUnique_throughout_iff rfl [add "books" [], add "books" []] ?_).2 ?_ _
    (List.prefix_refl _)
  · intro call member
    rcases List.mem_pair.1 member with rfl | rfl <;> exact ⟨List.nodup_nil, trivial⟩
  · intro done call isPrefix
    have first : ¬ (add "books" []).RepeatsId (afterAll inMemory []).store.collections :=
      fun repeated => absurd repeated.2 (by decide +kernel)
    have second : ¬ (add "books" []).RepeatsId
        (afterAll inMemory [add "books" []]).store.collections :=
      fun repeated => absurd repeated.2 (by decide +kernel)
    match done, isPrefix with
    | [], isPrefix =>
        obtain rfl : call = add "books" [] := by simpa using isPrefix
        exact first
    | [head], isPrefix =>
        obtain ⟨rfl, rfl⟩ : head = add "books" [] ∧ call = add "books" [] := by
          simpa using isPrefix
        exact second
    | _ :: _ :: _, isPrefix => simpa using isPrefix.length_le

/-- Past the exact doubles a generated id is equal to the largest one. -/
theorem not_idsUnique_past_exact_doubles :
    ¬ (afterAll inMemory
      [add "books" [(idField, .ofInt 9007199254740992)],
        add "books" []]).store.collections.IdsUnique := by
  have taken : Collections.NextIdTaken "books"
      ((afterAll inMemory
        [add "books" [(idField, .ofInt 9007199254740992)]]).store.collections.records
          "books") := by decide +kernel
  have repeated : (add "books" []).RepeatsId (afterAll inMemory
      [add "books" [(idField, .ofInt 9007199254740992)]]).store.collections := ⟨rfl, taken⟩
  exact not_idsUnique_after repeated

end Call

end DocStore
