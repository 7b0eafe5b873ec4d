import DocStore.Proofs.SaveJournal
import DocStore.Proofs.StoreUpkeep

/-!
# Stores and their storage

Storage that gives back what was last saved agrees with the store that saves in it: a
second store that is opened there has what the latest successful save put in.  These
are the collections in memory unless the latest save failed, whatever calls were made
and however they ended.
-/

namespace DocStore

/-- Whether storages of a kind give back under a key what was last saved there. -/
structure KeepsSaves {A : Type} [Adapter A] (kind : A → Prop) (key : String) : Prop where
  stays : ∀ {storage collections}, kind storage →
    kind ((Adapter.save key collections).outcome storage).2
  saved : ∀ {storage collections}, kind storage →
    ((Adapter.save key collections).outcome storage).1 = .ok () →
      Adapter.load ((Adapter.save key collections).outcome storage).2 key = .ok (some collections)
  failed : ∀ {storage collections failure}, kind storage →
    ((Adapter.save key collections).outcome storage).1 = .error failure →
      Adapter.load ((Adapter.save key collections).outcome storage).2 key =
        Adapter.load storage key

/-- Memory keeps what is saved in it. -/
theorem Memory.keepsSaves (key : String) : KeepsSaves (fun _ : Memory => True) key where
  stays _ := trivial
  saved {storage collections} _ _ := by
    have found : (storage.saved.insert key collections).get? key = some collections := by
      rw [SortedMap.get?_insert, if_pos rfl]
    exact congrArg Except.ok found
  failed _ isError := by cases isError

namespace Unreliable

variable {A : Type} [Adapter A] {kind : A → Prop} {key : String}

/-- Whether storage that may fail to save, but not to load, is of a kind inside. -/
def Loads (kind : A → Prop) (storage : Unreliable A) : Prop :=
  storage.failsToLoad = false ∧ kind storage.inner

theorem save_outcome (collections : Collections) (storage : Unreliable A) :
    (Adapter.save key collections).outcome storage =
      if storage.refuses (storage.saves + 1) then
        (.error storage.fault, { storage with saves := storage.saves + 1 })
      else
        (((Adapter.save key collections).outcome storage.inner).1,
          { storage with
            saves := storage.saves + 1
            inner := ((Adapter.save key collections).outcome storage.inner).2 }) := by
  have opened : (Adapter.save key collections).outcome storage =
      (save key collections).outcome storage := rfl
  rw [opened, save, Attempt.get_bind_outcome, Attempt.set_bind_outcome]
  split_ifs <;> rfl

theorem load_eq {storage : Unreliable A} (loads : storage.failsToLoad = false) :
    Adapter.load storage key = Adapter.load storage.inner key := by
  have opened : Adapter.load storage key =
      if storage.failsToLoad then .error storage.fault else Adapter.load storage.inner key := rfl
  rw [opened, loads]
  rfl

/-- Storage whose saves may fail keeps those that do not. -/
theorem keepsSaves (keeps : KeepsSaves kind key) : KeepsSaves (Loads kind) key where
  stays isKind := by
    rw [save_outcome]
    split_ifs
    · exact isKind
    · exact ⟨isKind.1, keeps.stays isKind.2⟩
  saved isKind isSaved := by
    rw [save_outcome] at isSaved ⊢
    split_ifs at isSaved ⊢
    rw [load_eq]
    · exact keeps.saved isKind.2 isSaved
    · exact isKind.1
  failed isKind isFailed := by
    rw [save_outcome] at isFailed ⊢
    split_ifs at isFailed ⊢
    · rfl
    · rw [load_eq, load_eq isKind.1]
      · exact keeps.failed isKind.2 isFailed
      · exact isKind.1

end Unreliable

namespace Journaled

variable {A : Type}

/-- The collections of the latest save that succeeded. -/
def lastSaved (storage : Journaled A) : Option Collections :=
  (storage.journal.find? SaveAttempt.succeeded).map SaveAttempt.collections

/-- Whether the latest save succeeded, if there was one. -/
def UpToDate (storage : Journaled A) : Prop :=
  ∀ latest ∈ storage.journal.head?, latest.succeeded = true

theorem lastSaved_of_succeeded {storage : Journaled A} {latest : SaveAttempt}
    {earlier : List SaveAttempt} (journal : storage.journal = latest :: earlier)
    (succeeded : latest.succeeded = true) : storage.lastSaved = some latest.collections := by
  rw [lastSaved, journal, List.find?_cons_of_pos succeeded]
  rfl

theorem lastSaved_of_failed {storage before : Journaled A} {latest : SaveAttempt}
    (journal : storage.journal = latest :: before.journal)
    (failed : latest.succeeded = false) : storage.lastSaved = before.lastSaved := by
  rw [lastSaved, journal, List.find?_cons_of_neg (by simp [failed])]
  rfl

end Journaled

namespace Store

variable {A : Type} [Adapter A] {kind : A → Prop} {key : String} {first : Collections}

/-- A store over storage of a kind that held some collections at first: the storage
holds the latest ones that could be saved. -/
structure InStep (kind : A → Prop) (key : String) (first : Collections)
    (store : Store (Journaled A)) : Prop where
  key_eq : store.key = key
  isKind : kind store.storage.inner
  loads : ∃ loaded, Adapter.load store.storage.inner key = .ok loaded ∧
    loaded.getD .empty = store.storage.lastSaved.getD first
  current : store.storage.UpToDate → store.collections = store.storage.lastSaved.getD first

theorem inStep_openAt {storage : A} (isKind : kind storage) {store : Store (Journaled A)}
    (opened : openAt ⟨storage, []⟩ key = .ok store) :
    store.InStep kind key store.collections := by
  have loaded : Adapter.load (Journaled.mk storage []) key = Adapter.load storage key := rfl
  unfold openAt at opened
  rw [loaded] at opened
  cases found : Adapter.load storage key with
  | error failure => simp [found] at opened
  | ok held =>
      simp only [found, Except.ok.injEq] at opened
      subst opened
      exact ⟨rfl, isKind, ⟨held, found, rfl⟩, fun _ => rfl⟩

/-- Saving brings storage in step with what is in memory, or leaves it alone. -/
theorem InStep.persist (keeps : KeepsSaves kind key) {store : Store (Journaled A)}
    (inStep : store.InStep kind key first) (collections : Collections) :
    (persist.outcome { store with collections }).2.InStep kind key first := by
  obtain ⟨rfl, isKind, ⟨loaded, isLoaded, held⟩, -⟩ := inStep
  have inner : (Store.persist.outcome { store with collections }).2.storage.inner =
      ((Adapter.save store.key collections).outcome store.storage.inner).2 := rfl
  have kindStays : kind (Store.persist.outcome { store with collections }).2.storage.inner :=
    keeps.stays isKind
  have journal := persist_journal { store with collections }
  cases saving : ((Adapter.save store.key collections).outcome store.storage.inner).1 with
  | ok _ =>
      have succeeded : (nextSave { store with collections }).succeeded = true := by
        simp [nextSave, saving, Except.isOk, Except.toBool]
      have last := Journaled.lastSaved_of_succeeded journal succeeded
      refine ⟨rfl, kindStays, ⟨some collections, ?_, ?_⟩, fun _ => ?_⟩
      · rw [inner]
        exact keeps.saved isKind saving
      · rw [last]
        rfl
      · rw [last, persist_collections]
        rfl
  | error failure =>
      have failed : (nextSave { store with collections }).succeeded = false := by
        simp [nextSave, saving, Except.isOk, Except.toBool]
      have last := Journaled.lastSaved_of_failed journal failed
      refine ⟨rfl, kindStays, ⟨loaded, ?_, ?_⟩, fun upToDate => ?_⟩
      · rw [inner, keeps.failed isKind saving]
        exact isLoaded
      · rw [last]
        exact held
      · have latest := upToDate _ (by rw [journal]; rfl)
        rw [failed] at latest
        cases latest

/-- Every commit leaves the storage in step with the store, also one that fails. -/
theorem inStep_keptByCommits (keeps : KeepsSaves kind key) :
    KeptByCommits (InStep (A := A) kind key first) := by
  intro α edit store inStep
  rcases made : edit store.collections with failure | ⟨answer, _ | changed⟩
  · rw [commit_refused made]
    exact inStep
  · rw [commit_idle made]
    exact inStep
  · rw [commit_made made]
    exact inStep.persist keeps changed

/-- A second store over storage in step has what the latest successful save put in. -/
theorem InStep.openAt {store : Store (Journaled A)} (inStep : store.InStep kind key first) :
    ∃ reopened, Store.openAt store.storage.inner key = .ok reopened ∧
      reopened.collections = store.storage.lastSaved.getD first := by
  obtain ⟨loaded, isLoaded, held⟩ := inStep.loads
  refine ⟨⟨loaded.getD .empty, store.storage.inner, key⟩, ?_, held⟩
  simp only [Store.openAt, isLoaded]

end Store

/-- A call of a database that may change its collections, or its schemas.  What deletes
goes by any bound on its depth. -/
inductive DatabaseCall where
  | create (collection : String) (record : Record)
  | replace (collection : String) (id : Json) (body : Record)
  | patch (collection : String) (id : Json) (fields : Record)
  | delete (bound : Collections → Nat) (collection : String) (id : Json)
  | applyDeletePolicies (bound : Collections → Nat) (collection : String) (id : Json)
  | checkKeyChanges (collection : String) (old new : Record)
  | followKeyChanges (collection : String) (old new : Record)
  | followIdChange (collection : String) (old new : Json)
  | takeIn (collections : Collections)
  | takeInText (format : ExchangeFormat) (text : String)
  | onStore (call : StoreCall)
  | persist
  | changeSchemas (change : Registry → Registry)

namespace DatabaseCall

variable {A : Type} [Adapter A] {kind : A → Prop} {key : String} {first : Collections}

/-- The database after a call, whatever the call answers. -/
def after (db : Database A) : DatabaseCall → Database A
  | create collection record => ((Database.create collection record).outcome db).2
  | replace collection id body => ((Database.replace collection id body).outcome db).2
  | patch collection id fields => ((Database.patch collection id fields).outcome db).2
  | delete bound collection id => ((Database.deleteWithin bound collection id).outcome db).2
  | applyDeletePolicies bound collection id =>
    ((Database.applyDeletePoliciesWithin bound collection id).outcome db).2
  | checkKeyChanges collection old new =>
    ((Database.checkKeyChanges collection old new).outcome db).2
  | followKeyChanges collection old new =>
    ((Database.followKeyChanges collection old new).outcome db).2
  | followIdChange collection old new =>
    ((Database.followIdChange collection old new).outcome db).2
  | takeIn collections => ((Database.takeIn collections).outcome db).2
  | takeInText format text => ((Database.takeInText format text).outcome db).2
  | onStore call => ((Database.onStore call.run).outcome db).2
  | persist => ((Database.onStore Store.persist).outcome db).2
  | changeSchemas change => ((Database.changeSchemas change).outcome db).2

/-- The database after some calls. -/
def afterAll (db : Database A) (calls : List DatabaseCall) : Database A :=
  calls.foldl after db

/-- One call keeps what every commit and every save keep. -/
theorem holds_after {property : Store A → Prop} (commits : Store.KeptByCommits property)
    (saves : Store.persist.Keeps property) {db : Database A} (holds : property db.store)
    (call : DatabaseCall) : property (call.after db).store := by
  cases call with
  | create collection record => exact Database.create_keeps commits collection record db holds
  | replace collection id body =>
      exact Database.replace_keeps commits collection id body db holds
  | patch collection id fields =>
      exact Database.patch_keeps commits collection id fields db holds
  | delete bound collection id =>
      exact Database.byRules_keeps
        (fun rules => Workspace.deleteWithin_keeps rules commits bound collection id) db holds
  | applyDeletePolicies bound collection id =>
      exact Database.byRules_keeps
        (fun rules => Workspace.applyDeletePoliciesWithin_keeps rules commits bound collection id)
        db holds
  | checkKeyChanges collection old new =>
      exact Database.byRules_keeps
        (fun rules => Workspace.checkKeyChanges_keeps rules collection old new) db holds
  | followKeyChanges collection old new =>
      exact Database.byRules_keeps (fun rules => Workspace.followChanges_keeps rules commits
        (rules.graph.keyChanges collection old new)) db holds
  | followIdChange collection old new =>
      exact Database.byRules_keeps (fun rules => Workspace.followChanges_keeps rules commits
        (rules.graph.idChanges collection old new)) db holds
  | takeIn collections =>
      exact Database.onStore_keeps (commits (Collections.swap collections)) db holds
  | takeInText format text => exact Database.takeInText_keeps commits format text db holds
  | onStore call =>
      refine Database.onStore_keeps ?_ db holds
      rw [call.run_eq_commit]
      exact commits call.edit
  | persist => exact Database.onStore_keeps saves db holds
  | changeSchemas change => exact holds

theorem inStep_afterAll (keeps : KeepsSaves kind key) {db : Database (Journaled A)}
    (inStep : db.store.InStep kind key first) (calls : List DatabaseCall) :
    (afterAll db calls).store.InStep kind key first := by
  induction calls generalizing db with
  | nil => exact inStep
  | cons call calls ih =>
      have saves : Store.persist.Keeps (Store.InStep (A := A) kind key first) :=
        fun store inStep => inStep.persist keeps store.collections
      exact ih (holds_after (Store.inStep_keptByCommits keeps) saves inStep call)

/-- After any calls of a database whose store was opened on some storage, a second store
that is opened there has what the latest successful save put in, or what the first one
had, and these are the collections in memory unless the latest save failed. -/
theorem reopened_agrees (keeps : KeepsSaves kind key) {storage : A} (isKind : kind storage)
    {db : Database (Journaled A)} (opened : Store.openAt ⟨storage, []⟩ key = .ok db.store)
    (calls : List DatabaseCall) :
    ∃ reopened, Store.openAt (afterAll db calls).store.storage.inner key = .ok reopened ∧
      reopened.collections =
        (afterAll db calls).store.storage.lastSaved.getD db.store.collections ∧
      ((afterAll db calls).store.storage.UpToDate →
        reopened.collections = (afterAll db calls).store.collections) := by
  have inStep := inStep_afterAll keeps (Store.inStep_openAt isKind opened) calls
  obtain ⟨reopened, isReopened, held⟩ := inStep.openAt
  exact ⟨reopened, isReopened, held, fun upToDate => held.trans (inStep.current upToDate).symm⟩

/-- A database over storage that can save once. -/
def savingOnce : Database (Journaled (Unreliable Memory)) :=
  .ofStore {} (.start 0 0)
    { storage := ⟨{ inner := {}, failsFrom := some 2 }, []⟩, key := "library" }

/-- A second store has the first record as soon as it is added, and no other one when the
next one could not be saved. -/
theorem reopened_without_unsaved :
    (∃ reopened, Store.openAt (afterAll savingOnce
        [create "books" []]).store.storage.inner "library" = .ok reopened ∧
      reopened.collections = (afterAll savingOnce [create "books" []]).store.collections) ∧
    ∃ reopened, Store.openAt (afterAll savingOnce
        [create "books" [], create "books" []]).store.storage.inner "library" = .ok reopened ∧
      (reopened.collections.records "books").length = 1 := by
  have opened : Store.openAt ⟨savingOnce.store.storage.inner, []⟩ "library" =
      .ok savingOnce.store := rfl
  have agrees := reopened_agrees (Unreliable.keepsSaves (Memory.keepsSaves "library"))
    ⟨rfl, trivial⟩ opened
  refine ⟨?_, ?_⟩
  · obtain ⟨reopened, isReopened, -, current⟩ := agrees [create "books" []]
    refine ⟨reopened, isReopened, current fun latest isLatest => ?_⟩
    obtain rfl := Option.some.inj isLatest
    rfl
  · obtain ⟨reopened, isReopened, held, -⟩ := agrees [create "books" [], create "books" []]
    refine ⟨reopened, isReopened, ?_⟩
    rw [held]
    decide +kernel

end DatabaseCall

end DocStore
