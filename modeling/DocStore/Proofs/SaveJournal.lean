import DocStore.Proofs.Edits
import DocStore.Proofs.GeneratedIds
import DocStore.Storage.Memory
import DocStore.Storage.Unreliable

/-!
# Journals of saves

Storage with a journal notes every save that it is asked for.  A call of a store that
is refused changes nothing and asks for no save.  Any other call makes its change in
memory, whether or not that can be saved, and asks for a save exactly if the collections
that it leaves are a collection more, or a record more, rewritten or less, or all others.
-/

namespace DocStore

/-- A save that was asked for. -/
structure SaveAttempt where
  key : String
  collections : Collections
  succeeded : Bool

/-- Storage with a journal of its saves, the latest one first. -/
structure Journaled (A : Type) where
  inner : A
  journal : List SaveAttempt := []

namespace Journaled

variable {A : Type}

/-- Runs an attempt of the storage inside. -/
def inside {α : Type} (attempt : Attempt A α) : Attempt (Journaled A) α :=
  attempt.onPart inner fun storage inner => { storage with inner }

/-- Makes a save and notes it. -/
def save [Adapter A] (key : String) (collections : Collections) : Attempt (Journaled A) Unit :=
  fun storage =>
    let (result, inner) := (Adapter.save key collections).outcome storage.inner
    (result, ⟨inner, ⟨key, collections, result.isOk⟩ :: storage.journal⟩)

end Journaled

instance {A : Type} [Adapter A] : Adapter (Journaled A) where
  name storage := Adapter.name storage.inner
  save := Journaled.save
  load storage key := Adapter.load storage.inner key
  remove key := Journaled.inside (Adapter.remove key)
  clear := Journaled.inside Adapter.clear
  has storage key := Adapter.has storage.inner key

namespace Failure

/-- Whether a failure is one of storage. -/
def IsStorage : Failure → Prop
  | .storage _ => True
  | _ => False

/-- Whether a failure says that an edit cannot give a record its id. -/
def RefusesId : Failure → Prop
  | .duplicateId _ _ => True
  | .idsExhausted _ _ => True
  | _ => False

theorem RefusesId.not_isStorage {failure : Failure} (refuses : failure.RefusesId) :
    ¬ failure.IsStorage := by
  cases failure <;> simp_all [RefusesId, IsStorage]

end Failure

namespace Collections

variable {collections : Collections} {name : String} {failure : Failure}

theorem largestId_error {largest : Int} {ids : List Json}
    (failed : largestId name largest ids = .error failure) : failure.RefusesId := by
  induction ids generalizing largest with
  | nil => cases failed
  | cons id rest ih =>
      unfold largestId at failed
      split at failed
      · exact ih failed
      · split_ifs at failed
        · exact ih failed
        · obtain rfl := Except.error.inj failed
          trivial

theorem nextId_error {records : List Record}
    (failed : nextId name records = .error failure) : failure.RefusesId := by
  unfold nextId at failed
  cases found : largestId name 0 (records.filterMap Record.id?) with
  | error reason =>
      rw [found] at failed
      obtain rfl := Except.error.inj failed
      exact largestId_error found
  | ok largest =>
      rw [found] at failed
      simp only [bind, Except.bind] at failed
      split_ifs at failed
      · cases failed
      · obtain rfl := Except.error.inj failed
        trivial

/-- Whether collections differ from others in one collection at most, which now has some
records. -/
def Puts (before after : Collections) (name : String) (records : List Record) : Prop :=
  after.get? name = some records ∧ ∀ other, other ≠ name → after.get? other = before.get? other

theorem puts_insert (before : Collections) (name : String) (records : List Record) :
    before.Puts (before.insert name records) name records :=
  ⟨by simp [SortedMap.get?_insert], fun other different => by
    simp [SortedMap.get?_insert, different.symm]⟩

/-- Whether collections have a record more, the last one of its collection, and the record
has an id, its own if it brought one. -/
def Appends (before after : Collections) (name : String) (record added : Record) : Prop :=
  (∃ id, added.id? = some id ∧ added = record.identifiedBy id) ∧
    before.Puts after name (before.records name ++ [added])

/-- Where the first record of a collection with an id stands. -/
structure Finds (collections : Collections) (name : String) (id : Json)
    (earlier : List Record) (record : Record) (later : List Record) : Prop where
  split : collections.records name = earlier ++ record :: later
  first : ∀ other ∈ earlier, other.hasId id = false
  found : record.hasId id = true

/-- Whether no record of a collection has an id. -/
def Lacks (collections : Collections) (name : String) (id : Json) : Prop :=
  ∀ record ∈ collections.records name, record.hasId id = false

theorem Finds.not_lacks {earlier later : List Record} {record : Record} {id : Json}
    (finds : collections.Finds name id earlier record later) : ¬ collections.Lacks name id := by
  intro lacks
  have notFound := lacks record (by simp [finds.split])
  rw [finds.found] at notFound
  cases notFound

/-- Whether collections have the first record with an id changed in its place, with that id
put back if it is missing, and which record an answer gives. -/
def Rewrites (before after : Collections) (name : String) (id : Json)
    (change : Record → Record) (answer : Option Record) : Prop :=
  ∃ earlier record later, before.Finds name id earlier record later ∧
    answer = some ((change record).identifiedBy id) ∧
    before.Puts after name (earlier ++ (change record).identifiedBy id :: later)

/-- How an edit comes out that either finds nothing to change or changes something, if it
is not refused. -/
inductive EditOutcome {α : Type} (idles : α → Prop) (changes : Collections → α → Prop) :
    Except Failure (α × Option Collections) → Prop where
  | refused {failure : Failure} (refuses : failure.RefusesId) :
      EditOutcome idles changes (.error failure)
  | idle {answer : α} (isIdle : idles answer) : EditOutcome idles changes (.ok (answer, none))
  | made {answer : α} {after : Collections} (isChange : changes after answer) :
      EditOutcome idles changes (.ok (answer, some after))

theorem create_editOutcome (before : Collections) (name : String) :
    EditOutcome (fun created => created = false ∧ before.has name = true)
      (fun after created => created = true ∧ before.has name = false ∧ before.Puts after name [])
      (create name before) := by
  unfold create
  cases there : before.has name with
  | true => exact .idle ⟨rfl, rfl⟩
  | false => exact .made ⟨rfl, rfl, before.puts_insert name []⟩

theorem identified_error {records : List Record} {record : Record}
    (refused : identified name records record = .error failure) : failure.RefusesId := by
  unfold identified at refused
  split at refused
  · split_ifs at refused
    obtain rfl := Except.error.inj refused
    trivial
  · cases next : nextId name records with
    | error reason =>
        rw [next] at refused
        obtain rfl := Except.error.inj refused
        exact nextId_error next
    | ok id =>
        rw [next] at refused
        cases refused

theorem add_editOutcome (before : Collections) (name : String) (record : Record) :
    EditOutcome (fun _ => False) (fun after added => before.Appends after name record added)
      (add name record before) := by
  rcases made : add name record before with failure | ⟨added, after⟩
  · refine .refused ?_
    cases given : identified name (before.records name) record with
    | error reason =>
        simp only [add, given] at made
        obtain rfl := Except.error.inj made
        exact identified_error given
    | ok added =>
        simp only [add, given] at made
        cases made
  · obtain ⟨rfl, source⟩ := add_ok made
    refine .made ⟨?_, before.puts_insert name _⟩
    obtain ⟨rfl, id, own, -⟩ | ⟨id, none, next, rfl⟩ := source
    · exact ⟨id, own, by rw [Record.identifiedBy, own]⟩
    · obtain ⟨largest, -, -, rfl⟩ := nextId_ok next
      exact ⟨_, Record.id?_withId (by simp [Json.ofInt]), by rw [Record.identifiedBy, none]⟩

theorem amend_editOutcome (before : Collections) (name : String) (id : Json)
    (change : Record → Record) :
    EditOutcome (fun changed => changed = none ∧ before.Lacks name id)
      (fun after changed => before.Rewrites after name id change changed)
      (amend name id change before) := by
  have outcome := amend_outcome before name id change
  generalize amend name id change before = result at outcome ⊢
  cases outcome with
  | missing absent => exact .idle ⟨rfl, absent⟩
  | taken split renamed differs other member holds => exact .refused trivial
  | changed split first found free =>
      exact .made ⟨_, _, _, ⟨split, first, found⟩, rfl, before.puts_insert name _⟩

theorem remove_editOutcome (before : Collections) (name : String) (id : Json) :
    EditOutcome (fun removed => removed = false ∧ before.Lacks name id)
      (fun after removed => removed = true ∧ ∃ earlier record later,
        before.Finds name id earlier record later ∧ before.Puts after name (earlier ++ later))
      (remove name id before) := by
  simp only [remove]
  split_ifs with stored
  · obtain ⟨stored, member, holds⟩ := List.any_eq_true.1 stored
    obtain ⟨record, earlier, later, first, found, split, rest⟩ :=
      List.exists_of_eraseP (p := (·.hasId id)) member holds
    have notBefore : ∀ other ∈ earlier, other.hasId id = false := fun other member =>
      Bool.eq_false_iff.2 (first other member)
    rw [rest]
    exact .made ⟨rfl, earlier, record, later, ⟨split, notBefore, found⟩,
      before.puts_insert name _⟩
  · exact .idle ⟨rfl, by simpa [Lacks] using stored⟩

theorem swap_editOutcome (before incoming : Collections) :
    EditOutcome (fun _ => False) (fun after _ => after = incoming) (swap incoming before) := by
  unfold swap
  split
  · exact .refused trivial
  · exact .made rfl

end Collections

/-- A call of a store that may change its collections. -/
inductive StoreCall where
  | create (name : String)
  | add (name : String) (record : Record)
  | update (name : String) (id : Json) (patch : Record)
  | replace (name : String) (id : Json) (record : Record)
  | remove (name : String) (id : Json)
  | swap (incoming : Collections)

namespace StoreCall

/-- What a call answers. -/
def Answer : StoreCall → Type
  | create _ => Bool
  | add _ _ => Record
  | update _ _ _ => Option Record
  | replace _ _ _ => Option Record
  | remove _ _ => Bool
  | swap _ => Unit

/-- The edit that a call makes. -/
def edit : (call : StoreCall) → Edit call.Answer
  | create name => Collections.create name
  | add name record => Collections.add name record
  | update name id patch => Collections.update name id patch
  | replace name id record => Collections.replace name id record
  | remove name id => Collections.remove name id
  | swap incoming => Collections.swap incoming

/-- Makes the call. -/
def run {A : Type} [Adapter A] : (call : StoreCall) → Attempt (Store A) call.Answer
  | create name => Store.commit (Collections.create name)
  | add name record => Store.add name record
  | update name id patch => Store.commit (Collections.update name id patch)
  | replace name id record => Store.commit (Collections.replace name id record)
  | remove name id => Store.commit (Collections.remove name id)
  | swap incoming => Store.commit (Collections.swap incoming)

theorem run_eq_commit {A : Type} [Adapter A] (call : StoreCall) :
    (call.run : Attempt (Store A) call.Answer) = Store.commit call.edit := by
  cases call with
  | add name record => exact Store.add_eq_commit name record
  | _ => rfl

/-- What the collections after a call are if it changed something, and what it answers. -/
def Changes (before after : Collections) : (call : StoreCall) → call.Answer → Prop
  | create name, created =>
    created = true ∧ before.has name = false ∧ before.Puts after name []
  | add name record, added => before.Appends after name record added
  | update name id patch, updated =>
    before.Rewrites after name id (Fields.putAll · patch) updated
  | replace name id record, replaced => before.Rewrites after name id (fun _ => record) replaced
  | remove name id, removed =>
    removed = true ∧ ∃ earlier record later,
      before.Finds name id earlier record later ∧ before.Puts after name (earlier ++ later)
  | swap incoming, _ => after = incoming

/-- What a call answers that finds nothing to change. -/
def Idles (before : Collections) : (call : StoreCall) → call.Answer → Prop
  | create name, created => created = false ∧ before.has name = true
  | add _ _, _ => False
  | update name id _, updated => updated = none ∧ before.Lacks name id
  | replace name id _, replaced => replaced = none ∧ before.Lacks name id
  | remove name id, removed => removed = false ∧ before.Lacks name id
  | swap _, _ => False

theorem Idles.not_changes {before after : Collections} {call : StoreCall}
    {answer other : call.Answer} (idles : call.Idles before answer) :
    ¬ call.Changes before after other := by
  cases call with
  | create name =>
      rintro ⟨-, absent, -⟩
      exact Bool.false_ne_true (absent.symm.trans idles.2)
  | update name id patch => exact fun ⟨_, _, _, finds, _⟩ => finds.not_lacks idles.2
  | replace name id record => exact fun ⟨_, _, _, finds, _⟩ => finds.not_lacks idles.2
  | remove name id => exact fun ⟨_, _, _, _, finds, _⟩ => finds.not_lacks idles.2
  | add | swap => exact idles.elim

theorem edit_outcome (call : StoreCall) (before : Collections) :
    Collections.EditOutcome (call.Idles before)
      (fun after answer => call.Changes before after answer) (call.edit before) := by
  cases call with
  | create name => exact before.create_editOutcome name
  | add name record => exact before.add_editOutcome name record
  | update name id patch => exact before.amend_editOutcome name id _
  | replace name id record => exact before.amend_editOutcome name id _
  | remove name id => exact before.remove_editOutcome name id
  | swap incoming => exact before.swap_editOutcome incoming

end StoreCall

namespace Store

variable {A B : Type} [Adapter A] [Adapter B] {α : Type}

/-- The store over the storage inside, without the journal. -/
def plain (store : Store (Journaled A)) : Store A :=
  { store with storage := store.storage.inner }

/-- The save that a store asks for next, as it will stand in the journal. -/
def nextSave (store : Store (Journaled A)) : SaveAttempt :=
  ⟨store.key, store.collections,
    ((Adapter.save store.key store.collections).outcome store.storage.inner).1.isOk⟩

theorem persist_journal (store : Store (Journaled A)) :
    (persist.outcome store).2.storage.journal = store.nextSave :: store.storage.journal :=
  rfl

theorem persist_error_iff (store : Store (Journaled A)) :
    (∃ problem, (persist.outcome store).1 = .error (.storage problem)) ↔
      store.nextSave.succeeded = false := by
  have told : (persist.outcome store).1 =
      ((Adapter.save store.key store.collections).outcome store.storage.inner).1.mapError
        Failure.asStorage := rfl
  rw [told, nextSave]
  cases ((Adapter.save store.key store.collections).outcome store.storage.inner).1 with
  | ok _ => simp [Except.mapError, Except.isOk, Except.toBool]
  | error failure =>
    obtain ⟨problem, isStorage⟩ := asStorage_eq failure
    simp [Except.mapError, Except.isOk, Except.toBool, isStorage]

/-- What a store over storage with a journal does is what it does without the journal. -/
theorem commit_plain (edit : Edit α) (store : Store (Journaled A)) :
    (commit edit).outcome store.plain =
      (((commit edit).outcome store).1, ((commit edit).outcome store).2.plain) := by
  have same : store.plain.collections = store.collections := rfl
  rcases made : edit store.collections with failure | ⟨answer, _ | changed⟩
  · rw [commit_refused made, commit_refused (same ▸ made)]
  · rw [commit_idle made, commit_idle (same ▸ made)]
  · rw [commit_made made, commit_made (same ▸ made)]
    rfl

end Store

namespace StoreCall

variable {A B : Type} [Adapter A] [Adapter B]

theorem run_refused (call : StoreCall) {store : Store A} {failure : Failure}
    (failed : (call.run.outcome store).1 = .error failure) (notStorage : ¬ failure.IsStorage) :
    (call.run.outcome store).2 = store := by
  rw [run_eq_commit] at failed ⊢
  rcases Store.commit_error (Prod.ext failed rfl) with ⟨-, stays⟩ | ⟨problem, rfl⟩
  · exact stays
  · exact absurd trivial notStorage

/-- What a call that is not refused comes to, with the save that it asks for, if any:
the save is of the collections that the call leaves, it is asked for exactly if these are
changed, and the call fails exactly if the save does. -/
structure Saves (call : StoreCall) (store : Store (Journaled A))
    (result : Except Failure call.Answer) (after : Store (Journaled A))
    (saved : Option SaveAttempt) : Prop where
  journal : after.storage.journal = saved.toList ++ store.storage.journal
  content : ∀ save ∈ saved, save.key = store.key ∧ save.collections = after.collections
  changes : saved.isSome ↔ ∃ answer, call.Changes store.collections after.collections answer
  changed : saved.isSome → ∀ answer, result = .ok answer →
    call.Changes store.collections after.collections answer
  idle : saved = none → after.collections = store.collections ∧
    ∃ answer, result = .ok answer ∧ call.Idles store.collections answer
  fails : (∃ problem, result = .error (.storage problem)) ↔
    ∃ save ∈ saved, save.succeeded = false

omit [Adapter A] in
theorem saves_of_idle {call : StoreCall} {store : Store (Journaled A)} {answer : call.Answer}
    (isIdle : call.Idles store.collections answer) : call.Saves store (.ok answer) store none where
  journal := rfl
  content := by simp
  changes := by simpa using fun _ => isIdle.not_changes
  changed := by simp
  idle := fun _ => ⟨rfl, answer, rfl, isIdle⟩
  fails := by simp

/-- A change is saved as it stands in memory, and answered unless the save fails. -/
theorem saves_of_changes {call : StoreCall} {store : Store (Journaled A)} {answer : call.Answer}
    {changed : Collections} (isChange : call.Changes store.collections changed answer) :
    let next := { store with collections := changed }
    call.Saves store ((Store.persist.outcome next).1.map fun _ => answer)
      (Store.persist.outcome next).2 (some next.nextSave) := by
  intro next
  refine {
    journal := next.persist_journal
    content := by
      rintro save ⟨⟩
      exact ⟨rfl, rfl⟩
    changes := by simpa using ⟨answer, isChange⟩
    changed := fun _ given isGiven => ?_
    idle := nofun
    fails := ?_ }
  · cases saved : (Store.persist.outcome next).1 with
    | ok _ =>
        rw [saved] at isGiven
        obtain rfl := Except.ok.inj isGiven
        exact isChange
    | error failure =>
        rw [saved] at isGiven
        cases isGiven
  · simp only [Option.mem_def, Option.some.injEq, exists_eq_left']
    rw [← Store.persist_error_iff]
    cases (Store.persist.outcome next).1 <;> simp [Except.map]

theorem run_journal (call : StoreCall) (store : Store (Journaled A))
    (notRefused : ∀ failure, (call.run.outcome store).1 = .error failure → failure.IsStorage) :
    ∃ saved, call.Saves store (call.run.outcome store).1 (call.run.outcome store).2 saved := by
  have outcome := call.edit_outcome store.collections
  rw [run_eq_commit] at notRefused ⊢
  rcases made : call.edit store.collections with failure | ⟨answer, _ | changed⟩
  · rw [Store.commit_refused made] at notRefused
    rw [made] at outcome
    cases outcome with
    | refused refuses => exact absurd (notRefused failure rfl) refuses.not_isStorage
  · rw [Store.commit_idle made]
    rw [made] at outcome
    cases outcome with
    | idle isIdle => exact ⟨none, saves_of_idle isIdle⟩
  · rw [Store.commit_made made]
    rw [made] at outcome
    cases outcome with
    | made isChange => exact ⟨_, saves_of_changes isChange⟩

/-- A refused call leaves the store as it was, its storage included.  Any other call
comes to the same collections over any storage, asks for one save of them exactly if it
changed them, and fails exactly if that save does. -/
theorem run_saves (call : StoreCall) (store : Store (Journaled A)) (other : Store B)
    (same : other.collections = store.collections) :
    call.run.outcome store.plain =
      ((call.run.outcome store).1, (call.run.outcome store).2.plain) ∧
    (∀ failure, (call.run.outcome store).1 = .error failure → ¬ failure.IsStorage →
      (call.run.outcome store).2 = store) ∧
    (call.run.outcome other).2.collections = (call.run.outcome store).2.collections ∧
    ((∀ failure, (call.run.outcome store).1 = .error failure → failure.IsStorage) →
      ∃ saved, call.Saves store (call.run.outcome store).1 (call.run.outcome store).2 saved) := by
  refine ⟨?_, fun _ => run_refused call, ?_, run_journal call store⟩
  · rw [run_eq_commit, run_eq_commit]
    exact Store.commit_plain _ _
  · rw [run_eq_commit, run_eq_commit, Store.commit_collections, Store.commit_collections, same]

/-- An empty store whose storage cannot save. -/
def unsavable : Store (Journaled (Unreliable Memory)) :=
  { storage := ⟨{ inner := {}, failsFrom := some 1 }, []⟩, key := "library" }

/-- A record is added though it cannot be saved, and the failed save is reported. -/
theorem add_unsaved :
    ∃ save, ((add "books" []).run.outcome unsavable).2.storage.journal = [save] ∧
      save.succeeded = false ∧ (save.collections.records "books").length = 1 := by
  have failed : ((add "books" []).run.outcome unsavable).1 =
      .error (.storage (.reported "IO error: disk full")) := rfl
  obtain ⟨-, -, memory, saves⟩ := run_saves (add "books" []) unsavable
    ({ storage := {}, key := "library" } : Store Memory) rfl
  obtain ⟨saved, saves⟩ := saves fun failure isFailure => by
    rw [failed] at isFailure
    obtain rfl := Except.error.inj isFailure
    trivial
  obtain ⟨save, isSaved, notSucceeded⟩ := saves.fails.1 ⟨_, failed⟩
  obtain rfl := Option.mem_def.1 isSaved
  refine ⟨save, saves.journal, notSucceeded, ?_⟩
  rw [(saves.content save rfl).2, ← memory]
  decide +kernel

end StoreCall

end DocStore
