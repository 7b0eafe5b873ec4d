import DocStore.Database.Opening
import DocStore.Proofs.CollectionLookup
import DocStore.Proofs.DatabaseParts
import DocStore.Storage.Memory
import Mathlib.Algebra.Order.Ring.Nat
import Mathlib.Data.List.Count

/-!
# Coherence of the kept graph

A database keeps its graph of references under the count of changes at which it was
made.  However changes of the schemas and questions about the graph follow one
another, the answers are those of tables filled in anew from the schemas in force, as
long as the count of changes does not come round.
-/

namespace DocStore

namespace SortedMap

variable {α : Type}

/-- The items listed under a name. -/
def listed (m : SortedMap (List α)) (name : String) : List α :=
  (m.get? name).getD []

theorem listed_modify_append (m : SortedMap (List α)) (name owner : String)
    (items : List α) :
    (m.modify owner [] (· ++ items)).listed name =
      m.listed name ++ if owner = name then items else [] := by
  rw [listed, modify, get?_insert]
  by_cases same : owner = name
  · subst same
    simp [listed]
  · simp [listed, same]

end SortedMap

/-- References listed by the collections at their ends, and dependents by the
collections that they follow. -/
structure ReferenceTables where
  forward : SortedMap (List Reference) := .empty
  incoming : SortedMap (List Reference) := .empty
  dependents : SortedMap (List Dependent) := .empty

namespace ReferenceTables

/-- Enters a dependent under the collection that it follows. -/
def enterDependent (dependents : SortedMap (List Dependent)) (entry : String × Dependent) :
    SortedMap (List Dependent) :=
  dependents.modify entry.1 [] (· ++ [entry.2])

/-- Enters a reference at both ends, and the dependents that it makes. -/
def enter (tables : ReferenceTables) (reference : Reference) : ReferenceTables where
  forward := tables.forward.modify reference.collection [] (· ++ [reference])
  incoming := tables.incoming.modify reference.relation.collection [] (· ++ [reference])
  dependents := reference.dependents.foldl enterDependent tables.dependents

/-- The tables of registered schemas, entered schema by schema and field by field. -/
def ofRegistry (registry : Registry) : ReferenceTables :=
  registry.all.foldl (fun tables schema => schema.references.foldl enter tables) {}

theorem listed_enterDependent (name : String) (entries : List (String × Dependent))
    (dependents : SortedMap (List Dependent)) :
    (entries.foldl enterDependent dependents).listed name =
      dependents.listed name ++ entries.filterMap fun (owner, dependent) =>
        if owner = name then some dependent else none := by
  induction entries generalizing dependents with
  | nil => simp
  | cons entry rest ih =>
      rw [List.foldl_cons, ih, enterDependent, SortedMap.listed_modify_append,
        List.append_assoc]
      by_cases same : entry.1 = name <;> simp [same]

/-- What a list of references adds to every table. -/
theorem listed_enter (name : String) (references : List Reference) (tables : ReferenceTables) :
    (references.foldl enter tables).forward.listed name =
        tables.forward.listed name ++ references.filter (·.collection = name) ∧
      (references.foldl enter tables).incoming.listed name =
        tables.incoming.listed name ++ references.filter (·.relation.collection = name) ∧
      (references.foldl enter tables).dependents.listed name =
        tables.dependents.listed name ++
          (references.flatMap Reference.dependents).filterMap fun (owner, dependent) =>
            if owner = name then some dependent else none := by
  induction references generalizing tables with
  | nil => simp
  | cons reference rest ih =>
      obtain ⟨forward, incoming, dependents⟩ := ih (tables.enter reference)
      rw [List.foldl_cons]
      refine ⟨?_, ?_, ?_⟩
      · rw [forward, enter, SortedMap.listed_modify_append, List.append_assoc]
        by_cases same : reference.collection = name <;> simp [same]
      · rw [incoming, enter, SortedMap.listed_modify_append, List.append_assoc]
        by_cases same : reference.relation.collection = name <;> simp [same]
      · rw [dependents, enter, listed_enterDependent, List.append_assoc,
          List.flatMap_cons, List.filterMap_append]

/-- The tables of a registry list what its graph answers. -/
theorem listed_ofRegistry (registry : Registry) (name : String) :
    (ofRegistry registry).forward.listed name =
        (ReferenceGraph.ofRegistry registry).relationsOf name ∧
      (ofRegistry registry).incoming.listed name =
        (ReferenceGraph.ofRegistry registry).referencesTo name ∧
      (ofRegistry registry).dependents.listed name =
        (ReferenceGraph.ofRegistry registry).dependentsOf name := by
  have flat : ofRegistry registry =
      (ReferenceGraph.ofRegistry registry).references.foldl enter {} := by
    rw [ofRegistry, ReferenceGraph.ofRegistry, List.foldl_flatMap]
  rw [flat]
  exact listed_enter name _ {}

end ReferenceTables

namespace ReferenceGraph

/-- The references to a collection are the transpose of the relations that collections
declare. -/
theorem count_relationsOf (graph : ReferenceGraph) (source : String) (reference : Reference) :
    (graph.relationsOf source).count reference =
      ((graph.referencesTo reference.relation.collection).filter
        (·.collection = source)).count reference := by
  unfold relationsOf referencesTo
  by_cases declared : reference.collection = source
  · rw [List.count_filter (by simpa using declared), List.count_filter (by simpa using declared),
      List.count_filter (by simp)]
  · rw [List.count_eq_zero_of_not_mem, List.count_eq_zero_of_not_mem] <;>
      simp [List.mem_filter, declared]

end ReferenceGraph

namespace Registry

theorem generation_registerAll (registry : Registry) (schemas : List Schema) :
    (registry.registerAll schemas).generation =
      registry.generation + UInt64.ofNat schemas.length := by
  induction schemas generalizing registry with
  | nil => simp [registerAll]
  | cons schema rest ih =>
      have step : (registry.register schema).generation = registry.generation + 1 := rfl
      rw [registerAll, List.foldl_cons, ← registerAll, ih, step, List.length_cons,
        UInt64.ofNat_add, UInt64.add_assoc]
      congr 1
      exact UInt64.add_comm _ _

/-- The schemas of a file. -/
def schemasOf (disk : Disk) (path : String) : Except Failure (List Schema) := do
  let text ← (disk.read path).mapError Failure.file
  (Schema.listOfText text).yaml

theorem load_eq (registry : Registry) (disk : Disk) (path : String) :
    registry.load disk path =
      (schemasOf disk path).map fun schemas => (registry.registerAll schemas, schemas.length) := by
  unfold load schemasOf
  cases (disk.read path).mapError Failure.file with
  | error failure => rfl
  | ok text => cases (Schema.listOfText text).yaml <;> rfl

end Registry

/-- A change of the schemas in force, or a question about their references. -/
inductive SchemaCall where
  | register (schema : Schema)
  | registerAll (schemas : List Schema)
  | loadFile (disk : Disk) (path : String)
  | unregister (name : String)
  | relationsOf (collection : String)
  | referencesTo (collection : String)
  | dependentsOf (collection : String)

namespace SchemaCall

variable {A : Type}

/-- How many changes of the schemas a call asks for.  Schemas that come together count
one by one. -/
def changes : SchemaCall → Nat
  | register _ => 1
  | registerAll schemas => schemas.length
  | loadFile disk path =>
    match Registry.schemasOf disk path with
    | .ok schemas => schemas.length
    | .error _ => 0
  | unregister _ => 1
  | relationsOf _ => 0
  | referencesTo _ => 0
  | dependentsOf _ => 0

/-- The database after a call.  A file that cannot be loaded changes nothing. -/
def after (db : Database A) : SchemaCall → Database A
  | register schema => ((Database.changeSchemas (·.register schema)).outcome db).2
  | registerAll schemas => ((Database.changeSchemas (·.registerAll schemas)).outcome db).2
  | loadFile disk path =>
    match db.registry.load disk path with
    | .ok (loaded, _) => ((Database.changeSchemas fun _ => loaded).outcome db).2
    | .error _ => db
  | unregister name => ((Database.changeSchemas (·.unregister name)).outcome db).2
  | relationsOf collection => ((Database.relationsOf collection).outcome db).2
  | referencesTo collection => ((Database.referencesTo collection).outcome db).2
  | dependentsOf collection => ((Database.dependentsOf collection).outcome db).2

/-- The database after some calls. -/
def afterAll (db : Database A) (calls : List SchemaCall) : Database A :=
  calls.foldl after db

end SchemaCall

namespace Database

variable {A : Type} {start : UInt64} {made : Nat} {db : Database A}

/-- A database whose schemas have been changed so many times.  The graph that it keeps
was made at some point, and is the one of the schemas in force if no change has been
made since. -/
structure Coherent (start : UInt64) (made : Nat) (db : Database A) : Prop where
  generation_eq : db.registry.generation = start + UInt64.ofNat made
  kept : ∀ generation graph, db.knownGraph = some (generation, graph) →
    ∃ earlier ≤ made, generation = start + UInt64.ofNat earlier ∧
      (earlier = made → graph = .ofRegistry db.registry)

/-- While the count of changes has not come round, the graph in use is the one of the
schemas in force. -/
theorem Coherent.graphInUse_eq (coherent : Coherent start made db) (few : made < 2 ^ 64) :
    db.graphInUse = .ofRegistry db.registry := by
  unfold graphInUse
  rcases found : db.knownGraph with _ | ⟨generation, graph⟩
  · rfl
  · obtain ⟨earlier, notLater, isGeneration, fresh⟩ := coherent.kept generation graph found
    simp only
    split_ifs with current
    · apply fresh
      rw [isGeneration, coherent.generation_eq, UInt64.add_right_inj] at current
      have sameCount := congrArg UInt64.toNat current
      rwa [UInt64.toNat_ofNat_of_lt' (by exact notLater.trans_lt few),
        UInt64.toNat_ofNat_of_lt' (by exact few)] at sameCount
    · rfl

theorem Coherent.changed (coherent : Coherent start made db) (registry : Registry)
    (count : Nat)
    (generation_eq : registry.generation = db.registry.generation + UInt64.ofNat count)
    (idle : count = 0 → registry = db.registry) :
    Coherent start (made + count) { db with registry } := by
  refine ⟨?_, fun generation graph found => ?_⟩
  · rw [generation_eq, coherent.generation_eq, UInt64.ofNat_add, UInt64.add_assoc]
  · obtain ⟨earlier, notLater, isGeneration, fresh⟩ := coherent.kept generation graph found
    refine ⟨earlier, by omega, isGeneration, fun same => ?_⟩
    have noChange : count = 0 := by omega
    rw [idle noChange]
    exact fresh (by omega)

theorem Coherent.registeredAll (coherent : Coherent start made db) (schemas : List Schema) :
    Coherent start (made + schemas.length)
      { db with registry := db.registry.registerAll schemas } := by
  refine coherent.changed _ _ (db.registry.generation_registerAll schemas) fun none => ?_
  rw [List.length_eq_zero_iff.1 none]
  rfl

theorem Coherent.asked (coherent : Coherent start made db) (few : made < 2 ^ 64) :
    Coherent start made (db.keeping (some (db.registry.generation, db.graphInUse))) := by
  refine ⟨coherent.generation_eq, fun generation graph found => ?_⟩
  obtain ⟨rfl, rfl⟩ := Prod.mk.inj (Option.some.inj found)
  exact ⟨made, le_rfl, coherent.generation_eq, fun _ => coherent.graphInUse_eq few⟩

end Database

namespace SchemaCall

variable {A : Type} {start : UInt64} {made : Nat} {db : Database A}

/-- One call makes at most as many changes as it asks for. -/
theorem coherent_after (coherent : db.Coherent start made) (few : made < 2 ^ 64)
    (call : SchemaCall) :
    ∃ now ≤ made + call.changes, (call.after db).Coherent start now := by
  cases call with
  | register schema => exact ⟨_, le_rfl, coherent.registeredAll [schema]⟩
  | registerAll schemas => exact ⟨_, le_rfl, coherent.registeredAll schemas⟩
  | loadFile disk path =>
      simp only [changes, after, Registry.load_eq]
      cases Registry.schemasOf disk path with
      | ok schemas => exact ⟨_, le_rfl, coherent.registeredAll schemas⟩
      | error failure => exact ⟨made, by simp, coherent⟩
  | unregister name =>
      by_cases known : db.registry.schemas.has name = true
      · refine ⟨made + 1, le_rfl, ?_⟩
        exact coherent.changed (db.registry.unregister name) 1
          (by simp [Registry.unregister, known]) (by simp)
      · have unchanged : db.registry.unregister name = db.registry := by
          simp [Registry.unregister, known]
        refine ⟨made, Nat.le_add_right _ _, ?_⟩
        rw [after, Database.changeSchemas, Attempt.modify_outcome, unchanged]
        exact coherent
  | relationsOf collection =>
      refine ⟨made, le_rfl, ?_⟩
      rw [after, Database.relationsOf_outcome]
      exact coherent.asked few
  | referencesTo collection =>
      refine ⟨made, le_rfl, ?_⟩
      rw [after, Database.referencesTo_outcome]
      exact coherent.asked few
  | dependentsOf collection =>
      refine ⟨made, le_rfl, ?_⟩
      rw [after, Database.dependentsOf_outcome]
      exact coherent.asked few

theorem coherent_afterAll (coherent : db.Coherent start made) (calls : List SchemaCall)
    (few : made + (calls.map changes).sum < 2 ^ 64) :
    ∃ now < 2 ^ 64, (afterAll db calls).Coherent start now := by
  induction calls generalizing db made with
  | nil => exact ⟨made, by simpa using few, coherent⟩
  | cons call rest ih =>
      rw [List.map_cons, List.sum_cons] at few
      obtain ⟨now, within, coherentNow⟩ := coherent_after coherent (by omega) call
      exact ih coherentNow (by omega)

/-- After any calls, fewer than `2 ^ 64` changes among them, the graph answers what
tables of the schemas in force list, and these tables list every reference under its
target as often as under its source. -/
theorem answers_of_schemas_in_force {db : Database A} (new : db.knownGraph = none)
    (calls : List SchemaCall) (few : (calls.map changes).sum < 2 ^ 64) :
    let now := afterAll db calls
    let tables := ReferenceTables.ofRegistry now.registry
    (∀ collection,
      ((Database.relationsOf collection).outcome now).1 =
          .ok (tables.forward.listed collection) ∧
        ((Database.referencesTo collection).outcome now).1 =
          .ok (tables.incoming.listed collection) ∧
        ((Database.dependentsOf collection).outcome now).1 =
          .ok (tables.dependents.listed collection)) ∧
      (∀ source reference,
        (tables.forward.listed source).count reference =
          ((tables.incoming.listed reference.relation.collection).filter
            (·.collection = source)).count reference) ∧
      ∀ target, ∀ reference ∈ tables.incoming.listed target,
        reference.relation.collection = target := by
  intro now tables
  have coherent : db.Coherent db.registry.generation 0 := by
    refine ⟨by simp, fun generation graph found => ?_⟩
    rw [new] at found
    cases found
  obtain ⟨made, fewMade, coherentNow⟩ := coherent_afterAll coherent calls (by omega)
  have graph := coherentNow.graphInUse_eq fewMade
  refine ⟨fun collection => ?_, fun source reference => ?_, fun target reference member => ?_⟩
  · obtain ⟨forward, incoming, dependents⟩ :=
      ReferenceTables.listed_ofRegistry now.registry collection
    rw [Database.relationsOf_outcome, Database.referencesTo_outcome,
      Database.dependentsOf_outcome, graph, forward, incoming, dependents]
    exact ⟨rfl, rfl, rfl⟩
  · rw [(ReferenceTables.listed_ofRegistry now.registry source).1,
      (ReferenceTables.listed_ofRegistry now.registry _).2.1]
    exact ReferenceGraph.count_relationsOf _ source reference
  · rw [(ReferenceTables.listed_ofRegistry now.registry target).2.1] at member
    simpa using (List.mem_filter.1 member).2

/-- A database without schemas. -/
def noSchemas : Database Memory :=
  .ofStore {} (.start 0 0) { storage := {}, key := "library" }

/-- The schema of books that point at their authors. -/
def bookSchema : Schema :=
  { name := "books"
    fields := [("author", (Field.ofTypes [.number]).withRules fun rules =>
      { rules with relation := some (Relation.manyToOne "authors") })] }

/-- A schema that comes after the graph has been asked for shows in the next answer. -/
theorem answers_after_late_schema :
    ((Database.dependentsOf "authors").outcome
      (afterAll noSchemas [dependentsOf "authors", register bookSchema])).1 =
        .ok [⟨"books", "author", idField, none, none, "books"⟩] := by
  have new : noSchemas.knownGraph = none := rfl
  obtain ⟨answers, -, -⟩ := answers_of_schemas_in_force new
    [dependentsOf "authors", register bookSchema] (by decide)
  rw [(answers "authors").2.2]
  rfl

end SchemaCall

end DocStore
