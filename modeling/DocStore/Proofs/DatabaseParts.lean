import DocStore.Database.Basic
import DocStore.Proofs.Edits

/-!
# Parts of a database

What the operations of a database read and change of it: the graph of references
that is in use, and the store and the supply, one at a time.
-/

namespace DocStore

namespace Database

variable {A : Type} {α : Type}

/-- The graph of references that the next operation goes by. -/
def graphInUse (db : Database A) : ReferenceGraph :=
  match db.knownGraph with
  | some (generation, known) =>
    if generation = db.registry.generation then known else .ofRegistry db.registry
  | none => .ofRegistry db.registry

/-- The database with a graph of references kept. -/
def keeping (db : Database A) (known : Option (UInt64 × ReferenceGraph)) : Database A :=
  { db with knownGraph := known }

theorem graphInUse_ofStore (registry : Registry) (supply : Supply) (store : Store A) :
    (ofStore registry supply store).graphInUse = .ofRegistry registry :=
  rfl

theorem find?_outcome (collection : String) (id : Json) (db : Database A) :
    (find? (A := A) collection id).outcome db =
      (.ok (db.store.collections.find? collection id), db) :=
  rfl

/-- Asking for the graph keeps the one in use, under the present count of changes. -/
theorem graph_outcome (db : Database A) :
    (graph (A := A)).outcome db =
      (.ok db.graphInUse, db.keeping (some (db.registry.generation, db.graphInUse))) := by
  unfold graph graphInUse
  rw [Attempt.get_bind_outcome]
  rcases found : db.knownGraph with _ | ⟨generation, known⟩
  · rfl
  · by_cases current : generation = db.registry.generation
    · simp only [current, if_true]
      have kept : db.keeping (some (db.registry.generation, known)) = db := by
        rw [keeping, ← current, ← found]
      rw [kept]
      rfl
    · simp only [current, if_false]
      rfl

/-- What the database tells of relations is what the graph in use says. -/
theorem relationsOf_outcome (collection : String) (db : Database A) :
    (relationsOf (A := A) collection).outcome db =
      (.ok (db.graphInUse.relationsOf collection),
        db.keeping (some (db.registry.generation, db.graphInUse))) := by
  rw [relationsOf, Attempt.bind_outcome, graph_outcome]
  rfl

theorem referencesTo_outcome (collection : String) (db : Database A) :
    (referencesTo (A := A) collection).outcome db =
      (.ok (db.graphInUse.referencesTo collection),
        db.keeping (some (db.registry.generation, db.graphInUse))) := by
  rw [referencesTo, Attempt.bind_outcome, graph_outcome]
  rfl

theorem dependentsOf_outcome (collection : String) (db : Database A) :
    (dependentsOf (A := A) collection).outcome db =
      (.ok (db.graphInUse.dependentsOf collection),
        db.keeping (some (db.registry.generation, db.graphInUse))) := by
  rw [dependentsOf, Attempt.bind_outcome, graph_outcome]
  rfl

theorem rules_outcome (db : Database A) :
    ∃ known, (rules (A := A)).outcome db =
      (.ok ⟨db.registry, db.graphInUse⟩, db.keeping known) := by
  refine ⟨some (db.registry.generation, db.graphInUse), ?_⟩
  rw [rules, Attempt.bind_outcome, graph_outcome]
  rfl

/-- Preparing a record draws from the supply and touches nothing else. -/
theorem prepare_outcome (collection : String) (isNew lenient : Bool) (record : Record)
    (db : Database A) :
    ∃ supply, ((prepare collection isNew lenient record).outcome db).2 = { db with supply } := by
  unfold prepare
  rw [Attempt.get_bind_outcome]
  split
  · exact ⟨db.supply, rfl⟩
  · exact ⟨_, rfl⟩

theorem onSpace_outcome (attempt : Attempt (Workspace A) α) (db : Database A) :
    (onSpace attempt).outcome db =
      ((attempt.outcome ⟨db.store, db.supply⟩).1,
        { db with
          store := (attempt.outcome ⟨db.store, db.supply⟩).2.store
          supply := (attempt.outcome ⟨db.store, db.supply⟩).2.supply }) :=
  rfl

/-- What goes by the rules goes by the graph in use. -/
theorem byRules_outcome (attempt : ReferenceRules → Attempt (Workspace A) α)
    (db : Database A) :
    ∃ known, (rules >>= fun rules => onSpace (attempt rules)).outcome db =
      (onSpace (attempt ⟨db.registry, db.graphInUse⟩)).outcome (db.keeping known) := by
  obtain ⟨known, ruled⟩ := rules_outcome db
  refine ⟨known, ?_⟩
  rw [Attempt.bind_outcome, ruled]

end Database

end DocStore
