import DocStore.Attempt
import DocStore.Record

/-!
# Storage adapters

What a store asks of the place that it keeps its collections in.
-/

namespace DocStore

/-- A kind of storage: collections are saved under keys and loaded again. -/
class Adapter (A : Type) where
  /-- The name of the kind. -/
  name : A → String
  /-- Keeps collections under a key, in place of all that was kept there. -/
  save (key : String) (collections : Collections) : Attempt A Unit
  /-- The collections under a key, if any were saved. -/
  load (storage : A) (key : String) : Except Failure (Option Collections)
  /-- Forgets a key. -/
  remove (key : String) : Attempt A Unit
  /-- Forgets every key. -/
  clear : Attempt A Unit
  /-- Whether anything is kept under a key. -/
  has (storage : A) (key : String) : Except Failure Bool

end DocStore
