import DocStore.Storage.Adapter

/-!
# Unreliable storage

Storage that counts how often it was asked to save, and that refuses to save from
some time on, or to load.
-/

namespace DocStore

structure Unreliable (A : Type) where
  inner : A
  saves : Nat := 0
  /-- The number of the first save that fails. -/
  failsFrom : Option Nat := none
  failsToLoad : Bool := false
  fault : Failure := .file (.device "disk full")

namespace Unreliable

variable {A : Type}

def inside {α : Type} (attempt : Attempt A α) : Attempt (Unreliable A) α :=
  attempt.onPart inner fun storage inner => { storage with inner }

def refuses (storage : Unreliable A) (number : Nat) : Bool :=
  match storage.failsFrom with
  | some first => first ≤ number
  | none => false

/-- Counts a save and makes it, unless it is one that fails. -/
def save [Adapter A] (key : String) (collections : Collections) :
    Attempt (Unreliable A) Unit := do
  let storage ← get
  let number := storage.saves + 1
  set { storage with saves := number }
  if storage.refuses number then throw storage.fault
  else inside (Adapter.save key collections)

end Unreliable

instance {A : Type} [Adapter A] : Adapter (Unreliable A) where
  name storage := Adapter.name storage.inner
  save := Unreliable.save
  load storage key :=
    if storage.failsToLoad then .error storage.fault else Adapter.load storage.inner key
  remove key := Unreliable.inside (Adapter.remove key)
  clear := Unreliable.inside Adapter.clear
  has storage key := Adapter.has storage.inner key

end DocStore
