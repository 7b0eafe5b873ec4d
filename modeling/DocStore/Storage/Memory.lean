import DocStore.Storage.Adapter

/-!
# Storage in memory

Saved collections as values.  They last as long as the storage itself.
-/

namespace DocStore

structure Memory where
  saved : SortedMap Collections := .empty

instance : Adapter Memory where
  name _ := "memory"
  save key collections := .step fun memory => .ok ⟨memory.saved.insert key collections⟩
  load memory key := .ok (memory.saved.get? key)
  remove key := .step fun memory => .ok ⟨memory.saved.erase key⟩
  clear := .step fun _ => .ok ⟨.empty⟩
  has memory key := .ok (memory.saved.has key)

end DocStore
