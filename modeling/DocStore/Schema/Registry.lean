import DocStore.Schema.Field
import DocStore.SortedMap
import DocStore.Text.Quoted

/-!
# Registries

The schemas in force, by the names of their collections.  A count goes up with
every change, so that what was derived from a registry can tell whether it is still
right.
-/

namespace DocStore

structure Registry where
  schemas : SortedMap Schema := .empty
  generation : UInt64 := 0

namespace Registry

/-- The registry with a schema, in place of one of the same name. -/
def register (registry : Registry) (schema : Schema) : Registry :=
  ⟨registry.schemas.insert schema.name schema, registry.generation + 1⟩

def registerAll (registry : Registry) (schemas : List Schema) : Registry :=
  schemas.foldl register registry

/-- The registry without a schema; it is the same if there is none of the name. -/
def unregister (registry : Registry) (name : String) : Registry :=
  if registry.schemas.has name then
    ⟨registry.schemas.erase name, registry.generation + 1⟩
  else registry

def find? (registry : Registry) (name : String) : Option Schema :=
  registry.schemas.get? name

def all (registry : Registry) : List Schema :=
  registry.schemas.values

def description (registry : Registry) : String :=
  "SchemaRegistry \x7b schemas: " ++ Quoted.ofTexts registry.schemas.names ++
    ", generation: " ++ toString registry.generation.toNat ++ " \x7d"

end Registry

end DocStore
