import DocStore.Schema.Codec
import DocStore.Yaml.Document
import DocStore.SortedMap

/-!
# Schema texts

The schemas of a YAML text: a map `collections` from the names of collections to
their fields.
-/

namespace DocStore.Schema

def readEntryPart (draft : Draft) (name : String) (part : Node) : Reading Draft :=
  if name = "name" then .ok draft else readPart draft name part

def ofEntry (name : String) (node : Node) : Reading Schema := do
  let draft ← node.readParts ["timestamps", "fields"] {} readEntryPart
  return {
    name
    fields := draft.fields.getD []
    timestamps := draft.timestamps.getD false }

/-- The schemas of the entries of a map.  Of a repeated name the last entry
counts. -/
def ofEntries (node : Node) : Reading (SortedMap Schema) := do
  (← node.entries).foldlM (fun schemas (name, part) => do
    let name ← Node.expect name
    return schemas.insert name (← ofEntry name part)) .empty

/-- The schemas of a source, in the order of the names of their collections. -/
def listOfNode (node : Node) : Reading (List Schema) := do
  let schemas ← node.readParts ["collections"] (none : Option (SortedMap Schema))
    fun schemas name part =>
      if name = "collections" then Node.once schemas ofEntries part else .ok schemas
  return (schemas.getD .empty).values

def listOfText (text : String) : Reading (List Schema) :=
  (Yaml.Document.read text).decode listOfNode

end DocStore.Schema
