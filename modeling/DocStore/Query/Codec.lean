import DocStore.Query.Options
import DocStore.Node.Decode

/-!
# Query options as JSON

Writing leaves out what is absent.  A filter in JSON is a group when it can be read
as one, and otherwise a condition.
-/

namespace DocStore

namespace Connective

def symbol : Connective → String
  | .and => "and"
  | .or => "or"
  | .not => "not"

def ofSymbol? (symbol : String) : Option Connective :=
  [and, or, not].find? (·.symbol = symbol)

end Connective

namespace Direction

def symbol : Direction → String
  | .ascending => "asc"
  | .descending => "desc"

def ofSymbol? (symbol : String) : Option Direction :=
  [ascending, descending].find? (·.symbol = symbol)

end Direction

namespace Filter

mutual

def toJson : Filter → Json
  | .condition c => .object
    [("field", .string c.field), ("operator", .string c.operator.symbol), ("value", c.value)]
  | .group connective members => .object
    [("operator", .string connective.symbol), ("conditions", .array (toJsonEach members))]
termination_by structural filter => filter

def toJsonEach : List Filter → List Json
  | [] => []
  | member :: rest => toJson member :: toJsonEach rest
termination_by structural members => members

end

def conditionOfNode (node : Node) : Reading Condition := do
  let (field, operator, value) ← node.readParts ["field", "operator", "value"]
    ((none, none, none) : Option String × Option Operator × Option Json)
    fun (field, operator, value) name part => do
      if name = "field" then return (← Node.once field Node.text part, operator, value)
      else if name = "operator" then
        return (field, ← Node.once operator (Node.oneOf Operator.ofSymbol?) part, value)
      else if name = "value" then return (field, operator, ← Node.once value Node.json part)
      else return (field, operator, value)
  return ⟨← Node.required field, ← Node.required operator, ← Node.required value⟩

/-- The parts of a group: its connective and the nodes of its members. -/
def groupOfNode (node : Node) : Reading (Connective × Node) := do
  let (connective, members) ← node.readParts ["operator", "conditions"]
    ((none, none) : Option Connective × Option Node)
    fun (connective, members) name part => do
      if name = "operator" then
        return (← Node.once connective (Node.oneOf Connective.ofSymbol?) part, members)
      else if name = "conditions" then
        return (connective, ← Node.once members (fun node => .ok node) part)
      else return (connective, members)
  return (← Node.required connective, ← Node.required members)

/-- The filter that a node stands for; `fuel` bounds how deep groups nest. -/
def ofNode (node : Node) : Nat → Reading Filter
  | 0 => .error .shape
  | fuel + 1 =>
    let group : Reading Filter := do
      let (connective, members) ← groupOfNode node
      return .group connective (← members.listOf (ofNode · fuel))
    match group with
    | .ok filter => .ok filter
    | .error _ => (conditionOfNode node).map .condition

/-- The filter that a JSON value stands for.  A group lies at least two levels
above its members. -/
def ofJson (value : Json) : Reading Filter :=
  ofNode (.ofJson value) (value.nesting + 1)

end Filter

namespace SortKey

def toJson (key : SortKey) : Json :=
  .object [("field", .string key.field), ("direction", .string key.direction.symbol)]

/-- The sort key that a node stands for; it ascends where nothing is said. -/
def ofNode (node : Node) : Reading SortKey := do
  let (field, direction) ← node.readParts ["field", "direction"]
    ((none, none) : Option String × Option Direction)
    fun (field, direction) name part => do
      if name = "field" then return (← Node.once field Node.text part, direction)
      else if name = "direction" then
        return (field, ← Node.once direction (Node.oneOf Direction.ofSymbol?) part)
      else return (field, direction)
  return ⟨← Node.required field, direction.getD .ascending⟩

end SortKey

namespace Paging

def toJson : Paging → Json
  | .page number limit => .object
    [("type", .string "offset"), ("page", .number (.int (.ofUInt64 number))),
      ("limit", .number (.int (.ofUInt64 limit)))]
  | .cursor mark limit => .object
    (("type", .string "cursor") :: optionalField "cursor" (mark.map .string) ++
      [("limit", .number (.int (.ofUInt64 limit)))])

def pageOfNode (node : Node) : Reading Paging := do
  let (number, limit) ← node.readParts ["page", "limit"]
    ((none, none) : Option UInt64 × Option UInt64)
    fun (number, limit) name part => do
      if name = "page" then return (← Node.once number Node.word part, limit)
      else if name = "limit" then return (number, ← Node.once limit Node.word part)
      else return (number, limit)
  return .page (← Node.required number) (← Node.required limit)

def cursorOfNode (node : Node) : Reading Paging := do
  let (mark, limit) ← node.readParts ["cursor", "limit"]
    ((none, none) : Option (Option String) × Option UInt64)
    fun (mark, limit) name part => do
      if name = "cursor" then
        return (← Node.once mark (Node.optional Node.text) part, limit)
      else if name = "limit" then return (mark, ← Node.once limit Node.word part)
      else return (mark, limit)
  return .cursor (mark.getD none) (← Node.required limit)

/-- Takes the kind of a paging out of its node. -/
def splitKind : Node → Reading (Node × Node)
  | .tuple (kind :: rest) => .ok (kind, .tuple rest)
  | .map tag entries => do
    let kind ← Node.required (entries.lookup (some "type"))
    return (kind, .map tag (entries.filter (·.1 ≠ some "type")))
  | _ => .error .shape

def ofNode (node : Node) : Reading Paging := do
  let (kind, rest) ← splitKind node
  let kind ← kind.text
  if kind = "offset" then pageOfNode rest
  else if kind = "cursor" then cursorOfNode rest
  else .error .shape

end Paging

namespace Search

def toJson (search : Search) : Json :=
  .object (("query", .string search.text) ::
    optionalField "fields" (search.fields.map Json.strings))

def ofNode (node : Node) : Reading Search := do
  let (text, fields) ← node.readParts ["query", "fields"]
    ((none, none) : Option String × Option (Option (List String)))
    fun (text, fields) name part => do
      if name = "query" then return (← Node.once text Node.text part, fields)
      else if name = "fields" then
        return (text, ← Node.once fields (Node.optional (Node.listOf Node.text)) part)
      else return (text, fields)
  return ⟨← Node.required text, fields.getD none⟩

end Search

namespace QueryOptions

def toJson (options : QueryOptions) : Json :=
  .object (
    optionalField "filter" (options.filter.map Filter.toJson) ++
    optionalField "sort" (options.sort.map fun keys => .array (keys.map SortKey.toJson)) ++
    optionalField "pagination" (options.paging.map Paging.toJson) ++
    optionalField "search" (options.search.map Search.toJson))

/-- What has been read of the options; each part is there once it has been met. -/
structure Draft where
  filter : Option (Option Filter) := none
  sort : Option (Option (List SortKey)) := none
  paging : Option (Option Paging) := none
  search : Option (Option Search) := none

/-- Reads one part of the options; `depth` bounds how deep filters nest. -/
def readPart (depth : Nat) (draft : Draft) (name : String) (part : Node) :
    Reading Draft := do
  if name = "filter" then
    return { draft with
      filter := ← Node.once draft.filter (Node.optional (Filter.ofNode · depth)) part }
  else if name = "sort" then
    return { draft with
      sort := ← Node.once draft.sort (Node.optional (Node.listOf SortKey.ofNode)) part }
  else if name = "pagination" then
    return { draft with
      paging := ← Node.once draft.paging (Node.optional Paging.ofNode) part }
  else if name = "search" then
    return { draft with
      search := ← Node.once draft.search (Node.optional Search.ofNode) part }
  else return draft

def ofJson (value : Json) : Reading QueryOptions := do
  let draft ← (Node.ofJson value).readParts ["filter", "sort", "pagination", "search"] {}
    (readPart (value.nesting + 1))
  return {
    filter := draft.filter.getD none
    sort := draft.sort.getD none
    paging := draft.paging.getD none
    search := draft.search.getD none }

end QueryOptions

namespace PageInfo

def toJson (info : PageInfo) : Json :=
  .object (
    optionalField "currentPage" (info.currentPage.map Json.ofNat) ++
    optionalField "pageCount" (info.pageCount.map Json.ofNat) ++
    optionalField "nextCursor" (info.nextCursor.map .string) ++
    [("hasMore", .bool info.hasMore)])

end PageInfo

namespace QueryResult

def toJson (result : QueryResult) : Json :=
  .object (
    [("data", .array (result.data.map .object)), ("total", .ofNat result.total)] ++
    optionalField "pagination" (result.page.map PageInfo.toJson))

end QueryResult

end DocStore
