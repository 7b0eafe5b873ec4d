import DocStore.Query.Options
import DocStore.SortedMap

/-!
# Request parameters

Query options as texts under names: `price_gt=500` is the condition that the price
be above 500, `id_in=1,2` a membership, and a bare `kind=audio` an equality.  Names
that begin with an underscore and are listed here ask for order, paging and search.
-/

namespace DocStore

namespace Params

def sortName : String := "_sort"
def orderName : String := "_order"
def pageName : String := "_page"
def limitName : String := "_limit"
def cursorName : String := "_cursor"
def searchName : String := "_q"
def searchFieldsName : String := "_fields"

/-- The names that stand for no condition. -/
def reserved : List String :=
  [sortName, orderName, pageName, limitName, cursorName, searchName, searchFieldsName]

def splitName (name : String) : String × Operator :=
  match splitAtLast? '_' name.toList with
  | some (field, suffix) =>
    match Operator.ofSuffix? (String.ofList suffix) with
    | some operator => (String.ofList field, operator)
    | none => (name, .eq)
  | none => (name, .eq)

def numberOrNull (text : String) : Json :=
  match Binary64.read? (trimBlanks text.toList) with
  | some (.finite x) => .number (.double x)
  | _ => .null

/-- The value that a parameter's text stands for under an operator. -/
def conditionValue (operator : Operator) (text : String) : Json :=
  match operator with
  | .gt | .ge | .lt | .le => numberOrNull text
  | .isIn | .notIn => Json.strings (splitEntries text)
  | .eq | .ne | .like => .string text

/-- The condition of a parameter; a name without a field has none. -/
def condition? (name text : String) : Option Condition :=
  let (field, operator) := splitName name
  if field.isEmpty then none else some ⟨field, operator, conditionValue operator text⟩

def nonEmpty? (items : List α) : Option (List α) :=
  if items.isEmpty then none else some items

/-- The direction that an entry of `_order` stands for. -/
def direction (entry : Option String) : Direction :=
  match entry with
  | some text => if lowerCase text = "desc" then .descending else .ascending
  | none => .ascending

/-- The sort keys: the entries of `_sort`, each with the entry of `_order` of the
same rank. -/
def sortKeys? (params : SortedMap String) : Option (List SortKey) := do
  let fields := splitEntries (← params.get? sortName)
  let orders := ((params.get? orderName).map splitEntries).getD []
  nonEmpty? (fields.zipIdx.map fun (field, rank) => ⟨field, direction orders[rank]?⟩)

def wordOr (default : UInt64) (text : Option String) : UInt64 :=
  (text.bind fun text => readUInt64? (trimBlanks text.toList)).getD default

/-- The paging: by cursor when there is one, else by page when a page or a limit is
named. -/
def paging? (params : SortedMap String) : Option Paging :=
  let limit := wordOr 10 (params.get? limitName)
  match params.get? cursorName with
  | some mark => some (.cursor (if mark.isEmpty then none else some mark) limit)
  | none =>
    if params.has pageName || params.has limitName then
      some (.page (wordOr 1 (params.get? pageName)) limit)
    else none

/-- The search, and the fields it is restricted to. -/
def search? (params : SortedMap String) : Option Search := do
  let text ← params.get? searchName
  return ⟨text, (params.get? searchFieldsName).bind fun list => nonEmpty? (splitEntries list)⟩

/-- The conditions of all parameters that are not reserved, by name. -/
def conditions (params : SortedMap String) : List Condition :=
  (params.entries.filter fun (name, _) => !reserved.contains name).filterMap
    fun (name, text) => condition? name text

end Params

/-- The query options of request parameters.  All conditions must hold. -/
def QueryOptions.ofParams (params : SortedMap String) : QueryOptions where
  filter := (Params.nonEmpty? (Params.conditions params)).map fun conditions =>
    .group .and (conditions.map .condition)
  sort := Params.sortKeys? params
  paging := Params.paging? params
  search := Params.search? params

end DocStore
