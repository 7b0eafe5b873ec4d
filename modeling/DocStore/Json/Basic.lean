import DocStore.Number.Basic
import DocStore.Fields

/-!
# JSON values

The values that documents are made of.  An object keeps its fields in order.
Objects come with distinct names from every operation of this library; text that
repeats a name is put right by `Json.merged`.
-/

namespace DocStore

/-- A JSON value. -/
inductive Json where
  | null
  | bool (value : Bool)
  | number (value : Number)
  | string (value : String)
  | array (items : List Json)
  | object (fields : List (String × Json))
  deriving Inhabited

/-- A document: the fields of an object. -/
abbrev Record := Fields Json

namespace Json

def ofInt (n : Int) : Json :=
  .number (.ofInt n)

def ofNat (n : Nat) : Json :=
  .number (.ofNat n)

def strings (texts : List String) : Json :=
  .array (texts.map .string)

/-- A value that may be missing, with `null` for none. -/
def orNull : Option Json → Json
  | some value => value
  | none => .null

def isNull : Json → Bool
  | .null => true
  | _ => false

/-- Every field, as an object's field, has a name of its own at every level. -/
def DistinctNames : Json → Prop
  | .array items => DistinctNamesItems items
  | .object fields => (fields.map Prod.fst).Nodup ∧ DistinctNamesFields fields
  | _ => True
where
  DistinctNamesItems : List Json → Prop
    | [] => True
    | item :: rest => item.DistinctNames ∧ DistinctNamesItems rest
  DistinctNamesFields : List (String × Json) → Prop
    | [] => True
    | (_, value) :: rest => value.DistinctNames ∧ DistinctNamesFields rest

mutual

/-- The value with every repeated name of an object put at its first place with
its last value. -/
def merged : Json → Json
  | .array items => .array (mergedItems items)
  | .object fields => .object (Fields.ofList (mergedFields fields))
  | other => other
termination_by structural value => value

def mergedItems : List Json → List Json
  | [] => []
  | item :: rest => item.merged :: mergedItems rest
termination_by structural items => items

/-- `merged` on every field value. -/
def mergedFields : List (String × Json) → List (String × Json)
  | [] => []
  | (name, value) :: rest => (name, value.merged) :: mergedFields rest
termination_by structural fields => fields

end

mutual

/-- How many arrays and objects lie inside one another. -/
def nesting : Json → Nat
  | .array items => nestingItems items + 1
  | .object fields => nestingFields fields + 1
  | _ => 0
termination_by structural value => value

def nestingItems : List Json → Nat
  | [] => 0
  | item :: rest => max item.nesting (nestingItems rest)
termination_by structural items => items

def nestingFields : List (String × Json) → Nat
  | [] => 0
  | (_, value) :: rest => max value.nesting (nestingFields rest)
termination_by structural fields => fields

end

end Json

/-- A field that is left out when it has no value. -/
def optionalField (name : String) : Option Json → List (String × Json)
  | some value => [(name, value)]
  | none => []

end DocStore
