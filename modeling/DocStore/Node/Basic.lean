import DocStore.Json.Basic

/-!
# Source nodes

The common form of what typed values are read from: JSON values and YAML
documents.  A YAML scalar keeps its text and its style, because what it stands
for depends on what is wanted of it: `1.50` is a number to a bound and a text to a
name.
-/

namespace DocStore

/-- How a YAML scalar was written, as far as it tells what the scalar may be. -/
inductive ScalarStyle where
  | plain
  | quoted
  | block
  deriving DecidableEq

/-- A YAML scalar with its explicit tag, if any. -/
structure Scalar where
  text : String
  style : ScalarStyle
  tag : Option String

inductive Node where
  | leaf (value : Json)
  | scalar (scalar : Scalar)
  /-- The items of a JSON array, which may also stand for the fields of a
  structure in their order. -/
  | tuple (items : List Node)
  | list (tag : Option String) (items : List Node)
  /-- Entries in order; an entry has no name when its key is not a scalar. -/
  | map (tag : Option String) (entries : List (Option String × Node))
  /-- The place where a text stops being readable. -/
  | broken
  deriving Inhabited

namespace Node

mutual

def ofJson : Json → Node
  | .array items => .tuple (ofItems items)
  | .object fields => .map none (ofFields fields)
  | value => .leaf value
termination_by structural value => value

def ofItems : List Json → List Node
  | [] => []
  | item :: rest => ofJson item :: ofItems rest
termination_by structural items => items

def ofFields : List (String × Json) → List (Option String × Node)
  | [] => []
  | (name, value) :: rest => (some name, ofJson value) :: ofFields rest
termination_by structural fields => fields

end

end Node

end DocStore
