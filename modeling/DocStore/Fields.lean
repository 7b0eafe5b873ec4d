/-!
# Fields in order

A list of named values that keeps the order in which the names first came.  The
operations never store a name twice.
-/

namespace DocStore

/-- Named values in the order of their names' first appearance. -/
abbrev Fields (α : Type u) := List (String × α)

namespace Fields

variable {α : Type u}

def get? (name : String) : Fields α → Option α
  | [] => none
  | (other, value) :: rest => if other = name then some value else get? name rest

def has (name : String) (fields : Fields α) : Bool :=
  (get? name fields).isSome

def names (fields : Fields α) : List String :=
  fields.map Prod.fst

/-- Gives the name a value: in its place when it already has one, else at the
end. -/
def put (name : String) (value : α) : Fields α → Fields α
  | [] => [(name, value)]
  | (other, old) :: rest =>
    if other = name then (name, value) :: rest else (other, old) :: put name value rest

def erase (name : String) (fields : Fields α) : Fields α :=
  fields.filter (·.1 ≠ name)

def putAll (fields others : Fields α) : Fields α :=
  others.foldl (fun acc (name, value) => put name value acc) fields

/-- The fields of any list of pairs: a repeated name keeps its first place and
its last value. -/
def ofList (pairs : List (String × α)) : Fields α :=
  putAll [] pairs

end Fields

end DocStore
