import DocStore.Record

/-!
# Filters

A filter is a tree of conditions.  A condition compares one field of a record with
a value, and is false of a record without the field, whatever its operator.
-/

namespace DocStore

inductive Operator where
  | eq | ne | gt | ge | lt | le | like | isIn | notIn
  deriving DecidableEq

namespace Operator

/-- The name in written options. -/
def symbol : Operator → String
  | .eq => "="
  | .ne => "!="
  | .gt => ">"
  | .ge => ">="
  | .lt => "<"
  | .le => "<="
  | .like => "like"
  | .isIn => "in"
  | .notIn => "nin"

/-- The ending of a request parameter's name. -/
def suffix : Operator → String
  | .eq => "eq"
  | .ne => "ne"
  | .gt => "gt"
  | .ge => "gte"
  | .lt => "lt"
  | .le => "lte"
  | .like => "like"
  | .isIn => "in"
  | .notIn => "nin"

def all : List Operator := [.eq, .ne, .gt, .ge, .lt, .le, .like, .isIn, .notIn]

def ofSymbol? (symbol : String) : Option Operator :=
  all.find? (·.symbol = symbol)

def ofSuffix? (suffix : String) : Option Operator :=
  all.find? (·.suffix = suffix)

end Operator

structure Condition where
  field : String
  operator : Operator
  value : Json

inductive Connective where
  | and
  | or
  | not
  deriving DecidableEq

/-- A filter: a condition, or a group of filters. -/
inductive Filter where
  | condition (condition : Condition)
  | group (connective : Connective) (members : List Filter)

/-- Membership in the set of an `in` condition: a number and a text are equal when
the text denotes the number, and any other two values when they are the same. -/
def Json.isMember : Json → Json → Bool
  | .string text, .number n | .number n, .string text =>
    match Binary64.read? (trimBlanks text.toList) with
    | some x => x.same n.toBinary64
    | none => false
  | candidate, actual => candidate.same actual

/-- Whether one value contains another, both read as texts in lower case. -/
def Json.contains (hay needle : Json) : Bool :=
  occursIn (lowerCase needle.display).toList (lowerCase hay.display).toList

/-- Whether a value stands in the relation of an operator to another. -/
def Operator.holds (operator : Operator) (actual expected : Json) : Bool :=
  match operator with
  | .eq => actual.display == expected.display
  | .ne => actual.display != expected.display
  | .gt => actual.compare? expected == some .gt
  | .ge => (actual.compare? expected).any (·.isGE)
  | .lt => actual.compare? expected == some .lt
  | .le => (actual.compare? expected).any (·.isLE)
  | .like => actual.contains expected
  | .isIn =>
    match expected with
    | .array candidates => candidates.any (·.isMember actual)
    | _ => false
  | .notIn =>
    match expected with
    | .array candidates => !candidates.any (·.isMember actual)
    | _ => false

def Condition.holds (condition : Condition) (record : Record) : Bool :=
  match Fields.get? condition.field record with
  | some actual => condition.operator.holds actual condition.value
  | none => false

/-- Whether a group holds, given which of its members do. -/
def Connective.holds : Connective → List Bool → Bool
  | .and, members => members.all id
  | .or, members => members.any id
  | .not, members => !members.any id

namespace Filter

mutual

def holds (record : Record) : Filter → Bool
  | .condition c => c.holds record
  | .group connective members => connective.holds (holdsEach record members)
termination_by structural filter => filter

/-- Which members of a group the record passes. -/
def holdsEach (record : Record) : List Filter → List Bool
  | [] => []
  | member :: rest => holds record member :: holdsEach record rest
termination_by structural members => members

end

end Filter

end DocStore
