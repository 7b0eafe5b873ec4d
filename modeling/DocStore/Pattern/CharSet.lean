import DocStore.Pattern.Escape

/-!
# Bracketed character sets

The reader for sets in brackets, with ranges, named classes, nested sets and the
set operations `&&`, `--` and `~~`, which all bind alike and to the left.
-/

namespace DocStore.Pattern

inductive SetOperator where
  | both | without | oneOnly

/-- A class together with how deeply its text nests. -/
structure SetPart where
  cls : CharClass
  depth : Nat

/-- A set whose closing bracket has not come yet. -/
structure OpenSet where
  negated : Bool
  /-- The operand in front of the last operator, and that operator. -/
  pending : Option (SetPart × SetOperator)
  /-- The members since then, the last one first. -/
  members : List SetPart

namespace OpenSet

/-- The union of the members since the last operator. -/
def operand (set : OpenSet) : SetPart :=
  match set.members with
  | [] => ⟨.nothing, 0⟩
  | [part] => part
  | parts =>
    { cls := parts.foldl (fun rest part => .union part.cls rest) .nothing
      depth := 1 + parts.foldl (fun depth part => max depth part.depth) 0 }

/-- The value of all that has been read of the set. -/
def content (modes : Modes) (set : OpenSet) : SetPart :=
  let right := set.operand
  match set.pending with
  | none => right
  | some (left, operator) =>
    let a := modes.fold left.cls
    let b := modes.fold right.cls
    { cls := match operator with
        | .both => .both a b
        | .without => .without a b
        | .oneOnly => .oneOnly a b
      depth := 1 + max left.depth right.depth }

def add (set : OpenSet) (part : SetPart) : OpenSet :=
  { set with members := part :: set.members }

def operate (modes : Modes) (set : OpenSet) (operator : SetOperator) : OpenSet :=
  { set with pending := some (set.content modes, operator), members := [] }

def close (modes : Modes) (set : OpenSet) : SetPart :=
  let content := set.content modes
  { cls := .negatedIf set.negated (modes.fold content.cls), depth := 1 + content.depth }

end OpenSet

/-- Hyphens at the start of a set are members. -/
def readHyphens (modes : Modes) (set : OpenSet) (cs : List Char) : OpenSet × List Char :=
  match _ : modes.next cs with
  | '-' :: rest => readHyphens modes (set.add ⟨.single '-', 0⟩) rest
  | cs => (set, cs)
termination_by cs.length
decreasing_by
  rename_i equation
  have := modes.length_next_le cs
  rw [equation] at this
  simp only [List.length_cons] at this
  omega

/-- Opens a set behind its bracket.  A closing bracket that comes first is a
member. -/
def openSet (modes : Modes) (cs : List Char) : OpenSet × List Char :=
  let (negated, cs) := match modes.next cs with
    | '^' :: rest => (true, rest)
    | cs => (false, cs)
  let (set, cs) := readHyphens modes ⟨negated, none, []⟩ cs
  match set.members, cs with
  | [], ']' :: rest => (set.add ⟨.single ']', 0⟩, rest)
  | _, cs => (set, cs)

/-- A named class, such as `[:alpha:]`, behind its first bracket. -/
def readNamedClass? (modes : Modes) : List Char → Option (CharClass × List Char)
  | ':' :: rest => do
    let (negated, rest) := match rest with
      | '^' :: rest => (true, rest)
      | rest => (false, rest)
    let name := rest.takeWhile (· != ':')
    match rest.drop name.length with
    | ':' :: ']' :: rest =>
      let cls ← CharClass.ofAsciiName? (String.ofList name)
      return (.negatedIf negated (modes.fold cls), rest)
    | _ => none
  | _ => none

/-- A member of a set: a character or an escape. -/
def readMember? (modes : Modes) : List Char → Option (Escape × List Char)
  | [] => none
  | '\\' :: rest => readEscape? modes rest
  | c :: rest => some (.char c false, rest)

/-- The code point of a character of a set, which is one of ASCII when Unicode is
off. -/
def memberCode? (modes : Modes) : Escape → Option Nat
  | .char c _ => if modes.unicode || c.toNat < 128 then some c.toNat else none
  | _ => none

def readRange? (modes : Modes) (cs : List Char) : Option (SetPart × List Char) := do
  let (first, rest) ← readMember? modes cs
  let rest := modes.next rest
  let alone : Option (SetPart × List Char) :=
    match first with
    | .cls cls => some (⟨cls, 0⟩, rest)
    | first => (memberCode? modes first).map fun n => (⟨.range n n, 0⟩, rest)
  match rest with
  | [] => none
  | '-' :: after =>
    match modes.next after with
    | ']' :: _ | '-' :: _ => alone
    | after =>
      let (last, rest) ← readMember? modes after
      let a ← memberCode? modes first
      let b ← memberCode? modes last
      if a ≤ b then some (⟨.range a b, 0⟩, rest) else none
  | _ => alone

/-- Where the reader of sets stands after a step. -/
inductive SetState where
  | inside (set : OpenSet) (outer : List OpenSet) (rest : List Char)
  | closed (part : SetPart) (rest : List Char)

/-- One step of reading a set, at a character that counts. -/
def setStep? (modes : Modes) (set : OpenSet) (outer : List OpenSet) :
    List Char → Option SetState
  | [] => none
  | '[' :: rest =>
    match readNamedClass? modes rest with
    | some (cls, rest) => some (.inside (set.add ⟨cls, 0⟩) outer rest)
    | none =>
      let (inner, rest) := openSet modes rest
      some (.inside inner (set :: outer) rest)
  | ']' :: rest =>
    let part := set.close modes
    match outer with
    | [] => some (.closed part rest)
    | parent :: outer => some (.inside (parent.add part) outer rest)
  | '&' :: '&' :: rest => some (.inside (set.operate modes .both) outer rest)
  | '-' :: '-' :: rest => some (.inside (set.operate modes .without) outer rest)
  | '~' :: '~' :: rest => some (.inside (set.operate modes .oneOnly) outer rest)
  | cs => do
    let (part, rest) ← readRange? modes cs
    return .inside (set.add part) outer rest

def readSet? (modes : Modes) (set : OpenSet) (outer : List OpenSet) (cs : List Char) :
    Option (SetPart × List Char) :=
  match setStep? modes set outer (modes.next cs) with
  | none => none
  | some (.closed part rest) => some (part, rest)
  | some (.inside set outer rest) =>
    if rest.length < cs.length then readSet? modes set outer rest else none
termination_by cs.length

end DocStore.Pattern
