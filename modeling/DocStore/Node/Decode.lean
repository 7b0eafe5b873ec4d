import DocStore.Node.Scalar
import DocStore.Schema.Problem

/-!
# Reading typed values from nodes

Each reader takes a node and gives the value it stands for, or the defect that
keeps it from having one.  Entries are read in the order of the source, so of
several defects the first one counts.
-/

namespace DocStore

/-- Why a node does not stand for a value. -/
inductive Defect where
  | shape
  /-- The value is well-formed but breaks a rule of schemas. -/
  | schema (problem : SchemaProblem)
  deriving DecidableEq

abbrev Reading := Except Defect

namespace Node

def expect : Option α → Reading α
  | some value => .ok value
  | none => .error .shape

/-- Whether a scalar may be read as a word or a number. -/
def isOpen (s : Scalar) (core : String) : Bool :=
  s.style == .plain || (s.style == .block && s.tag == some (Scalar.coreTag core))

/-- Whether the node is the unquoted empty text. -/
def isBlankScalar (s : Scalar) : Bool :=
  s.style == .plain && s.text.isEmpty

/-- A text: a JSON string, or any scalar. -/
def text : Node → Reading String
  | .leaf (.string s) => .ok s
  | .scalar s => .ok s.text
  | _ => .error .shape

def flag : Node → Reading Bool
  | .leaf (.bool b) => .ok b
  | .scalar s => if isOpen s "bool" then expect (Scalar.boolWord? s.text) else .error .shape
  | _ => .error .shape

def word : Node → Reading UInt64
  | .leaf (.number (.int n)) => expect n.toUInt64?
  | .scalar s =>
    if isOpen s "int" then
      expect ((Scalar.readUnsigned? s.text).bind fun n =>
        if n < UInt64.size then some (UInt64.ofNat n) else none)
    else .error .shape
  | _ => .error .shape

def double : Node → Reading Binary64
  | .leaf (.number n) => .ok n.toBinary64
  | .scalar s => if isOpen s "float" then expect (Scalar.readDouble? s.text) else .error .shape
  | _ => .error .shape

/-- The value of a scalar: what its core tag names, or what its plain text is, or
its text. -/
def scalarValue (s : Scalar) : Reading Json :=
  match Scalar.localTag? s.tag, s.tag with
  | some _, _ => .error .shape
  | none, some tag =>
    if tag = Scalar.coreTag "bool" then
      expect ((Scalar.boolWord? s.text).map .bool)
    else if tag = Scalar.coreTag "int" then
      match Scalar.plainValue? s.text with
      | some (.number (.int n)) => .ok (.number (.int n))
      | _ => .error .shape
    else if tag = Scalar.coreTag "float" then
      match Scalar.readDouble? s.text with
      | some (.finite x) => .ok (.number (.double x))
      | some _ => .ok .null
      | none => .error .shape
    else if tag = Scalar.coreTag "null" then
      if Scalar.isNullWord s.text then .ok .null else .error .shape
    else if tag = "!" ∧ s.style = .plain then expect (Scalar.plainValue? s.text)
    else .ok (.string s.text)
  | none, none =>
    if s.style = .plain then expect (Scalar.plainValue? s.text) else .ok (.string s.text)

mutual

/-- Any JSON value.  Of a repeated name the last value counts. -/
def json : Node → Reading Json
  | .leaf value => .ok value
  | .scalar s => scalarValue s
  | .tuple items => (jsonItems items).map .array
  | .list tag items =>
    if (Scalar.localTag? tag).isSome then .error .shape else (jsonItems items).map .array
  | .map tag entries =>
    if (Scalar.localTag? tag).isSome then .error .shape
    else (jsonEntries entries).map fun fields => .object (Fields.ofList fields)
  | .broken => .error .shape
termination_by structural node => node

def jsonItems : List Node → Reading (List Json)
  | [] => .ok []
  | item :: rest => do
    let value ← json item
    let values ← jsonItems rest
    return value :: values
termination_by structural items => items

def jsonEntries : List (Option String × Node) → Reading (List (String × Json))
  | [] => .ok []
  | (name, node) :: rest => do
    let name ← expect name
    let value ← json node
    let fields ← jsonEntries rest
    return (name, value) :: fields
termination_by structural entries => entries

end

/-- Whether the node stands for no value where one is optional. -/
def isAbsent : Node → Bool
  | .leaf .null => true
  | .scalar s =>
    s.style == .plain &&
      (match s.tag with
        | none => s.text.isEmpty || Scalar.isNullWord s.text
        | some tag => tag == Scalar.coreTag "null" && Scalar.isNullWord s.text)
  | _ => false

def optional (read : Node → Reading α) (node : Node) : Reading (Option α) :=
  if node.isAbsent then .ok none else (read node).map some

/-- The items of a list; unquoted empty text is the empty list. -/
def items : Node → Reading (List Node)
  | .tuple items | .list _ items => .ok items
  | .scalar s => if isBlankScalar s then .ok [] else .error .shape
  | _ => .error .shape

/-- The entries of a map; unquoted empty text is the empty map. -/
def entries : Node → Reading (List (Option String × Node))
  | .map _ entries => .ok entries
  | .scalar s => if isBlankScalar s then .ok [] else .error .shape
  | _ => .error .shape

def listOf (read : Node → Reading α) (node : Node) : Reading (List α) := do
  (← node.items).mapM read

/-- The word for one of several alternatives.  An object whose only field is
`null` stands for the name of that field, and a local tag on nothing for its own
name. -/
def variant : Node → Reading String
  | .leaf (.string s) => .ok s
  | .map none [(some name, .leaf .null)] => .ok name
  | .scalar s =>
    match Scalar.localTag? s.tag with
    | some name =>
      if s.text.isEmpty || Scalar.isNullWord s.text then .ok name else .error .shape
    | none => .ok s.text
  | _ => .error .shape

def oneOf (parse? : String → Option α) (node : Node) : Reading α := do
  expect (parse? (← node.variant))

/-- The named parts of a structure in the order of the source.  The items of a
JSON array stand for the parts `names` in their order; more items than names are a
defect. -/
def parts (names : List String) : Node → Reading (List (Option String × Node))
  | .tuple items =>
    let surplus := if items.length ≤ names.length then [] else [(none, .broken)]
    .ok ((names.map some).zip items ++ surplus)
  | node => node.entries

/-- Reads the parts of a structure one after the other into a draft. -/
def readParts (names : List String) (node : Node) (start : σ)
    (step : σ → String → Node → Reading σ) : Reading σ := do
  (← node.parts names).foldlM (fun draft (name, part) => do
    step draft (← expect name) part) start

/-- Fills a part of a draft that must not come twice. -/
def once (old : Option α) (read : Node → Reading α) (node : Node) : Reading (Option α) :=
  match old with
  | some _ => .error .shape
  | none => (read node).map some

def required : Option α → Reading α := expect

end Node

end DocStore
