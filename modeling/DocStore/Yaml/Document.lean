import DocStore.Yaml.Token.Scan
import DocStore.Node.Decode

/-!
# Documents

The node of the one document that a YAML text holds.  Where the text stops being
readable, the node ends in a broken part, so that what stands in front of it can
still be read.  An alias stands for a copy of the node with its anchor.
-/

namespace DocStore.Yaml

structure Builder where
  tokens : List Token
  /-- The node of every anchor, the last anchor first; none while the node is not
  complete. -/
  anchors : List (String × Option Node) := []
  handles : List (String × String) := [("!", "!"), ("!!", "tag:yaml.org,2002:")]
  failed : Bool := false

/-- A computation that takes tokens. -/
abbrev Building := StateM Builder

namespace Building

def peek : Building (Option Token) := do
  return (← get).tokens.head?

def skip : Building Unit :=
  modify fun b => { b with tokens := b.tokens.tail }

/-- Whether the next token is one of some; if so, takes it. -/
def skipIf (token : Token) : Building Bool := do
  if (← peek) = some token then
    skip
    return true
  else return false

def fail : Building Node := do
  modify fun b => { b with failed := true }
  return .broken

def hasFailed : Building Bool := do
  return (← get).failed

def absent (tag : Option String) : Node :=
  .scalar ⟨"", .plain, tag⟩

def resolve? (handle suffix : String) : Building (Option String) := do
  if handle.isEmpty then return some suffix
  else return ((← get).handles.lookup handle).map (· ++ suffix)

/-- The anchor and the tag in front of a node, in either order. -/
def properties (anchor tag : Option String) : Nat → Building (Option String × Option String)
  | 0 => return (anchor, tag)
  | fuel + 1 => do
    match ← peek, anchor, tag with
    | some (.anchor name), none, tag =>
      skip
      properties (some name) tag fuel
    | some (.tag handle suffix), anchor, none =>
      skip
      match ← resolve? handle suffix with
      | some tag => properties anchor (some tag) fuel
      | none =>
        discard fail
        return (anchor, none)
    | _, _, _ => return (anchor, tag)

/-- Remembers that a node with an anchor begins. -/
def openAnchor (anchor : Option String) : Building Unit :=
  match anchor with
  | some name => modify fun b => { b with anchors := (name, none) :: b.anchors }
  | none => return

/-- Gives an anchor its node, unless the anchor has been used again inside. -/
def closeAnchor (anchor : Option String) (node : Node) : Building Node := do
  if let some name := anchor then
    if let some none := (← get).anchors.lookup name then
      modify fun b => { b with anchors := (name, some node) :: b.anchors }
  return node

/-- The node that an alias stands for.  A node that holds itself is broken. -/
def aliasOf (name : String) : Building Node := do
  match (← get).anchors.lookup name with
  | some (some node) => return node
  | some none => return .broken
  | none => fail

def nameOf : Node → Option String
  | .scalar s => some s.text
  | _ => none

/-- Whether the next token begins a node in a block, none of some tokens being
next. -/
def hasNode (stops : List Token) : Building Bool := do
  return !(← peek).any stops.contains

def depthLimit : Nat := 128

/-- A list or map, which must not nest too deeply. -/
def atDepth (depth : Nat) (node : Node) : Node :=
  if depthLimit < depth then .broken else node

mutual

/-- The next node, at a depth of so many lists and maps.  In a block it may be a
block itself, and as a value it may be a list whose items are not indented. -/
def node (fuel depth : Nat) (inBlock unindented : Bool) : Building Node := do
  match fuel with
  | 0 => fail
  | fuel + 1 =>
    if let some (.alias name) := ← peek then
      skip
      return ← aliasOf name
    let (anchor, tag) ← properties none none 2
    if ← hasFailed then return .broken
    let scalarTag := tag.filter (· != "!")
    openAnchor anchor
    let content : Building Node := do
      match ← peek, inBlock with
      | some (.scalar text style), _ =>
        skip
        return .scalar ⟨text, style, scalarTag⟩
      | some .flowListStart, _ =>
        skip
        return atDepth depth (.list tag (← flowItems fuel (depth + 1) true))
      | some .flowMapStart, _ =>
        skip
        return atDepth depth (.map tag (← flowEntries fuel (depth + 1) true))
      | some .blockListStart, true =>
        skip
        return atDepth depth (.list tag (← blockItems fuel (depth + 1) false))
      | some .blockMapStart, true =>
        skip
        return atDepth depth (.map tag (← blockEntries fuel (depth + 1)))
      | some .blockItem, _ =>
        if unindented then return atDepth depth (.list tag (← blockItems fuel (depth + 1) true))
        else if anchor.isSome || tag.isSome then return absent scalarTag
        else fail
      | some _, _ =>
        if anchor.isSome || tag.isSome then return absent scalarTag else fail
      | none, _ => fail
    closeAnchor anchor (← content)

def blockItems (fuel depth : Nat) (unindented : Bool) : Building (List Node) := do
  match fuel with
  | 0 => return [← fail]
  | fuel + 1 =>
    if ← skipIf .blockItem then
      let stops := if unindented then [.blockItem, .key, .value, .blockEnd]
        else [.blockItem, .blockEnd]
      let item ← if ← hasNode stops then node fuel depth true false else pure (absent none)
      if ← hasFailed then return [item]
      return item :: (← blockItems fuel depth unindented)
    else if unindented && (← peek).isSome then return []
    else if !unindented && (← skipIf .blockEnd) then return []
    else return [← fail]

def blockEntries (fuel depth : Nat) : Building (List (Option String × Node)) := do
  match fuel with
  | 0 => return [(none, ← fail)]
  | fuel + 1 =>
    let stops := [.key, .value, .blockEnd]
    if ← skipIf .blockEnd then return []
    else if ← skipIf .key then
      let key ← if ← hasNode stops then node fuel depth true true else pure (absent none)
      if ← hasFailed then return [(none, key)]
      let value ←
        if ← skipIf .value then
          if ← hasNode stops then node fuel depth true true else pure (absent none)
        else if (← peek).isNone then fail
        else pure (absent none)
      if ← hasFailed then return [(nameOf key, value)]
      return (nameOf key, value) :: (← blockEntries fuel depth)
    else return [(none, ← fail)]

/-- The items of a list in brackets; `first` tells whether no comma is due. -/
def flowItems (fuel depth : Nat) (first : Bool) : Building (List Node) := do
  match fuel with
  | 0 => return [← fail]
  | fuel + 1 =>
    if ← skipIf .flowListEnd then return []
    let due ← if first then pure true else skipIf .flowComma
    if !due then return [← fail]
    if ← skipIf .flowListEnd then return []
    let item ← if ← skipIf .key then flowPair fuel depth else node fuel depth false false
    if ← hasFailed then return [item]
    return item :: (← flowItems fuel depth false)

/-- A map of one entry among the items of a list. -/
def flowPair (fuel depth : Nat) : Building Node := do
  match fuel with
  | 0 => fail
  | fuel + 1 =>
    let stops := [.flowComma, .flowListEnd]
    let key ←
      if ← hasNode (.value :: stops) then node fuel (depth + 1) false false
      else do
        skip
        pure (absent none)
    if ← hasFailed then return .map none [(none, key)]
    let value ←
      if ← skipIf .value then
        if ← hasNode stops then node fuel (depth + 1) false false else pure (absent none)
      else if (← peek).isNone then fail
      else pure (absent none)
    return atDepth depth (.map none [(nameOf key, value)])

/-- The entries of a map in braces; `first` tells whether no comma is due. -/
def flowEntries (fuel depth : Nat) (first : Bool) :
    Building (List (Option String × Node)) := do
  match fuel with
  | 0 => return [(none, ← fail)]
  | fuel + 1 =>
    if ← skipIf .flowMapEnd then return []
    let due ← if first then pure true else skipIf .flowComma
    if !due then return [(none, ← fail)]
    if ← skipIf .flowMapEnd then return []
    let stops := [.flowComma, .flowMapEnd]
    let marked ← skipIf .key
    let key ←
      if marked && !(← hasNode (.value :: stops)) then pure (absent none)
      else node fuel depth false false
    if ← hasFailed then return [(none, key)]
    let value ←
      if marked && (← skipIf .value) then
        if ← hasNode stops then node fuel depth false false else pure (absent none)
      else if marked && (← peek).isNone then fail
      else pure (absent none)
    if ← hasFailed then return [(nameOf key, value)]
    return (nameOf key, value) :: (← flowEntries fuel depth false)

end

/-- The directives in front of a document; false if they contradict. -/
def directives (version : Bool) (declared : List String) : Nat → Building Bool
  | 0 => return false
  | fuel + 1 => do
    match ← peek with
    | some (.version major minor) =>
      if version || major != 1 || (minor != 1 && minor != 2) then return false
      skip
      directives true declared fuel
    | some (.tagHandle handle start) =>
      if declared.contains handle then return false
      skip
      modify fun b => { b with handles := (handle, start) :: b.handles }
      directives version (handle :: declared) fuel
    | _ => return true

/-- The node of the document in front.  A text without a document stands for
nothing. -/
def document : Building Node := do
  let size := (← get).tokens.length
  let body : Building Node := node (4 * size + 16) 1 true false
  match ← peek with
  | none => fail
  | some .textEnd => return absent none
  | some (.version ..) | some (.tagHandle ..) | some .documentStart =>
    if !(← directives false [] (size + 1)) then return ← fail
    if !(← skipIf .documentStart) then return ← fail
    match ← peek with
    | some (.version ..) | some (.tagHandle ..) | some .documentStart | some .documentEnd
    | some .textEnd => return absent none
    | _ => body
  | some _ => body

end Building

/-- The content of a YAML text: the node of its document, and whether the text is
readable to its end and holds no other document. -/
structure Document where
  root : Node
  sound : Bool

namespace Document

def read (text : String) : Document :=
  let (root, builder) := Building.document.run { tokens := tokens text }
  ⟨root, !builder.failed && builder.tokens.dropWhile (· == .documentEnd) == [.textEnd]⟩

/-- The value that the document stands for.  A defect in what can be read comes
before the end of what can be read. -/
def decode (document : Document) (read : Node → Reading α) : Reading α := do
  let value ← read document.root
  if document.sound then return value else .error .shape

end Document

end DocStore.Yaml
