import DocStore.Pattern.CharClass

/-!
# Regular expressions

Expressions over character classes with assertions about the characters around a
place, and the places of a text to which an expression leads from a place.
-/

namespace DocStore

/-- A condition on the characters before and after a place. -/
inductive Assertion where
  | textStart
  | textEnd
  /-- The start of a line; `returns` tells whether a carriage return ends lines,
  too. -/
  | lineStart (returns : Bool)
  | lineEnd (returns : Bool)
  | boundary (unicode : Bool)
  | noBoundary (unicode : Bool)
  | wordStart (unicode : Bool)
  | wordEnd (unicode : Bool)
  /-- No character of a word in front. -/
  | wordStartHalf (unicode : Bool)
  /-- No character of a word behind. -/
  | wordEndHalf (unicode : Bool)
  deriving DecidableEq

/-- Whether the assertion holds between two characters, `none` standing for an end
of the text. -/
def Assertion.holds (before after : Option Char) : Assertion → Bool
  | textStart => before.isNone
  | textEnd => after.isNone
  | lineStart false => before.isNone || before == some '\n'
  | lineStart true =>
    before.isNone || before == some '\n' || (before == some '\r' && after != some '\n')
  | lineEnd false => after.isNone || after == some '\n'
  | lineEnd true =>
    after.isNone || after == some '\r' || (after == some '\n' && before != some '\r')
  | boundary u => inWord u before != inWord u after
  | noBoundary u => inWord u before == inWord u after
  | wordStart u => !inWord u before && inWord u after
  | wordEnd u => inWord u before && !inWord u after
  | wordStartHalf u => !inWord u before
  | wordEndHalf u => !inWord u after
where
  inWord (unicode : Bool) (c : Option Char) : Bool :=
    c.any (CharClass.words unicode).holds

inductive Expr where
  | empty
  | char (cls : CharClass)
  | look (assertion : Assertion)
  | seq (a b : Expr)
  | either (a b : Expr)
  /-- At least `least` times and at most `most` times. -/
  | repeated (a : Expr) (least : Nat) (most : Option Nat)

namespace Expr

def addPlace (place : Nat) : List Nat → List Nat
  | [] => [place]
  | other :: rest =>
    if place < other then place :: other :: rest
    else if place = other then other :: rest
    else other :: addPlace place rest

def joinPlaces (a b : List Nat) : List Nat :=
  a.foldl (fun places place => addPlace place places) b

def advance (step : Nat → List Nat) (places : List Nat) : List Nat :=
  places.foldl (fun reached place => joinPlaces (step place) reached) []

/-- The places reached by exactly `n` steps.  Once the places no longer change,
they stay. -/
def stepsExactly (step : Nat → List Nat) : Nat → List Nat → List Nat
  | 0, places => places
  | n + 1, places =>
    let next := advance step places
    if next = places then places else stepsExactly step n next

/-- The places reached by at most `n` steps.  Once no place is new, none will
be. -/
def stepsUpTo (step : Nat → List Nat) : Nat → List Nat → List Nat
  | 0, places => places
  | n + 1, places =>
    let next := joinPlaces (advance step places) places
    if next = places then places else stepsUpTo step n next

/-- The places to which the expression leads from a place of the text. -/
def ends (text : Array Char) : Expr → Nat → List Nat
  | empty, place => [place]
  | char cls, place =>
    match text[place]? with
    | some c => if cls.holds c then [place + 1] else []
    | none => []
  | look assertion, place =>
    let before := if place = 0 then none else text[place - 1]?
    if assertion.holds before text[place]? then [place] else []
  | seq a b, place => advance (b.ends text) (a.ends text place)
  | either a b, place => joinPlaces (a.ends text place) (b.ends text place)
  | repeated a least most, place =>
    let start := stepsExactly (a.ends text) least [place]
    let more := match most with
      | some most => most - least
      | none => text.size + 1
    stepsUpTo (a.ends text) more start

/-- Whether the expression describes some part of the text. -/
def occursIn (a : Expr) (text : String) : Bool :=
  let cs := text.toList.toArray
  (List.range (cs.size + 1)).any fun place => !(a.ends cs place).isEmpty

def sequence : List Expr → Expr
  | [] => empty
  | [a] => a
  | a :: rest => seq a (sequence rest)

def anyOf : List Expr → Expr
  | [] => empty
  | [a] => a
  | a :: rest => either a (anyOf rest)

/-- An estimate, in bytes, of the room that an automaton takes which reads the expression
backwards, every repetition being written out.  No automaton is built here, and near the
limit an expression may be taken that would not fit, or refused though it would. -/
def room : Expr → Nat
  | empty | look _ => 32
  | char cls =>
    if cls.isWide then 68 + 62 * cls.ranges
    else if cls.ranges ≤ 1 then 32
    else 32 + 8 * cls.ranges
  | seq a b => a.room + b.room
  | either a b => 40 + a.room + b.room
  | repeated a least none => (max least 1) * a.room + 40
  | repeated a least (some most) => least * a.room + (most - least) * (a.room + 40)

end Expr

end DocStore
