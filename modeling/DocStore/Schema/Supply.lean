import DocStore.Calendar
import DocStore.Json.Basic

/-!
# Generated values

Generators make the default values that are new for every record.  They draw on a
supply: an instant, an endless store of random numbers, and a log of all draws so
far, from which it can be told how often each generator has run.
-/

namespace DocStore

inductive StandardGenerator where
  | uuid | ulid | nanoid | now | today | timestamp
  deriving DecidableEq

namespace StandardGenerator

def name : StandardGenerator → String
  | .uuid => "uuid"
  | .ulid => "ulid"
  | .nanoid => "nanoid"
  | .now => "now"
  | .today => "today"
  | .timestamp => "timestamp"

def ofName? (name : String) : Option StandardGenerator :=
  [uuid, ulid, nanoid, now, today, timestamp].find? (·.name = name)

/-- The last `count` digits of a number in a base, the first digits first, written
with the characters of an alphabet. -/
def digitsIn (alphabet : List Char) (count n : Nat) : List Char :=
  match count with
  | 0 => []
  | count + 1 =>
    digitsIn alphabet count (n / alphabet.length) ++
      [(alphabet[n % alphabet.length]?).getD '0']

/-- The sixteen digits of unique identifiers. -/
def hexAlphabet : List Char := "0123456789abcdef".toList

/-- The thirty-two digits of sortable identifiers. -/
def sortableAlphabet : List Char := "0123456789abcdefghjkmnpqrstvwxyz".toList

/-- The sixty-four digits of short identifiers. -/
def shortAlphabet : List Char :=
  "ABCDEFGHIJKLMNOPQRSTUVWXYZabcdefghijklmnopqrstuvwxyz0123456789_-".toList

/-- A random identifier of 128 bits, six of which tell its version and variant. -/
def uuidText (random : Nat) : String :=
  let part := digitsIn hexAlphabet
  String.ofList (part 8 (random >>> 90) ++ '-' :: part 4 (random >>> 74) ++
    '-' :: '4' :: part 3 (random >>> 62) ++
    '-' :: part 4 (32768 + (random >>> 48) % 16384) ++ '-' :: part 12 random)

def value (generator : StandardGenerator) (instant random : Nat) : Json :=
  match generator with
  | .uuid => .string (uuidText random)
  | .ulid => .string (String.ofList
      (digitsIn sortableAlphabet 10 instant ++ digitsIn sortableAlphabet 16 random))
  | .nanoid => .string (String.ofList (digitsIn shortAlphabet 21 random))
  | .now => .string (Calendar.instantText instant)
  | .today => .string (Calendar.dateText instant)
  | .timestamp => .ofNat instant

end StandardGenerator

/-- A generator of default values: one that schemas can name, or a counted one
given from outside, whose `n`-th draw from a supply makes `nth n`.  Counted
generators of one serial number share a count. -/
inductive Generator where
  | standard (generator : StandardGenerator)
  | counted (name : String) (serial : Nat) (nth : Nat → Json)

def Generator.name : Generator → String
  | .standard generator => generator.name
  | .counted name _ _ => name

inductive Draw where
  | standard (generator : StandardGenerator)
  | counted (serial : Nat)
  deriving DecidableEq

structure Supply where
  /-- The present instant in milliseconds after the start of 1970. -/
  instant : Nat
  /-- Random numbers, one for every draw. -/
  random : Nat → Nat
  /-- The draws so far, the last one first. -/
  drawn : List Draw := []

namespace Supply

def drawOf : Generator → Draw
  | .standard generator => .standard generator
  | .counted _ serial _ => .counted serial

/-- The value that a generator would draw now. -/
def next (supply : Supply) : Generator → Json
  | .standard generator =>
    generator.value supply.instant (supply.random supply.drawn.length)
  | .counted _ serial nth => nth (supply.drawn.count (.counted serial))

def draw (generator : Generator) : StateM Supply Json :=
  fun supply => (supply.next generator, { supply with drawn := drawOf generator :: supply.drawn })

/-- Random numbers from a seed; no two of 2 ^ 128 in a row are equal. -/
def randomFrom (seed n : Nat) : Nat :=
  (seed + n) * 0x9E3779B97F4A7C15F39CC0605CEDC835 % (1 <<< 128)

def start (instant seed : Nat) : Supply :=
  ⟨instant, randomFrom seed, []⟩

end Supply

end DocStore
