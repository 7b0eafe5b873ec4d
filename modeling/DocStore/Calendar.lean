import DocStore.Text.Blank
import DocStore.Number.Reading

/-!
# Dates and times

Which texts are dates and which are points in time, and how an instant is written.
A date is a year, a month and a day, each with blanks allowed in front and as few
digits as wanted.  A point in time is strict: all digits present, a zone offset at
the end.
-/

namespace DocStore.Calendar

def isLeap (year : Int) : Bool :=
  year % 4 == 0 && (year % 100 != 0 || year % 400 == 0)

def daysInMonth (year : Int) (month : Nat) : Nat :=
  if month = 2 then (if isLeap year then 29 else 28)
  else if month = 4 ∨ month = 6 ∨ month = 9 ∨ month = 11 then 30
  else 31

/-- Whether year, month and day name a day.  Years have a finite range. -/
def isDay (year : Int) (month day : Nat) : Bool :=
  -262143 ≤ year && year ≤ 262142 && 1 ≤ month && month ≤ 12 &&
    1 ≤ day && day ≤ daysInMonth year month

/-- A natural of one digit up to `width` digits, and the text behind it. -/
def readUpTo? (width : Nat) (cs : List Char) : Option (Nat × List Char) :=
  let digits := (cs.take width).takeWhile isDigit
  if digits.isEmpty then none
  else some (naturalOfDigits 0 digits, cs.drop digits.length)

/-- A natural of exactly `width` digits, and the text behind it. -/
def readExactly? (width : Nat) (cs : List Char) : Option (Nat × List Char) :=
  let digits := (cs.take width).takeWhile isDigit
  if digits.length = width then some (naturalOfDigits 0 digits, cs.drop width) else none

def skip? (expected : Char) : List Char → Option (List Char)
  | c :: rest => if c = expected then some rest else none
  | [] => none

/-- A year after blanks: four digits at most, or any number of them behind a sign. -/
def readYear? (cs : List Char) : Option (Int × List Char) :=
  match cs.dropWhile isBlank with
  | '-' :: rest => (readUpTo? rest.length rest).map fun (n, rest) => (-(n : Int), rest)
  | '+' :: rest => (readUpTo? rest.length rest).map fun (n, rest) => ((n : Int), rest)
  | cs => (readUpTo? 4 cs).map fun (n, rest) => ((n : Int), rest)

def isDate (text : String) : Bool :=
  let read? : Option Bool := do
    let (year, rest) ← readYear? text.toList
    let rest ← skip? '-' rest
    let (month, rest) ← readUpTo? 2 (rest.dropWhile isBlank)
    let rest ← skip? '-' rest
    let (day, rest) ← readUpTo? 2 (rest.dropWhile isBlank)
    return rest.isEmpty && isDay year month day
  read?.getD false

def skipFraction? : List Char → Option (List Char)
  | '.' :: rest =>
    if (rest.takeWhile isDigit).isEmpty then none else some (rest.dropWhile isDigit)
  | cs => some cs

/-- Whether a text is a zone offset: `Z`, or a sign with hours and minutes below
one day. -/
def isOffset : List Char → Bool
  | ['Z'] | ['z'] => true
  | sign :: rest =>
    let read? : Option Bool := do
      guard (sign = '+' ∨ sign = '-' ∨ sign = '\u2212')
      let (hours, rest) ← readExactly? 2 rest
      let rest ← skip? ':' rest
      let (minutes, rest) ← readExactly? 2 rest
      return rest.isEmpty && hours ≤ 23 && minutes ≤ 59
    read?.getD false
  | [] => false

/-- Whether a text is a point in time, such as `2024-02-29T08:30:00.5+01:00`.  A
blank may stand for the `T`, and a minute may have a second 60. -/
def isDatetime (text : String) : Bool :=
  let read? : Option Bool := do
    let (year, rest) ← readExactly? 4 text.toList
    let rest ← skip? '-' rest
    let (month, rest) ← readExactly? 2 rest
    let rest ← skip? '-' rest
    let (day, rest) ← readExactly? 2 rest
    let rest ← match rest with
      | 'T' :: rest | 't' :: rest | ' ' :: rest => some rest
      | _ => none
    let (hour, rest) ← readExactly? 2 rest
    let rest ← skip? ':' rest
    let (minute, rest) ← readExactly? 2 rest
    let rest ← skip? ':' rest
    let (second, rest) ← readExactly? 2 rest
    let rest ← skipFraction? rest
    return isDay year month day && hour ≤ 23 && minute ≤ 59 && second ≤ 60 &&
      isOffset rest
  read?.getD false

/-- Year, month and day of a number of days after 1 January 1970.  The count is
taken from the first of March of the year zero, where leap days come last in their
year. -/
def civil (days : Nat) : Nat × Nat × Nat :=
  let z := days + 719468
  let era := z / 146097
  let dayOfEra := z % 146097
  let yearOfEra := (dayOfEra - dayOfEra / 1460 + dayOfEra / 36524 - dayOfEra / 146096) / 365
  let dayOfYear := dayOfEra - (365 * yearOfEra + yearOfEra / 4 - yearOfEra / 100)
  let shifted := (5 * dayOfYear + 2) / 153
  let day := dayOfYear - (153 * shifted + 2) / 5 + 1
  let month := if shifted < 10 then shifted + 3 else shifted - 9
  let year := yearOfEra + era * 400 + (if month ≤ 2 then 1 else 0)
  (year, month, day)

/-- A natural with zeros in front up to a width. -/
def padded (width n : Nat) : List Char :=
  let digits := Nat.toDigits 10 n
  List.replicate (width - digits.length) '0' ++ digits

/-- The date of an instant, given in milliseconds after the start of 1970. -/
def dateChars (instant : Nat) : List Char :=
  let (year, month, day) := civil (instant / 86400000)
  padded 4 year ++ '-' :: padded 2 month ++ '-' :: padded 2 day

def dateText (instant : Nat) : String :=
  String.ofList (dateChars instant)

def instantText (instant : Nat) : String :=
  let ms := instant % 86400000
  String.ofList (dateChars instant ++ 'T' :: padded 2 (ms / 3600000) ++
    ':' :: padded 2 (ms / 60000 % 60) ++ ':' :: padded 2 (ms / 1000 % 60) ++
    '.' :: padded 3 (ms % 1000) ++ ['Z'])

end DocStore.Calendar
