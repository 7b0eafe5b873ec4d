import DocStore.Text.Category.Basic

/-!
# Modes of a pattern

The modes in which the parts of a pattern are read, and the blanks and comments
that do not count when the pattern is written spaced out.
-/

namespace DocStore.Pattern

/-- How the parts of a pattern are to be read. -/
structure Modes where
  ignoreCase : Bool := false
  /-- `^` and `$` stand for the ends of lines. -/
  multiLine : Bool := false
  /-- `.` stands for line breaks, too. -/
  dotAll : Bool := false
  /-- A carriage return ends lines, too. -/
  returns : Bool := false
  unicode : Bool := true
  /-- Blanks and comments do not count. -/
  spaced : Bool := false

/-- Sets or clears the mode of a letter.  The letter for greed changes nothing that
matters here. -/
def Modes.set? (modes : Modes) (letter : Char) (on : Bool) : Option Modes :=
  match letter with
  | 'i' => some { modes with ignoreCase := on }
  | 'm' => some { modes with multiLine := on }
  | 's' => some { modes with dotAll := on }
  | 'R' => some { modes with returns := on }
  | 'u' => some { modes with unicode := on }
  | 'x' => some { modes with spaced := on }
  | 'U' => some modes
  | _ => none

/-- Mode letters read up to a colon or a closing bracket. -/
structure ModeLetters where
  modes : Modes
  /-- The letters, each at most once. -/
  seen : List Char
  /-- Whether a minus sign has come, and whether it came last. -/
  negated : Bool
  dangling : Bool

/-- Reads mode letters.  The result tells which character ended them. -/
def readModes? (read : ModeLetters) :
    List Char → Option (ModeLetters × Char × List Char)
  | [] => none
  | c :: rest =>
    if c = ':' ∨ c = ')' then
      if read.dangling then none else some (read, c, rest)
    else if c = '-' then
      if read.negated then none
      else readModes? { read with negated := true, dangling := true } rest
    else if read.seen.contains c then none
    else match read.modes.set? c (!read.negated) with
      | some modes =>
        readModes? { read with modes, seen := c :: read.seen, dangling := false } rest
      | none => none

/-- Drops blanks and comments; `comment` tells whether a comment is open. -/
def dropSpace (comment : Bool) : List Char → List Char
  | [] => []
  | c :: rest =>
    if comment then dropSpace (c != '\n') rest
    else if isBlank c then dropSpace false rest
    else if c = '#' then dropSpace true rest
    else c :: rest

theorem length_dropSpace_le (comment : Bool) (cs : List Char) :
    (dropSpace comment cs).length ≤ cs.length := by
  induction cs generalizing comment with
  | nil => simp [dropSpace]
  | cons c rest ih =>
      simp only [dropSpace]
      split
      · exact Nat.le_succ_of_le (ih _)
      · split
        · exact Nat.le_succ_of_le (ih _)
        · split
          · exact Nat.le_succ_of_le (ih _)
          · exact Nat.le_refl _

/-- What counts next: in spaced mode, what follows blanks and comments. -/
def Modes.next (modes : Modes) (cs : List Char) : List Char :=
  if modes.spaced then dropSpace false cs else cs

theorem Modes.length_next_le (modes : Modes) (cs : List Char) :
    (modes.next cs).length ≤ cs.length := by
  unfold Modes.next
  split
  · exact length_dropSpace_le false cs
  · exact Nat.le_refl _

end DocStore.Pattern
