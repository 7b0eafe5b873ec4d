import DocStore.Storage.Disk

/-!
# Patterns of files

A pattern names files by their folder and by what their names look like.  A star stands
for any characters and a question mark for one; brackets around a single character take
its meaning away.  Only the last part of a pattern is matched against names, the parts
before it spell one folder.  A pattern that begins with its only slash is about the
folder `/`.
-/

namespace DocStore

namespace FilePattern

/-- What a pattern asks of a name. -/
inductive Token where
  | char (c : Char)
  | any
  | many
  deriving DecidableEq

/-- The characters that mean something in a pattern. -/
def special : List Char := ['?', '*', '[', ']']

/-- The pattern of a text and of nothing else. -/
def escape (text : List Char) : List Char :=
  text.flatMap fun c => if special.contains c then ['[', c, ']'] else [c]

def tokens : List Char → List Token
  | '[' :: c :: ']' :: rest => .char c :: tokens rest
  | '?' :: rest => .any :: tokens rest
  | '*' :: rest => .many :: tokens rest
  | c :: rest => .char c :: tokens rest
  | [] => []

/-- The text that tokens spell, if they match no other. -/
def spelled? : List Token → Option (List Char)
  | [] => some []
  | .char c :: rest => (spelled? rest).map (c :: ·)
  | _ => none

def fits : List Token → List Char → Bool
  | [], name => name.isEmpty
  | .char c :: rest, name => name.head? == some c && fits rest name.tail
  | .any :: rest, name => !name.isEmpty && fits rest name.tail
  | .many :: rest, name => (List.range (name.length + 1)).any fun k => fits rest (name.drop k)

/-- The folder that a pattern is about, and what it asks of the names there. -/
def parts? (pattern : String) : Option (String × List Token) :=
  match splitAtLast? '/' pattern.toList with
  | none => some ("", tokens pattern.toList)
  | some (above, last) =>
    (spelled? (tokens above)).map fun folder =>
      (if folder.isEmpty then "/" else String.ofList folder, tokens last)

end FilePattern

/-- The paths of all that a pattern names, in order. -/
def Disk.matching (disk : Disk) (pattern : String) : List String :=
  match FilePattern.parts? pattern with
  | some (folder, asked) =>
    if disk.isFolder folder then
      ((disk.names folder).filter fun name => FilePattern.fits asked name.toList).map
        (Disk.join folder)
    else []
  | none => []

end DocStore
