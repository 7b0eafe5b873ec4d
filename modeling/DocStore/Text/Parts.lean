import DocStore.Text.Blank

/-!
# Parts of texts

Occurrence of one text in another, and lists of entries separated by a comma.
-/

namespace DocStore

/-- Whether `needle` stands somewhere in `hay`, its characters side by side. -/
def occursIn (needle : List Char) : List Char → Bool
  | [] => needle.isEmpty
  | c :: rest => needle.isPrefixOf (c :: rest) || occursIn needle rest

/-- The pieces between the separators; one more than there are separators. -/
def splitAtChar (separator : Char) : List Char → List (List Char)
  | [] => [[]]
  | c :: rest =>
    if c = separator then [] :: splitAtChar separator rest
    else match splitAtChar separator rest with
      | piece :: pieces => (c :: piece) :: pieces
      | [] => [[c]]

/-- The entries of a comma-separated list, trimmed, the empty ones left out. -/
def splitEntries (text : String) : List String :=
  (((splitAtChar ',' text.toList).map trimBlanks).filter (!·.isEmpty)).map String.ofList

/-- The text before and after the last occurrence of a character. -/
def splitAtLast? (separator : Char) (cs : List Char) : Option (List Char × List Char) :=
  match cs.reverse.dropWhile (· != separator) with
  | [] => none
  | _ :: before =>
    some (before.reverse, (cs.reverse.takeWhile (· != separator)).reverse)

/-- The text before and after the first occurrence of a character. -/
def splitAtFirst? (separator : Char) (cs : List Char) : Option (List Char × List Char) :=
  match cs.dropWhile (· != separator) with
  | [] => none
  | _ :: after => some (cs.takeWhile (· != separator), after)

/-- The text before and after the first occurrence of another text. -/
def splitAtText? (separator : List Char) : List Char → Option (List Char × List Char)
  | [] => none
  | c :: rest =>
    if separator.isPrefixOf (c :: rest) then some ([], (c :: rest).drop separator.length)
    else (splitAtText? separator rest).map fun (before, after) => (c :: before, after)

/-- What follows `start` in a text that begins with it. -/
def afterStart? (start text : String) : Option String :=
  if start.toList.isPrefixOf text.toList then
    some (String.ofList (text.toList.drop start.toList.length))
  else none

end DocStore
