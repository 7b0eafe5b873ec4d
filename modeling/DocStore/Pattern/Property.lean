import DocStore.Pattern.CharClass

/-!
# Names of character properties

The classes that a pattern can name by a property: general categories, scripts and
some properties that hold or do not hold.  Names are compared without regard to
letter case, blanks, hyphens and low lines.
-/

namespace DocStore.CharClass

def plainName (name : List Char) : String :=
  let kept := (name.filter fun c => c != ' ' && c != '_' && c != '-' && c.toNat < 128).map
    Char.toLower
  let stripped := match kept with
    | 'i' :: 's' :: rest => rest
    | _ => kept
  if kept = ['i', 's', 'c'] then "isc" else String.ofList stripped

/-- The class of a property that holds or does not hold. -/
def ofFlagName? : String → Option CharClass
  | "alpha" | "alphabetic" => some (property 732 isAlphabetic)
  | "lower" | "lowercase" => some (property 671 isLower)
  | "upper" | "uppercase" => some (property 651 isUpper)
  | "wspace" | "whitespace" | "space" => some (spaces true)
  | "cased" => some (property 157 LetterCase.isCased)
  | "ci" | "caseignorable" => some (property 437 LetterCase.isIgnorable)
  | "ahex" | "asciihexdigit" => ofAsciiName? "xdigit"
  | "hex" | "hexdigit" =>
    some (ofRanges [('0', '9'), ('A', 'F'), ('a', 'f'), ('\uFF10', '\uFF19'),
      ('\uFF21', '\uFF26'), ('\uFF41', '\uFF46')])
  | "joinc" | "joincontrol" => some (ofRanges [('\u200C', '\u200D')])
  | _ => none

def categoriesOfName? : String → Option (List Category)
  | "l" | "letter" => some Category.letters
  | "lc" | "casedletter" => some [.upperLetter, .lowerLetter, .titleLetter]
  | "lu" | "uppercaseletter" => some [.upperLetter]
  | "ll" | "lowercaseletter" => some [.lowerLetter]
  | "lt" | "titlecaseletter" => some [.titleLetter]
  | "lm" | "modifierletter" => some [.modifierLetter]
  | "lo" | "otherletter" => some [.otherLetter]
  | "m" | "mark" | "combiningmark" => some Category.marks
  | "mn" | "nonspacingmark" => some [.nonspacingMark]
  | "mc" | "spacingmark" => some [.spacingMark]
  | "me" | "enclosingmark" => some [.enclosingMark]
  | "n" | "number" => some Category.numbers
  | "nd" | "decimalnumber" | "digit" => some [.decimalNumber]
  | "nl" | "letternumber" => some [.letterNumber]
  | "no" | "othernumber" => some [.otherNumber]
  | "p" | "punctuation" | "punct" => some Category.punctuation
  | "pc" | "connectorpunctuation" => some [.connector]
  | "pd" | "dashpunctuation" => some [.dash]
  | "ps" | "openpunctuation" => some [.opening]
  | "pe" | "closepunctuation" => some [.closing]
  | "pi" | "initialpunctuation" => some [.initialQuote]
  | "pf" | "finalpunctuation" => some [.finalQuote]
  | "po" | "otherpunctuation" => some [.otherPunctuation]
  | "s" | "symbol" => some Category.symbols
  | "sm" | "mathsymbol" => some [.mathSymbol]
  | "sc" | "currencysymbol" => some [.currencySymbol]
  | "sk" | "modifiersymbol" => some [.modifierSymbol]
  | "so" | "othersymbol" => some [.otherSymbol]
  | "z" | "separator" => some Category.separators
  | "zs" | "spaceseparator" => some [.spaceSeparator]
  | "zl" | "lineseparator" => some [.lineSeparator]
  | "zp" | "paragraphseparator" => some [.paragraphSeparator]
  | "cc" | "control" | "cntrl" => some [.control]
  | "cf" | "format" => some [.format]
  | "co" | "privateuse" => some [.privateUse]
  | "assigned" => some Category.all
  | _ => none

def ofCategoryName? (name : String) : Option CharClass :=
  match name with
  | "any" => some (range 0 0x10FFFF)
  | "ascii" => some (range 0 127)
  | "cn" | "unassigned" => some (complement (ofCategories Category.all))
  | "c" | "other" =>
    some (union (ofCategories [.control, .format, .privateUse])
      (complement (ofCategories Category.all)))
  | name => (categoriesOfName? name).map ofCategories

def ofScriptName? (name : String) : Option CharClass :=
  (Script.ranges? name).map fun ranges =>
    property ranges.length fun c => LetterCase.inRanges ranges c.toNat

def ofName? (name : List Char) : Option CharClass :=
  let name := plainName name
  (ofFlagName? name).or ((ofCategoryName? name).or (ofScriptName? name))

def ofValue? (property value : List Char) : Option CharClass :=
  let value := plainName value
  match plainName property with
  | "gc" | "generalcategory" | "category" => ofCategoryName? value
  | "sc" | "script" => ofScriptName? value
  | _ => none

end DocStore.CharClass
