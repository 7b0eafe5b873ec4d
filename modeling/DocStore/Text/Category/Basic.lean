import DocStore.Text.Category.Others
import DocStore.Text.Blank

/-!
# General categories

The general category of characters, and the properties that rest on it: being
alphabetic, numeric, or a part of a word.
-/

namespace DocStore

inductive Category where
  | upperLetter | lowerLetter | titleLetter | modifierLetter | otherLetter
  | nonspacingMark | spacingMark | enclosingMark
  | decimalNumber | letterNumber | otherNumber
  | connector | dash | opening | closing | initialQuote | finalQuote | otherPunctuation
  | mathSymbol | currencySymbol | modifierSymbol | otherSymbol
  | spaceSeparator | lineSeparator | paragraphSeparator
  | control | format | privateUse
  deriving DecidableEq

namespace Category

def stretches : Category → List Stretch
  | upperLetter => upperLetterStretches
  | lowerLetter => lowerLetterStretches
  | titleLetter => titleLetterStretches
  | modifierLetter => modifierLetterStretches
  | otherLetter => otherLetterStretches
  | nonspacingMark => nonspacingMarkStretches
  | spacingMark => spacingMarkStretches
  | enclosingMark => enclosingMarkStretches
  | decimalNumber => decimalNumberStretches
  | letterNumber => letterNumberStretches
  | otherNumber => otherNumberStretches
  | connector => connectorStretches
  | dash => dashStretches
  | opening => openingStretches
  | closing => closingStretches
  | initialQuote => initialQuoteStretches
  | finalQuote => finalQuoteStretches
  | otherPunctuation => otherPunctuationStretches
  | mathSymbol => mathSymbolStretches
  | currencySymbol => currencySymbolStretches
  | modifierSymbol => modifierSymbolStretches
  | otherSymbol => otherSymbolStretches
  | spaceSeparator => spaceSeparatorStretches
  | lineSeparator => lineSeparatorStretches
  | paragraphSeparator => paragraphSeparatorStretches
  | control => controlStretches
  | format => formatStretches
  | privateUse => privateUseStretches

/-- Whether a code point lies in one of the stretches. -/
def inStretches (stretches : List Stretch) (n : Nat) : Bool :=
  stretches.any fun s => s.first ≤ n && n ≤ s.last && (n - s.first) % s.step == 0

def holds (category : Category) (c : Char) : Bool :=
  inStretches category.stretches c.toNat

def letters : List Category :=
  [upperLetter, lowerLetter, titleLetter, modifierLetter, otherLetter]

def marks : List Category := [nonspacingMark, spacingMark, enclosingMark]

def numbers : List Category := [decimalNumber, letterNumber, otherNumber]

def punctuation : List Category :=
  [connector, dash, opening, closing, initialQuote, finalQuote, otherPunctuation]

def symbols : List Category := [mathSymbol, currencySymbol, modifierSymbol, otherSymbol]

def separators : List Category := [spaceSeparator, lineSeparator, paragraphSeparator]

def all : List Category :=
  letters ++ marks ++ numbers ++ punctuation ++ symbols ++ separators ++
    [control, format, privateUse]

/-- How many runs of neighbouring characters some categories make up together. -/
def runCount (categories : List Category) : Nat :=
  let stretches := categories.flatMap stretches
  (stretches.flatMap Stretch.starts).countP fun n => n == 0 || !inStretches stretches (n - 1)

def oneOf (categories : List Category) (c : Char) : Bool :=
  categories.any (·.holds c)

end Category

open Category

def isLower (c : Char) : Bool :=
  lowerLetter.holds c || inStretches otherLowerStretches c.toNat

def isUpper (c : Char) : Bool :=
  upperLetter.holds c || inStretches otherUpperStretches c.toNat

def isAlphabetic (c : Char) : Bool :=
  Category.oneOf (letterNumber :: letters) c || inStretches otherAlphabeticStretches c.toNat

/-- Whether a character is a number of any kind. -/
def isNumeric (c : Char) : Bool :=
  Category.oneOf numbers c

def isWordChar (c : Char) : Bool :=
  c.isAlphanum || c == '_' || c == '\u200C' || c == '\u200D' ||
    isAlphabetic c || Category.oneOf (decimalNumber :: connector :: marks) c

end DocStore
