import DocStore.Number.Reading
import DocStore.Text.Category.Basic

/-!
# Quoted texts

Texts between quotation marks, as descriptions of values show them: what cannot be
seen, and what would join the character before it, is written as its number.
-/

namespace DocStore

namespace Quoted

/-- The characters beside the marks that join the character before them. -/
def joiningStretches : List (Nat × Nat) := [
  (0x9BE, 0x9BE), (0x9D7, 0x9D7), (0xB3E, 0xB3E), (0xB57, 0xB57), (0xBBE, 0xBBE),
  (0xBD7, 0xBD7), (0xCC2, 0xCC2), (0xCD5, 0xCD6), (0xD3E, 0xD3E), (0xD57, 0xD57),
  (0xDCF, 0xDCF), (0xDDF, 0xDDF), (0x1B35, 0x1B35), (0x200C, 0x200C), (0x302E, 0x302F),
  (0xFF9E, 0xFF9F), (0x1133E, 0x1133E), (0x11357, 0x11357), (0x114B0, 0x114B0),
  (0x114BD, 0x114BD), (0x115AF, 0x115AF), (0x11930, 0x11930), (0x1D165, 0x1D165),
  (0x1D16E, 0x1D172), (0xE0020, 0xE007F)]

def isJoining (c : Char) : Bool :=
  Category.nonspacingMark.holds c || Category.enclosingMark.holds c ||
    joiningStretches.any fun (first, last) => first ≤ c.toNat && c.toNat ≤ last

/-- Whether a character can be seen, the space among them. -/
def isVisible (c : Char) : Bool :=
  c == ' ' || (Category.letters ++ Category.marks ++ Category.numbers ++
    Category.punctuation ++ Category.symbols).any (·.holds c)

/-- The character as it is written between quotation marks. -/
def escape (c : Char) : List Char :=
  match c with
  | '\x00' => ['\\', '0']
  | '\t' => ['\\', 't']
  | '\r' => ['\\', 'r']
  | '\n' => ['\\', 'n']
  | '"' => ['\\', '"']
  | '\\' => ['\\', '\\']
  | c =>
    if isJoining c || !isVisible c then
      ['\\', 'u', '\x7b'] ++ Nat.toDigits 16 c.toNat ++ ['\x7d']
    else [c]

def ofText (text : String) : String :=
  String.ofList ('"' :: text.toList.flatMap escape ++ ['"'])

def ofTexts (texts : List String) : String :=
  "[" ++ ", ".intercalate (texts.map ofText) ++ "]"

end Quoted

end DocStore
