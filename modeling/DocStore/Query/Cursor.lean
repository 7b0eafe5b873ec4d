import DocStore.Text.Base64
import DocStore.Text.Parts
import DocStore.Number.Reading

/-!
# Cursors

A cursor marks a place in a result: the base 64 text of the decimal offset.  The
empty cursor marks the start.
-/

namespace DocStore.Cursor

def encode (offset : Nat) : String :=
  String.ofList (Base64.encode (String.ofList (Nat.toDigits 10 offset)).toUTF8.toList)

/-- The offset of a cursor: a word, possibly between blanks. -/
def decode? (cursor : String) : Option UInt64 := do
  if cursor.isEmpty then
    return 0
  let bytes ← Base64.decode? cursor.toList
  let text ← String.fromUTF8? ⟨bytes.toArray⟩
  readUInt64? (trimBlanks text.toList)

end DocStore.Cursor
