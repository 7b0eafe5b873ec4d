import DocStore.Proofs.CursorCodec
import DocStore.Query.Evaluate

/-!
# What cursors mark

Every offset is read back from its own cursor.  The reader of base 64 takes the text of some
bytes and no other, so a cursor that is read is the base 64 text of something that spells an
offset: decimal digits, which may have a plus sign in front and blanks around.  Only the
empty cursor, which is the cursor of no offset, marks the start without spelling it.
-/

namespace DocStore

namespace Base64

theorem ofNat_add_sub {c : Char} {base : Nat} (least : base ≤ c.toNat) :
    Char.ofNat (base + (c.toNat - base)) = c := by
  rw [Nat.add_sub_cancel' least, Char.ofNat_toNat]

/-- Only the character of a value has that value. -/
theorem digitChar_of_digit? {c : Char} {n : Nat} (found : digit? c = some n) :
    n < 64 ∧ digitChar n = c := by
  unfold digit? at found
  split_ifs at found with upper lower digit plus slash <;> obtain rfl := Option.some.inj found
  · have least : 65 ≤ c.toNat := upper.1
    have most : c.toNat ≤ 90 := upper.2
    have small : c.toNat - 65 < 26 := by omega
    exact ⟨by omega, by rw [digitChar, if_pos small, ofNat_add_sub least]⟩
  · have least : 97 ≤ c.toNat := lower.1
    have most : c.toNat ≤ 122 := lower.2
    have place : 97 + (c.toNat - 97 + 26 - 26) = 97 + (c.toNat - 97) := by omega
    refine ⟨by omega, ?_⟩
    rw [digitChar, if_neg (by omega), if_pos (by omega), place, ofNat_add_sub least]
  · have least : 48 ≤ c.toNat := digit.1
    have most : c.toNat ≤ 57 := digit.2
    have place : 48 + (c.toNat - 48 + 52 - 52) = 48 + (c.toNat - 48) := by omega
    refine ⟨by omega, ?_⟩
    rw [digitChar, if_neg (by omega), if_neg (by omega), if_pos (by omega), place,
      ofNat_add_sub least]
  · exact ⟨by decide, plus.symm⟩
  · exact ⟨by decide, slash.symm⟩

/-- The letters, the digits and two signs, in the standard order. -/
example : String.ofList ((List.range 64).map digitChar) =
    "ABCDEFGHIJKLMNOPQRSTUVWXYZabcdefghijklmnopqrstuvwxyz0123456789+/" := by
  decide +kernel

/-- A text is read as the bytes whose text it is: the padding is complete, and no bit is set
behind the last byte. -/
theorem encode_of_decode? {text : List Char} {bytes : List UInt8}
    (found : decode? text = some bytes) : encode bytes = text := by
  fun_induction decode? text generalizing bytes with
  | case1 =>
      obtain rfl := Option.some.inj found
      rfl
  | case2 a b =>
      simp only [Option.bind_eq_bind, Option.bind_eq_some_iff, Option.pure_def,
        Option.guard_eq_some', exists_const, Option.some.injEq] at found
      obtain ⟨p, isP, q, isQ, noRest, rfl⟩ := found
      obtain ⟨pSmall, rfl⟩ := digitChar_of_digit? isP
      obtain ⟨qSmall, rfl⟩ := digitChar_of_digit? isQ
      -- The guard makes the four bits behind the byte zero, so both digits come from it alone.
      have first : (p * 64 + q) / 16 % 2 ^ 8 / 4 = p := by omega
      have second : (p * 64 + q) / 16 % 2 ^ 8 % 4 * 16 = q := by omega
      simp only [encode, UInt8.toNat_ofNat', first, second]
  | case3 a b c =>
      simp only [Option.bind_eq_bind, Option.bind_eq_some_iff, Option.pure_def,
        Option.guard_eq_some', exists_const, Option.some.injEq] at found
      obtain ⟨p, isP, q, isQ, r, isR, noRest, rfl⟩ := found
      obtain ⟨pSmall, rfl⟩ := digitChar_of_digit? isP
      obtain ⟨qSmall, rfl⟩ := digitChar_of_digit? isQ
      obtain ⟨rSmall, rfl⟩ := digitChar_of_digit? isR
      simp only [encode, UInt8.toNat_ofNat']
      generalize joined : (p * 64 + q) * 64 + r = n at noRest
      have bytes : n / 1024 % 2 ^ 8 * 256 + n / 4 % 2 ^ 8 = n / 4 := by omega
      have first : n / 4 / 1024 = p := by omega
      have second : n / 4 / 16 % 64 = q := by omega
      have third : n / 4 % 16 * 4 = r := by omega
      rw [bytes, first, second, third]
  | case4 a b c d rest _ _ ih =>
      simp only [Option.bind_eq_bind, Option.bind_eq_some_iff, Option.pure_def,
        Option.some.injEq] at found
      obtain ⟨p, isP, q, isQ, r, isR, s, isS, more, read, rfl⟩ := found
      obtain ⟨pSmall, rfl⟩ := digitChar_of_digit? isP
      obtain ⟨qSmall, rfl⟩ := digitChar_of_digit? isQ
      obtain ⟨rSmall, rfl⟩ := digitChar_of_digit? isR
      obtain ⟨sSmall, rfl⟩ := digitChar_of_digit? isS
      simp only [encode, UInt8.toNat_ofNat', ih read]
      generalize joined : ((p * 64 + q) * 64 + r) * 64 + s = n
      have bytes : (n / 65536 % 2 ^ 8 * 256 + n / 256 % 2 ^ 8) * 256 + n % 2 ^ 8 = n := by omega
      have first : n / 262144 = p := by omega
      have second : n / 4096 % 64 = q := by omega
      have third : n / 64 % 64 = r := by omega
      have fourth : n % 64 = s := by omega
      rw [bytes, first, second, third, fourth]
  | case5 => cases found

theorem decode?_eq_some_iff {text : List Char} {bytes : List UInt8} :
    decode? text = some bytes ↔ text = encode bytes :=
  ⟨fun found => (encode_of_decode? found).symm, fun same => same ▸ decode?_encode bytes⟩

end Base64

theorem fromUTF8?_eq_some {bytes : List UInt8} {text : String}
    (found : String.fromUTF8? ⟨bytes.toArray⟩ = some text) : bytes = text.toUTF8.toList := by
  unfold String.fromUTF8? at found
  split_ifs at found with valid
  obtain rfl := Option.some.inj found
  rw [byteArray_toList]
  rfl

/-! ### Texts of words -/

/-- Blanks are taken off the two ends, and nothing else. -/
theorem exists_around_trimBlanks (text : List Char) :
    ∃ before behind, (∀ c ∈ before, isBlank c = true) ∧ (∀ c ∈ behind, isBlank c = true) ∧
      text = before ++ (trimBlanks text ++ behind) := by
  have front := List.takeWhile_append_dropWhile (p := isBlank) (l := text)
  have back := List.takeWhile_append_dropWhile (p := isBlank) (l := (text.dropWhile isBlank).reverse)
  refine ⟨text.takeWhile isBlank, ((text.dropWhile isBlank).reverse.takeWhile isBlank).reverse,
    fun c member => List.mem_takeWhile_imp member,
    fun c member => List.mem_takeWhile_imp (List.mem_reverse.1 member), ?_⟩
  rw [trimBlanks, ← List.reverse_append, back, List.reverse_reverse, front]

/-- Whether a text spells a natural: its digits behind a plus sign or none, perhaps with
zeros in front and with blanks around. -/
def SpellsNatural (text : List Char) (n : Nat) : Prop :=
  ∃ before sign digits behind, text = before ++ (sign ++ digits ++ behind) ∧
    (∀ c ∈ before, isBlank c = true) ∧ (∀ c ∈ behind, isBlank c = true) ∧
    (sign = [] ∨ sign = ['+']) ∧ digits ≠ [] ∧ (∀ c ∈ digits, isDigit c = true) ∧
    naturalOfDigits 0 digits = n

theorem readNatural?_eq_some_iff {cs : List Char} {n : Nat} :
    readNatural? cs = some n ↔
      cs ≠ [] ∧ (∀ c ∈ cs, isDigit c = true) ∧ naturalOfDigits 0 cs = n := by
  unfold readNatural?
  split_ifs with digits
  · simp_all
  · simp_all

/-- A word is read from its digits alone or behind a plus sign. -/
theorem readUInt64?_eq_some_iff {cs : List Char} {word : UInt64} :
    readUInt64? cs = some word ↔
      ∃ sign digits, cs = sign ++ digits ∧ (sign = [] ∨ sign = ['+']) ∧
        readNatural? digits = some word.toNat := by
  have fits (n : Nat) : (if n < UInt64.size then some (UInt64.ofNat n) else none) = some word ↔
      n = word.toNat := by
    constructor
    · intro stored
      split_ifs at stored with inside
      rw [← Option.some.inj stored]
      exact (UInt64.toNat_ofNat_of_lt' inside).symm
    · rintro rfl
      rw [if_pos word.toNat_lt, UInt64.ofNat_toNat]
  have unsigned (digits : List Char) :
      ((readNatural? digits).bind fun n =>
        if n < UInt64.size then some (UInt64.ofNat n) else none) = some word ↔
      readNatural? digits = some word.toNat := by
    simp only [Option.bind_eq_some_iff, fits, exists_eq_right]
  unfold readUInt64?
  simp only [Option.bind_eq_bind, unsigned]
  constructor
  · intro read
    split at read
    · exact ⟨['+'], _, rfl, .inr rfl, read⟩
    · exact ⟨[], cs, rfl, .inl rfl, read⟩
  · rintro ⟨sign, digits, rfl, rfl | rfl, read⟩
    · split
      · rename_i rest signed
        -- Digits that are read do not begin with a sign.
        obtain rfl : digits = '+' :: rest := signed
        have isDigit := (readNatural?_eq_some_iff.1 read).2.1 '+' List.mem_cons_self
        exact absurd isDigit (by decide)
      · exact read
    · exact read

theorem readUInt64?_trimBlanks_iff {text : List Char} {word : UInt64} :
    readUInt64? (trimBlanks text) = some word ↔ SpellsNatural text word.toNat := by
  rw [readUInt64?_eq_some_iff]
  constructor
  · rintro ⟨sign, digits, trimmed, isSign, read⟩
    obtain ⟨notEmpty, areDigits, value⟩ := readNatural?_eq_some_iff.1 read
    obtain ⟨before, behind, blanks, behindBlank, around⟩ := exists_around_trimBlanks text
    rw [trimmed] at around
    exact ⟨before, sign, digits, behind, around, blanks, behindBlank, isSign, notEmpty,
      areDigits, value⟩
  · rintro ⟨before, sign, digits, behind, rfl, blanks, behindBlank, isSign, notEmpty,
      areDigits, value⟩
    refine ⟨sign, digits, ?_, isSign, readNatural?_eq_some_iff.2 ⟨notEmpty, areDigits, value⟩⟩
    apply trimBlanks_around blanks behindBlank
    intro c member
    rcases List.mem_append.1 member with inSign | inDigits
    · rcases isSign with rfl | rfl
      · cases inSign
      · obtain rfl := List.mem_singleton.1 inSign
        decide
    · exact isBlank_digit (isDigit_iff.1 (areDigits c inDigits))

namespace Cursor

/-- The cursors of an offset: the base 64 text of anything that spells it, and for the start
the empty one as well. -/
inductive Marks : String → Nat → Prop where
  | start : Marks "" 0
  | spelled {text : String} {offset : Nat} (fits : offset < 2 ^ 64)
      (spells : SpellsNatural text.toList offset) :
      Marks (String.ofList (Base64.encode text.toUTF8.toList)) offset

theorem Marks.lt {cursor : String} {offset : Nat} (marks : Marks cursor offset) :
    offset < 2 ^ 64 := by
  cases marks with
  | start => decide
  | spelled fits => exact fits

/-- A cursor is read as the offset that it marks, and no other cursor is read. -/
theorem decode?_eq_some_iff {cursor : String} {offset : UInt64} :
    decode? cursor = some offset ↔ Marks cursor offset.toNat := by
  constructor
  · intro found
    unfold decode? at found
    split_ifs at found with empty
    · obtain rfl := Option.some.inj found
      rw [String.isEmpty_iff.1 empty]
      exact .start
    · simp only [Option.bind_eq_bind, Option.bind_eq_some_iff] at found
      obtain ⟨bytes, decoded, text, isText, read⟩ := found
      rw [Base64.decode?_eq_some_iff, fromUTF8?_eq_some isText] at decoded
      rw [← @String.ofList_toList cursor, decoded]
      exact .spelled offset.toNat_lt (readUInt64?_trimBlanks_iff.1 read)
  · intro marks
    generalize value : offset.toNat = n at marks
    cases marks with
    | start =>
        obtain rfl : offset = 0 := UInt64.toNat_inj.1 value
        rfl
    | @spelled text _ fits spells =>
        -- A spelled offset has a digit, so its cursor is not the empty one, read as the start.
        have written : text ≠ "" := by
          rintro rfl
          obtain ⟨_, _, digits, _, nothing, -, -, -, notEmpty, -, -⟩ := spells
          simp [notEmpty] at nothing
        rw [decode?_ofList_encode written]
        exact readUInt64?_trimBlanks_iff.2 (value ▸ spells)

/-- A query that starts at a cursor is refused exactly if the cursor marks no offset. -/
theorem cut_eq_error_iff {cursor : String} {limit : UInt64} {records : List Record} :
    Paging.cut (.cursor (some cursor) limit) records = .error (.invalidCursor cursor) ↔
      ∀ offset, ¬ Marks cursor offset := by
  simp only [Paging.cut, Option.getD_some]
  cases found : decode? cursor with
  | some offset =>
      refine iff_of_false nofun fun none => none offset.toNat ?_
      exact decode?_eq_some_iff.1 found
  | none =>
      refine iff_of_true rfl fun offset marks => ?_
      have inside : offset < 2 ^ 64 := marks.lt
      have read := (@decode?_eq_some_iff cursor (UInt64.ofNat offset)).2
        (by rwa [UInt64.toNat_ofNat_of_lt' inside])
      rw [found] at read
      cases read

/-- The cursor of an offset is read as that offset, is never the empty one and no other
offset's, and so starts a page at its offset.  What is read as the offset is any cursor that
marks it, in the one base 64 text of its bytes, and every other cursor is refused. -/
theorem offset_read_back {n : Nat} (fits : n < 2 ^ 64) :
    (decode? (encode n)).map UInt64.toNat = some n ∧ encode n ≠ "" ∧
      (∀ m < 2 ^ 64, encode m = encode n → m = n) ∧
      (∀ limit records, Paging.cut (.cursor (some (encode n)) limit) records =
        .ok (Paging.cutFrom (UInt64.ofNat n) limit records)) ∧
      (∀ cursor, (decode? cursor).map UInt64.toNat = some n ↔ Marks cursor n) ∧
      (∀ chars bytes, Base64.decode? chars = some bytes ↔ chars = Base64.encode bytes) ∧
      ∀ cursor limit records,
        Paging.cut (.cursor (some cursor) limit) records = .error (.invalidCursor cursor) ↔
          ∀ offset, ¬ Marks cursor offset := by
  have back {m : Nat} (inside : m < 2 ^ 64) : (decode? (encode m)).map UInt64.toNat = some m := by
    rw [decode?_encode inside, Option.map_some, UInt64.toNat_ofNat_of_lt' inside]
  refine ⟨back fits, ?_, ?_, ?_, ?_, fun _ _ => Base64.decode?_eq_some_iff,
    fun _ _ _ => cut_eq_error_iff⟩
  · intro empty
    have written := encode_ne_empty n
    rw [empty] at written
    cases written
  · intro m inside same
    have read := back inside
    rw [same, back fits] at read
    exact (Option.some.inj read).symm
  · intro limit records
    simp only [Paging.cut, Option.getD_some, decode?_encode fits]
  · intro cursor
    have value (offset : UInt64) : offset.toNat = n ↔ offset = UInt64.ofNat n := by
      rw [← UInt64.toNat_inj, UInt64.toNat_ofNat_of_lt' fits]
    simp only [Option.map_eq_some_iff, value, exists_eq_right, decode?_eq_some_iff,
      UInt64.toNat_ofNat_of_lt' fits]

/-- The largest offset has twenty digits, the last two of them in a group with padding. -/
theorem most_read_back :
    (decode? "MTg0NDY3NDQwNzM3MDk1NTE2MTU=").map UInt64.toNat = some 18446744073709551615 ∧
      "MTg0NDY3NDQwNzM3MDk1NTE2MTU=" ≠ "" := by
  have cursor : encode 18446744073709551615 = "MTg0NDY3NDQwNzM3MDk1NTE2MTU=" := by
    decide +kernel
  obtain ⟨read, written, -⟩ := offset_read_back (n := 18446744073709551615) (by decide)
  rw [cursor] at read written
  exact ⟨read, written⟩

end Cursor

end DocStore
