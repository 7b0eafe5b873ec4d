import DocStore.Query.Cursor
import Mathlib

/-!
# Reading cursors back

A cursor that was written is read as the offset it was written for.  Its text passes
through three codings, and each one is undone by its reader: the decimal digits of
the offset, the bytes of the digits, and base 64.
-/

namespace DocStore

namespace Base64

theorem digit?_digitChar {n : Nat} (small : n < 64) : digit? (digitChar n) = some n := by
  have all : ∀ m < 64, digit? (digitChar m) = some m := by decide
  exact all n small

theorem digitChar_ne_padding {n : Nat} (small : n < 64) : digitChar n ≠ '=' := by
  intro same
  have isDigit := digit?_digitChar small
  rw [same] at isDigit
  exact absurd isDigit (by simp [digit?])

theorem ofNat_of_mod {n : Nat} {byte : UInt8} (ends : n % 256 = byte.toNat) :
    UInt8.ofNat n = byte := by
  apply UInt8.toNat_inj.1
  rw [UInt8.toNat_ofNat', ← ends]

/-- Up to three bytes make one number, whose digits the reader puts together again. -/
theorem decode?_encode (bytes : List UInt8) : decode? (encode bytes) = some bytes := by
  induction bytes using encode.induct with
  | case1 => rfl
  | case2 a =>
      have bound := a.toNat_lt
      have digits : a.toNat / 4 * 64 + a.toNat % 4 * 16 = a.toNat * 16 := by omega
      have noRest : a.toNat * 16 % 16 = 0 := by omega
      have only : UInt8.ofNat (a.toNat * 16 / 16) = a := ofNat_of_mod (by omega)
      simp only [encode, decode?, digit?_digitChar (n := a.toNat / 4) (by omega),
        digit?_digitChar (n := a.toNat % 4 * 16) (by omega), Option.bind_eq_bind,
        Option.bind_some, digits, noRest, only]
      rfl
  | case3 a b =>
      have bound := a.toNat_lt
      have otherBound := b.toNat_lt
      simp only [encode]
      generalize joined : a.toNat * 256 + b.toNat = n
      have digits : (n / 1024 * 64 + n / 16 % 64) * 64 + n % 16 * 4 = n * 4 := by omega
      have noRest : n * 4 % 4 = 0 := by omega
      have first : UInt8.ofNat (n * 4 / 1024) = a := ofNat_of_mod (by omega)
      have second : UInt8.ofNat (n * 4 / 4) = b := ofNat_of_mod (by omega)
      rw [decode?.eq_3 _ _ _ (digitChar_ne_padding (by omega))]
      simp only [digit?_digitChar (n := n / 1024) (by omega),
        digit?_digitChar (n := n / 16 % 64) (by omega),
        digit?_digitChar (n := n % 16 * 4) (by omega), Option.bind_eq_bind, Option.bind_some,
        digits, noRest, first, second]
      rfl
  | case4 a b c rest ih =>
      have bound := a.toNat_lt
      have otherBound := b.toNat_lt
      have lastBound := c.toNat_lt
      simp only [encode]
      generalize joined : (a.toNat * 256 + b.toNat) * 256 + c.toNat = n
      have digits :
          ((n / 262144 * 64 + n / 4096 % 64) * 64 + n / 64 % 64) * 64 + n % 64 = n := by omega
      have first : UInt8.ofNat (n / 65536) = a := ofNat_of_mod (by omega)
      have second : UInt8.ofNat (n / 256) = b := ofNat_of_mod (by omega)
      have third : UInt8.ofNat n = c := ofNat_of_mod (by omega)
      have notPadding : digitChar (n % 64) ≠ '=' := digitChar_ne_padding (by omega)
      rw [decode?.eq_4 _ _ _ _ _ (fun _ isPadding _ => notPadding isPadding)
        (fun isPadding _ => notPadding isPadding)]
      simp only [digit?_digitChar (n := n / 262144) (by omega),
        digit?_digitChar (n := n / 4096 % 64) (by omega),
        digit?_digitChar (n := n / 64 % 64) (by omega),
        digit?_digitChar (n := n % 64) (by omega), Option.bind_eq_bind, Option.bind_some, ih,
        digits, first, second, third]
      rfl

theorem eq_nil_of_encode {bytes : List UInt8} (empty : encode bytes = []) : bytes = [] := by
  have back := decode?_encode bytes
  rw [empty] at back
  exact (Option.some.inj back).symm

end Base64

theorem byteArray_toList_loop (bytes : ByteArray) (i : Nat) (done : List UInt8) :
    ByteArray.toList.loop bytes i done = done.reverse ++ bytes.data.toList.drop i := by
  have size : bytes.data.toList.length = bytes.size := rfl
  fun_induction ByteArray.toList.loop bytes i done with
  | case1 i done inside ih =>
      have read : bytes.get! i = bytes.data.toList[i] :=
        (getElem!_pos bytes.data i inside).trans (Array.getElem_toList inside).symm
      rw [ih, read, List.reverse_cons, List.append_assoc, List.singleton_append,
        List.getElem_cons_drop]
  | case2 i done outside =>
      rw [List.drop_eq_nil_of_le (by omega), List.append_nil]

theorem byteArray_toList (bytes : ByteArray) : bytes.toList = bytes.data.toList :=
  byteArray_toList_loop bytes 0 []

theorem fromUTF8?_toUTF8 (text : String) :
    String.fromUTF8? ⟨text.toUTF8.toList.toArray⟩ = some text := by
  rw [byteArray_toList]
  exact dif_pos text.isValidUTF8

theorem isDigit_toDigits {n : Nat} {c : Char} (member : c ∈ Nat.toDigits 10 n) :
    '0' ≤ c ∧ c ≤ '9' := by
  have isDigit := Nat.isDigit_of_mem_toDigits (by decide) (by decide) member
  simp only [Char.isDigit, Bool.and_eq_true, decide_eq_true_eq] at isDigit
  exact isDigit

theorem isDigit_iff {c : Char} : isDigit c = true ↔ '0' ≤ c ∧ c ≤ '9' := by
  simp [isDigit, digitValue?]

theorem isDigit_of_mem_toDigits {n : Nat} {c : Char} (member : c ∈ Nat.toDigits 10 n) :
    isDigit c = true :=
  isDigit_iff.2 (isDigit_toDigits member)

theorem naturalOfDigits_eq {digits : List Char} (areDigits : ∀ c ∈ digits, '0' ≤ c ∧ c ≤ '9')
    (acc : Nat) : naturalOfDigits acc digits = Nat.ofDigitChars 10 digits acc := by
  apply List.foldl_ext
  intro acc c member
  simp [digitValue?, areDigits c member]

theorem naturalOfDigits_toDigits (n : Nat) : naturalOfDigits 0 (Nat.toDigits 10 n) = n := by
  calc naturalOfDigits 0 (Nat.toDigits 10 n)
      = Nat.ofDigitChars 10 (Nat.toDigits 10 n) 0 :=
        naturalOfDigits_eq (fun _ member => isDigit_toDigits member) 0
    _ = n := Nat.ofDigitChars_toDigits (by decide) (by decide)

theorem readNatural?_toDigits (n : Nat) : readNatural? (Nat.toDigits 10 n) = some n := by
  have allDigits : (Nat.toDigits 10 n).all isDigit = true :=
    List.all_eq_true.2 fun _ member => isDigit_of_mem_toDigits member
  have nonempty : (Nat.toDigits 10 n).isEmpty = false := by simp
  simp [readNatural?, allDigits, naturalOfDigits_toDigits, nonempty]

theorem readUInt64?_toDigits {n : Nat} (fits : n < 2 ^ 64) :
    readUInt64? (Nat.toDigits 10 n) = some (UInt64.ofNat n) := by
  have noSign (rest : List Char) : Nat.toDigits 10 n ≠ '+' :: rest := by
    intro signed
    have isDigit := isDigit_toDigits (n := n) (c := '+') (by simp [signed])
    exact absurd isDigit (by decide)
  have inside : n < UInt64.size := fits
  simp [readUInt64?, readNatural?_toDigits, inside]

theorem trimBlanks_around {before body behind : List Char} (blanks : ∀ c ∈ before, isBlank c = true)
    (behindBlank : ∀ c ∈ behind, isBlank c = true) (dark : ∀ c ∈ body, isBlank c = false) :
    trimBlanks (before ++ (body ++ behind)) = body := by
  have keeps {first others : List Char} (dark : ∀ c ∈ first, isBlank c = false)
      (notEmpty : first ≠ []) : (first ++ others).dropWhile isBlank = first ++ others := by
    obtain ⟨c, more, rfl⟩ := List.exists_cons_of_ne_nil notEmpty
    simp [dark c List.mem_cons_self]
  rw [trimBlanks, List.dropWhile_append_of_pos blanks]
  by_cases empty : body = []
  · subst empty
    rw [List.nil_append, List.dropWhile_eq_nil_iff.2 behindBlank]
    rfl
  · rw [keeps dark empty, List.reverse_append,
      List.dropWhile_append_of_pos (by simpa using behindBlank)]
    have back := @keeps body.reverse [] (by simpa using dark) (by simpa using empty)
    rw [List.append_nil] at back
    rw [back, List.reverse_reverse]

theorem trimBlanks_eq_self {cs : List Char} (dark : ∀ c ∈ cs, isBlank c = false) :
    trimBlanks cs = cs := by
  have alone := @trimBlanks_around [] cs [] (by simp) (by simp) dark
  rwa [List.nil_append, List.append_nil] at alone

theorem isBlank_digit {c : Char} (isDigit : '0' ≤ c ∧ c ≤ '9') : isBlank c = false := by
  have least : 48 ≤ c.toNat := isDigit.1
  have most : c.toNat ≤ 57 := isDigit.2
  simp only [isBlank, Bool.or_eq_false_iff, Bool.and_eq_false_iff, decide_eq_false_iff_not,
    beq_eq_false_iff_ne]
  omega

theorem toLower_digit {c : Char} (isDigit : '0' ≤ c ∧ c ≤ '9') : c.toLower = c := by
  have most : c.val.toNat ≤ 57 := isDigit.2
  have notLetter : ¬ (c.val ≥ 'A'.val ∧ c.val ≤ 'Z'.val) := by
    intro ⟨least, _⟩
    have : 65 ≤ c.val.toNat := least
    omega
  exact dif_neg notLetter

namespace Cursor

variable {text : String}

/-- Only the start has the empty cursor. -/
theorem ofList_encode_ne_empty (written : text ≠ "") :
    (String.ofList (Base64.encode text.toUTF8.toList)).isEmpty = false := by
  apply Bool.eq_false_iff.2
  intro isEmpty
  have noChars := congrArg String.toList (String.isEmpty_iff.1 isEmpty)
  rw [String.toList_ofList] at noChars
  have noBytes := Base64.eq_nil_of_encode noChars
  rw [byteArray_toList] at noBytes
  have noSize : text.utf8ByteSize = 0 := congrArg List.length noBytes
  exact written (String.utf8ByteSize_eq_zero_iff.1 noSize)

/-- The cursor of a text is read as the word in it. -/
theorem decode?_ofList_encode (written : text ≠ "") :
    decode? (String.ofList (Base64.encode text.toUTF8.toList)) =
      readUInt64? (trimBlanks text.toList) := by
  simp only [decode?, ofList_encode_ne_empty written, Bool.false_eq_true, if_false,
    String.toList_ofList, Base64.decode?_encode, Option.bind_eq_bind, Option.bind_some,
    fromUTF8?_toUTF8]

theorem ofList_toDigits_ne_empty (n : Nat) : String.ofList (Nat.toDigits 10 n) ≠ "" := by
  simp

theorem encode_ne_empty (n : Nat) : (encode n).isEmpty = false :=
  ofList_encode_ne_empty (ofList_toDigits_ne_empty n)

theorem decode?_encode {n : Nat} (fits : n < 2 ^ 64) :
    decode? (encode n) = some (UInt64.ofNat n) := by
  have trimmed : trimBlanks (Nat.toDigits 10 n) = Nat.toDigits 10 n :=
    trimBlanks_eq_self fun _ member => isBlank_digit (isDigit_toDigits member)
  rw [encode, decode?_ofList_encode (ofList_toDigits_ne_empty n), String.toList_ofList, trimmed,
    readUInt64?_toDigits fits]

end Cursor

end DocStore
