import DocStore.Proofs.CsvRoundTrip
import DocStore.Proofs.ShortDecimals

/-!
# Typed ids

A text that is typed as a field counts as a JSON text first and as itself otherwise; typed as
an id it counts as a number first.  `Json.ReadAlike` says when both stand for equal values.
-/

namespace DocStore

namespace Json

/-! ### How the reader comes to a value -/

namespace Reader

theorem isBlank_of_isSpace {c : Char} (space : isSpace c = true) : isBlank c = true := by
  simp only [isSpace, Bool.or_eq_true, beq_iff_eq] at space
  rcases space with ((rfl | rfl) | rfl) | rfl <;> decide

theorem length_characters_cons {c : Char} {body chars rest : List Char}
    (shorter : ∀ {chars rest}, characters body = some (chars, rest) →
      chars.length + rest.length < body.length)
    (read : (do
      let (more, after) ← characters body
      return (c :: more, after)) = some (chars, rest)) :
    chars.length + rest.length < body.length + 1 := by
  simp only [Option.bind_eq_bind, Option.bind_eq_some_iff, Option.pure_def, Option.some.injEq,
    Prod.mk.injEq, Prod.exists] at read
  obtain ⟨more, after, found, rfl, rfl⟩ := read
  have := shorter found
  rw [List.length_cons]
  omega

/-- A string of a JSON text has fewer characters than the text behind its opening quote. -/
theorem length_characters {cs chars rest : List Char}
    (read : characters cs = some (chars, rest)) : chars.length + rest.length < cs.length := by
  induction cs using characters.induct generalizing chars rest with
  | case1 => cases read
  | case2 rest =>
      cases read
      simp
  | case3 a b c d e f g h body shorter again =>
      rw [characters] at read
      obtain ⟨first, -, read⟩ := Option.bind_eq_some_iff.1 read
      split_ifs at read
      · obtain ⟨second, -, read⟩ := Option.bind_eq_some_iff.1 read
        obtain ⟨-, -, read⟩ := Option.bind_eq_some_iff.1 read
        have := length_characters_cons shorter read
        simp only [List.length_cons]
        omega
      · obtain ⟨-, -, read⟩ := Option.bind_eq_some_iff.1 read
        have := length_characters_cons again read
        simp only [List.length_cons] at this ⊢
        omega
  | case4 a b c d body alone shorter =>
      rw [characters.eq_4 _ _ _ _ _ alone] at read
      obtain ⟨code, -, read⟩ := Option.bind_eq_some_iff.1 read
      obtain ⟨-, -, read⟩ := Option.bind_eq_some_iff.1 read
      have := length_characters_cons shorter read
      simp only [List.length_cons]
      omega
  | case5 letter body notPair notWord shorter =>
      rw [characters.eq_5 _ _ notPair notWord] at read
      obtain ⟨c, -, read⟩ := Option.bind_eq_some_iff.1 read
      have := length_characters_cons shorter read
      simp only [List.length_cons]
      omega
  | case6 c body notQuote notPair notWord notEscape shorter =>
      rw [characters.eq_6 _ _ notQuote notPair notWord notEscape] at read
      obtain ⟨-, -, read⟩ := Option.bind_eq_some_iff.1 read
      exact length_characters_cons shorter read

/-- What is known of the text in front of a value, blanks left out. -/
inductive ReadAs (cs : List Char) : Json → List Char → Prop where
  | null {rest : List Char} (begins : cs = 'n' :: 'u' :: 'l' :: 'l' :: rest) :
      ReadAs cs .null rest
  | string {body chars rest : List Char} (begins : cs = '"' :: body)
      (read : characters body = some (chars, rest)) :
      ReadAs cs (.string (String.ofList chars)) rest
  | number {t : NumberText} {n : Number} {rest : List Char}
      (read : NumberText.read? cs = some (t, rest)) (value : t.value? = some n) :
      ReadAs cs (.number n) rest
  | bool (value : Bool) (rest : List Char) : ReadAs cs (.bool value) rest
  | array (items : List Json) (rest : List Char) : ReadAs cs (.array items) rest
  | object (fields : List (String × Json)) (rest : List Char) : ReadAs cs (.object fields) rest

theorem readAs_of_value {depth fuel : Nat} {cs rest : List Char} {tree : Json}
    (read : value depth cs (fuel + 1) = some (tree, rest)) :
    ReadAs (skipSpace cs) tree rest := by
  rw [value] at read
  split at read
  · rename_i begins
    cases read
    exact .null begins
  · cases read
    exact .bool true rest
  · cases read
    exact .bool false rest
  · rename_i begins
    obtain ⟨⟨chars, after⟩, found, same⟩ := Option.map_eq_some_iff.1 read
    cases same
    exact .string begins found
  · split at read
    · cases read
    · cases read
      exact .array [] rest
    · obtain ⟨found, -, same⟩ := Option.map_eq_some_iff.1 read
      cases same
      exact .array _ _
  · split at read
    · cases read
    · cases read
      exact .object [] rest
    · obtain ⟨found, -, same⟩ := Option.map_eq_some_iff.1 read
      cases same
      exact .object _ _
  · simp only [Option.bind_eq_bind, Option.bind_eq_some_iff, Option.pure_def, Option.some.injEq,
      Prod.mk.injEq, Prod.exists] at read
    obtain ⟨t, after, found, n, value, rfl, rfl⟩ := read
    exact .number found value

end Reader

theorem readAs_of_read? {text : String} {value : Json} (read : read? text = some value) :
    ∃ tree rest, Reader.ReadAs (Reader.skipSpace text.toList) tree rest ∧
      (∀ c ∈ rest, isBlank c = true) ∧ merged tree = value := by
  obtain ⟨found, treeRead, same⟩ := Option.map_eq_some_iff.1 read
  obtain ⟨⟨tree, rest⟩, parsed, checked⟩ := Option.bind_eq_some_iff.1 treeRead
  obtain ⟨⟨⟩, ends, answered⟩ := Option.bind_eq_some_iff.1 checked
  obtain rfl : tree = found := Option.some.inj answered
  have allSpace : Reader.skipSpace rest = [] := by
    simpa [guard, failure] using ends
  refine ⟨tree, rest, Reader.readAs_of_value parsed, ?_, same⟩
  intro c member
  exact Reader.isBlank_of_isSpace (List.dropWhile_eq_nil_iff.1 allSpace c member)

theorem exists_before_skipSpace (text : String) :
    ∃ before, (∀ c ∈ before, isBlank c = true) ∧
      text.toList = before ++ Reader.skipSpace text.toList := by
  refine ⟨text.toList.takeWhile Reader.isSpace, ?_, List.takeWhile_append_dropWhile.symm⟩
  exact fun _ member => Reader.isBlank_of_isSpace (List.mem_takeWhile_imp member)

/-- The digits of the number at the start of a text. -/
def spelling? (text : String) : Option NumberText :=
  (NumberText.read? (Reader.skipSpace text.toList)).map Prod.fst

/-- The value of a field that is typed. -/
def ofTyped (text : String) : Json :=
  (read? text).getD (.string text)

theorem read?_of_ofTyped_null {text : String} (isNull : ofTyped text = .null) :
    read? text = some .null := by
  unfold ofTyped at isNull
  cases read : read? text with
  | none =>
      rw [read] at isNull
      cases isNull
  | some value =>
      rw [read] at isNull
      exact congrArg some isNull

/-- Whether a text stands for equal values as a field and as an id: no reader finds anything
in it but the text, or the JSON reader finds the nearest double of a number. -/
def ReadAlike (text : String) : Prop :=
  match read? text with
  | none => readNumber? text = none
  | some (.number n) => ∃ t, spelling? text = some t ∧ t.Exact n
  | some _ => False

theorem readId_cases (text : String) :
    (readNumber? text = none ∧ readId text = .string text) ∨
      ∃ n, readNumber? text = some n ∧ readId text = .number n := by
  cases read : readNumber? text with
  | none => exact .inl ⟨rfl, by rw [readId, read]⟩
  | some n => exact .inr ⟨n, rfl, by rw [readId, read]⟩

theorem readId_of_string {text content : String} (read : read? text = some (.string content)) :
    readId text = .string text ∧ text ≠ content := by
  obtain ⟨tree, rest, readAs, -, same⟩ := readAs_of_read? read
  cases readAs with
  | @string body chars _ begins found =>
      obtain rfl : String.ofList chars = content := Json.string.inj same
      obtain ⟨before, blanks, split⟩ := exists_before_skipSpace text
      rw [begins] at split
      have noNumber := readNumber?_opening (.inr (.inr rfl)) _ blanks split
      refine ⟨by rw [readId, noNumber], ?_⟩
      -- The content is shorter than what stands behind the opening quote.
      intro same
      have chars : text.toList = chars := by rw [same, String.toList_ofList]
      have shorter := Reader.length_characters found
      have longer := congrArg List.length split
      rw [List.length_append, List.length_cons, chars] at longer
      omega
  | _ => cases same

theorem readId_of_null {text : String} (read : read? text = some .null) :
    readId text = .string text := by
  obtain ⟨tree, rest, readAs, behindBlank, same⟩ := readAs_of_read? read
  cases readAs with
  | null begins =>
      obtain ⟨before, blanks, split⟩ := exists_before_skipSpace text
      have opened : Reader.skipSpace text.toList = ['n', 'u', 'l', 'l'] ++ rest := begins
      rw [opened] at split
      have trimmed : trimBlanks text.toList = ['n', 'u', 'l', 'l'] := by
        rw [split]
        apply trimBlanks_around blanks behindBlank
        simp [isBlank]
      have noNumber : readNumber? text = none := by
        simp only [readNumber?, trimmed]
        rfl
      rw [readId, noNumber]
  | _ => cases same

theorem same_readId_comm (text : String) (value : Json) :
    value.same (readId text) = (readId text).same value := by
  rcases readId_cases text with ⟨-, isText⟩ | ⟨n, -, isNumber⟩
  · rw [isText]
    cases value <;> simp [same, sameBy, Bool.beq_comm]
  · rw [isNumber]
    cases value <;> simp [same, sameBy, Number.same, Bool.beq_comm]

theorem same_readId_of_same {text : String} {own other : Json}
    (first : (readId text).same own = true) (second : own.same other = true) :
    other.same (readId text) = true := by
  rw [same_readId_comm]
  exact same_trans first second

theorem NumberText.exact_iff {t : NumberText} {n : Number} :
    t.Exact n ↔ t.nearest.toDouble?.map Double.units = some n.toDouble.units := by
  unfold Exact
  cases t.nearest with
  | finite x => simp [Binary64.toDouble?]
  | infinite negative | nan => simp [Binary64.toDouble?]

theorem same_number_iff {text : String} {n : Number} :
    (readId text).same (.number n) = true ↔
      (readNumber? text).map (fun m => m.toDouble.units) = some n.toDouble.units := by
  unfold readId
  cases readNumber? text with
  | none => simp [same, sameBy]
  | some m => simp [same, sameBy, Number.same]

theorem read?_number {text : String} {n : Number} (read : read? text = some (.number n)) :
    ∃ t rest, NumberText.read? (Reader.skipSpace text.toList) = some (t, rest) ∧
      spelling? text = some t ∧ t.value? = some n ∧ ∀ c ∈ rest, isBlank c = true := by
  obtain ⟨tree, rest, readAs, behindBlank, same⟩ := readAs_of_read? read
  cases readAs with
  | @number t m _ found value =>
      obtain rfl : m = n := Json.number.inj same
      have spelling : spelling? text = some t := by
        rw [spelling?, found]
        rfl
      exact ⟨t, rest, found, spelling, value, behindBlank⟩
  | _ => cases same

/-- A number of a JSON text is read alike where it is the nearest double of its decimal. -/
theorem readId_of_number {text : String} {n : Number} (read : read? text = some (.number n)) :
    ∃ t, spelling? text = some t ∧ ((readId text).same (.number n) = true ↔ t.Exact n) := by
  obtain ⟨t, rest, found, spelling, -, behindBlank⟩ := read?_number read
  obtain ⟨before, blanks, split⟩ := exists_before_skipSpace text
  obtain ⟨body, opened, spelled⟩ := NumberText.read?_eq_some found
  rw [opened] at split
  refine ⟨t, spelling, ?_⟩
  rw [same_number_iff, readNumber?_spelled split blanks behindBlank spelled,
    NumberText.exact_iff]

/-- A text stands for the same id as an argument and as the field of a new record exactly
where its readers agree. -/
theorem same_ofTyped_iff (text : String) :
    (readId text).same (ofTyped text) = true ↔ ReadAlike text := by
  have neither {value : Json} (noNumber : ∀ n, value ≠ .number n)
      (noString : ∀ s, value ≠ .string s) : (readId text).same value = false := by
    rcases readId_cases text with ⟨-, isText⟩ | ⟨n, -, isNumber⟩
    · rw [isText]
      cases value <;> simp_all [same, sameBy]
    · rw [isNumber]
      cases value <;> simp_all [same, sameBy]
  unfold ofTyped ReadAlike
  cases read : read? text with
  | none =>
      rcases readId_cases text with ⟨noNumber, isText⟩ | ⟨n, isNumber, isId⟩
      · simp [isText, noNumber, same, sameBy]
      · simp [isId, isNumber, same, sameBy]
  | some value =>
      rw [Option.getD_some]
      cases value with
      | number n =>
          obtain ⟨t, spelling, exact⟩ := readId_of_number read
          simp [spelling, exact]
      | string content =>
          obtain ⟨isText, differs⟩ := readId_of_string read
          simp [isText, differs, same, sameBy]
      | _ => simp [neither]

-- A number with a zero in front is no JSON text.
example : (readId "007").same (ofTyped "007") = false := rfl

theorem readAlike_of_number {text : String} {n : Number} {t : NumberText}
    (read : read? text = some (.number n)) (spelling : spelling? text = some t)
    (plain : (∃ m, n = .int m) ∨ t.Short) : ReadAlike text := by
  obtain ⟨other, rest, -, isSpelling, value, -⟩ := read?_number read
  obtain rfl : other = t := Option.some.inj (isSpelling.symm.trans spelling)
  rw [ReadAlike, read]
  refine ⟨other, spelling, ?_⟩
  rcases plain with ⟨m, rfl⟩ | short
  · exact NumberText.exact_of_integer value
  · exact NumberText.exact_of_short short value

end Json

end DocStore
