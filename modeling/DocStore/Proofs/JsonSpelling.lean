import DocStore.Json.Reader
import DocStore.Json.Writer
import DocStore.Proofs.CursorCodec

/-!
# Spellings of JSON values

A value has many texts, which differ in the blanks between tokens.  `Json.Spells` says
which texts the parts of a value have, where all numbers are integers, and the reader
takes every such text back to its part, up to what stands behind it.
-/

namespace DocStore

theorem exists_toDigits_eq_cons (n : Nat) :
    ∃ first others, Nat.toDigits 10 n = first :: others ∧ isDigit first = true := by
  cases digits : Nat.toDigits 10 n with
  | nil => simp at digits
  | cons first others =>
      exact ⟨first, others, rfl, isDigit_of_mem_toDigits (by rw [digits]; simp)⟩

theorem ne_sign_of_isDigit {c : Char} (digit : isDigit c = true) : c ≠ '-' ∧ c ≠ '+' := by
  constructor <;>
    · rintro rfl
      exact absurd digit (by decide)

/-- The digits of a positive number do not begin with a zero. -/
theorem toDigits_ne_zero_cons {n : Nat} (positive : 0 < n) (rest : List Char) :
    Nat.toDigits 10 n ≠ '0' :: rest := by
  induction n using Nat.strong_induction_on generalizing rest with
  | _ n ih =>
      by_cases small : n < 10
      · rw [Nat.toDigits_of_lt_base small]
        have all : ∀ m < 10, 0 < m → Nat.digitChar m ≠ '0' := by decide
        intro same
        exact all n small positive (List.cons.inj same).1
      · have split : Nat.toDigits 10 n =
            Nat.toDigits 10 (n / 10) ++ Nat.toDigits 10 (n % 10) := by
          rw [Nat.toDigits_append_toDigits (by decide) (by omega) (by omega), Nat.div_add_mod]
        obtain ⟨first, others, digits, -⟩ := exists_toDigits_eq_cons (n / 10)
        rw [split, digits]
        intro same
        obtain rfl : first = '0' := (List.cons.inj same).1
        exact ih (n / 10) (by omega) (by omega) others digits

theorem Integer.exists_text_cons (n : Integer) :
    ∃ c more, n.text.toList = c :: more ∧ (c = '-' ∨ isDigit c = true) := by
  unfold Integer.text
  split_ifs
  · exact ⟨'-', Nat.toDigits 10 n.val.natAbs, by simp, .inl rfl⟩
  · obtain ⟨first, others, digits, isDigit⟩ := exists_toDigits_eq_cons n.val.natAbs
    exact ⟨first, others, by simp [digits], .inr isDigit⟩

namespace Json

/-- Whether a text may stand behind a value: it is empty, or goes on with a blank, a
comma or a closing bracket. -/
def MayFollow (rest : List Char) : Prop :=
  ∀ c ∈ rest.head?, c ∈ [' ', '\t', '\n', '\r', ',', ']', '}']

theorem mayFollow_nil : MayFollow [] := by
  rintro c ⟨⟩

namespace NumberText

variable {rest : List Char}

/-- What may follow a value does not belong to a number. -/
theorem not_continues {c : Char} {more : List Char} (follows : MayFollow (c :: more)) :
    isDigit c = false ∧ c ≠ '.' ∧ c ≠ 'e' ∧ c ≠ 'E' := by
  have among := follows c rfl
  simp only [List.mem_cons, List.not_mem_nil, or_false] at among
  rcases among with rfl | rfl | rfl | rfl | rfl | rfl | rfl <;> decide

theorem takeWhile_of_mayFollow (follows : MayFollow rest) :
    rest.takeWhile isDigit = [] ∧ rest.dropWhile isDigit = rest := by
  cases rest with
  | nil => exact ⟨rfl, rfl⟩
  | cons c more => simp [not_continues follows]

theorem readFraction?_of_mayFollow (follows : MayFollow rest) :
    readFraction? rest = some (none, rest) := by
  unfold readFraction?
  split
  · exact absurd rfl (not_continues follows).2.1
  · rfl

theorem readExponent?_of_mayFollow (follows : MayFollow rest) :
    readExponent? rest = some (none, rest) := by
  cases rest with
  | nil => rfl
  | cons c more => simp [readExponent?, not_continues follows]

theorem readWhole?_toDigits (n : Nat) (follows : MayFollow rest) :
    readWhole? (Nat.toDigits 10 n ++ rest) = some (Nat.toDigits 10 n, rest) := by
  obtain ⟨stops, stays⟩ := takeWhile_of_mayFollow follows
  have allDigits : ∀ c ∈ Nat.toDigits 10 n, isDigit c = true :=
    fun _ member => isDigit_of_mem_toDigits member
  rcases Nat.eq_zero_or_pos n with rfl | positive
  · simp [readWhole?, stops]
  · unfold readWhole?
    split
    · rename_i more same
      obtain ⟨first, others, digits, -⟩ := exists_toDigits_eq_cons n
      rw [digits] at same
      obtain rfl : first = '0' := (List.cons.inj same).1
      exact absurd digits (toDigits_ne_zero_cons positive others)
    · rw [List.takeWhile_append_of_pos allDigits, List.dropWhile_append_of_pos allDigits,
        stops, stays, List.append_nil]
      simp

/-- An integer is split as it was written, and nothing of what follows is taken. -/
theorem read?_text (n : Integer) (follows : MayFollow rest) :
    read? (n.text.toList ++ rest) =
      some (⟨decide (n.val < 0), Nat.toDigits 10 n.val.natAbs, none, none⟩, rest) := by
  have whole := readWhole?_toDigits n.val.natAbs follows
  have noFraction := readFraction?_of_mayFollow follows
  have noExponent := readExponent?_of_mayFollow follows
  unfold Integer.text
  by_cases negative : n.val < 0
  · simp [negative, read?, whole, noFraction, noExponent]
  · obtain ⟨first, others, digits, isDigit⟩ := exists_toDigits_eq_cons n.val.natAbs
    rw [digits, List.cons_append] at whole
    simp [negative, digits, read?, ne_sign_of_isDigit isDigit, whole, noFraction, noExponent]

theorem value?_text (n : Integer) :
    value? ⟨decide (n.val < 0), Nat.toDigits 10 n.val.natAbs, none, none⟩ =
      some (.int n) := by
  have fits : Integer.ofInt? n.val = some n := by
    simp [Integer.ofInt?, n.fits]
  have exact : integer? ⟨decide (n.val < 0), Nat.toDigits 10 n.val.natAbs, none, none⟩ =
      some n := by
    by_cases negative : n.val < 0
    · have notZero : n.val.natAbs ≠ 0 := by omega
      have val : -(n.val.natAbs : Int) = n.val := by omega
      simp only [integer?, naturalOfDigits_toDigits, negative, decide_true, if_true, notZero,
        if_false, val, fits]
    · have val : (n.val.natAbs : Int) = n.val := by omega
      simp only [integer?, naturalOfDigits_toDigits, negative, decide_false,
        Bool.false_eq_true, if_false, val, fits]
  rw [value?, exact]

end NumberText

/-- A part of a JSON text: a value, or one item or field or more up to the closing
bracket. -/
inductive Part where
  | value (value : Json)
  | items (items : List Json)
  | fields (fields : List (String × Json))

/-- How many arrays and objects lie inside one another. -/
def Part.nesting : Part → Nat
  | .value whole => whole.nesting
  | .items list => nestingItems list
  | .fields list => nestingFields list

/-- Whether some characters are blanks between tokens. -/
def Blanks (gap : List Char) : Prop :=
  ∀ c ∈ gap, Reader.isSpace c = true

/-- The texts of a part: blanks stand at will behind opening brackets, colons and commas
and before closing brackets.  Of the numbers only integers have texts. -/
inductive Spells : Part → List Char → Prop where
  | null : Spells (.value .null) ['n', 'u', 'l', 'l']
  | true : Spells (.value (.bool true)) ['t', 'r', 'u', 'e']
  | false : Spells (.value (.bool false)) ['f', 'a', 'l', 's', 'e']
  | integer (n : Integer) : Spells (.value (.number (.int n))) n.text.toList
  | string (text : String) : Spells (.value (.string text)) (quote text)
  | noItems : Spells (.value (.array [])) ['[', ']']
  | array {items : List Json} {gap text : List Char} (blanks : Blanks gap)
      (spelled : Spells (.items items) text) :
      Spells (.value (.array items)) ('[' :: (gap ++ text))
  | noFields : Spells (.value (.object [])) ['{', '}']
  | object {fields : List (String × Json)} {gap text : List Char} (blanks : Blanks gap)
      (spelled : Spells (.fields fields) text) :
      Spells (.value (.object fields)) ('{' :: (gap ++ text))
  | lastItem {item : Json} {text gap : List Char} (spelled : Spells (.value item) text)
      (blanks : Blanks gap) : Spells (.items [item]) (text ++ (gap ++ [']']))
  | moreItems {item : Json} {rest : List Json} {text gap more : List Char}
      (spelled : Spells (.value item) text) (blanks : Blanks gap)
      (spelledRest : Spells (.items rest) more) :
      Spells (.items (item :: rest)) (text ++ (',' :: (gap ++ more)))
  | lastField (name : String) {value : Json} {before text gap : List Char}
      (blanksBefore : Blanks before) (spelled : Spells (.value value) text)
      (blanks : Blanks gap) :
      Spells (.fields [(name, value)])
        (quote name ++ (':' :: (before ++ (text ++ (gap ++ ['}'])))))
  | moreFields (name : String) {value : Json} {rest : List (String × Json)}
      {before text gap more : List Char}
      (blanksBefore : Blanks before) (spelled : Spells (.value value) text)
      (blanks : Blanks gap) (spelledRest : Spells (.fields rest) more) :
      Spells (.fields ((name, value) :: rest))
        (quote name ++ (':' :: (before ++ (text ++ (',' :: (gap ++ more))))))

theorem blanks_nil : Blanks [] := by
  rintro c ⟨⟩

theorem mayFollow_of_blanks {gap : List Char} (blanks : Blanks gap) {c : Char}
    (ends : c = ',' ∨ c = ']' ∨ c = '}') (rest : List Char) : MayFollow (gap ++ c :: rest) := by
  cases gap with
  | nil =>
      rintro first ⟨⟩
      simp [ends]
  | cons blank more =>
      rintro first ⟨⟩
      have isBlank := blanks blank List.mem_cons_self
      simp only [Reader.isSpace, Bool.or_eq_true, beq_iff_eq] at isBlank
      simp only [List.mem_cons]
      tauto

theorem mayFollow_comma (rest : List Char) : MayFollow (',' :: rest) :=
  mayFollow_of_blanks blanks_nil (.inl rfl) rest

namespace Reader

/-! ### Strings -/

theorem hexWord?_control {n : Nat} (small : n < 32) :
    hexWord? '0' '0' (Nat.digitChar (n / 16)) (Nat.digitChar (n % 16)) = some n := by
  have all : ∀ m < 32,
      hexWord? '0' '0' (Nat.digitChar (m / 16)) (Nat.digitChar (m % 16)) = some m := by decide
  exact all n small

/-- The escape of a control character is read back, also in front of another escape. -/
theorem characters_control {c : Char} (control : c < ' ') (rest : List Char) :
    characters ('\\' :: 'u' :: '0' :: '0' :: Nat.digitChar (c.toNat / 16) ::
        Nat.digitChar (c.toNat % 16) :: rest) =
      (characters rest).map fun (more, after) => (c :: more, after) := by
  have small : c.toNat < 32 := control
  have word := hexWord?_control small
  have belowHigh : c.toNat < 55296 := by omega
  have belowLow : c.toNat < 56320 := by omega
  rw [characters.eq_def]
  split
  case h_3 opened =>
    simp only [List.cons.injEq, true_and] at opened
    obtain ⟨rfl, rfl, rfl, rfl, rfl⟩ := opened
    simp [word, belowHigh.not_ge, belowLow, Option.map_eq_bind]
  case h_4 opened =>
    simp only [List.cons.injEq, true_and] at opened
    obtain ⟨rfl, rfl, rfl, rfl, rfl⟩ := opened
    simp [word, belowHigh, Option.map_eq_bind]
  all_goals grind

theorem characters_escapeChar (c : Char) (rest : List Char) :
    characters (escapeChar c ++ rest) =
      (characters rest).map fun (more, after) => (c :: more, after) := by
  unfold escapeChar
  split
  case h_8 =>
    split
    · exact characters_control ‹_› rest
    · rename_i shown
      have plain : characters (c :: rest) = (do
          guard (' ' ≤ c)
          let (more, after) ← characters rest
          return (c :: more, after)) := by
        rw [characters] <;> grind
      rw [List.singleton_append, plain]
      simp [not_lt.1 shown, Option.map_eq_bind]
  all_goals simp [characters, escaped?, Option.map_eq_bind]

theorem characters_quote (text rest : List Char) :
    characters (text.flatMap escapeChar ++ '"' :: rest) = some (text, rest) := by
  induction text with
  | nil => rfl
  | cons c more ih =>
      rw [List.flatMap_cons, List.append_assoc, characters_escapeChar, ih]
      rfl

/-! ### Steps of the reader -/

section Steps

variable {depth fuel : Nat} {cs rest : List Char}

theorem skipSpace_append {gap : List Char} (blanks : Blanks gap) (text : List Char) :
    skipSpace (gap ++ text) = skipSpace text :=
  List.dropWhile_append_of_pos blanks

theorem skipSpace_cons {c : Char} (dark : isSpace c = false) (text : List Char) :
    skipSpace (c :: text) = c :: text := by
  simp [skipSpace, dark]

theorem skipSpace_blanks_cons {gap : List Char} (blanks : Blanks gap) {c : Char}
    (dark : isSpace c = false) (text : List Char) : skipSpace (gap ++ c :: text) = c :: text :=
  (skipSpace_append blanks _).trans (skipSpace_cons dark text)

/-- A text that begins like a number is read as one. -/
theorem value_of_number {c : Char} {body : List Char} (skipped : skipSpace cs = c :: body)
    (begins : c = '-' ∨ isDigit c = true) :
    value depth cs (fuel + 1) = (do
      let (text, after) ← NumberText.read? (c :: body)
      return (.number (← text.value?), after)) := by
  rw [value, skipped]
  split
  case h_7 => rfl
  all_goals
    rename_i opened
    obtain rfl := (List.cons.inj opened).1
    exact absurd begins (by decide)

theorem value_integer (n : Integer) (follows : MayFollow rest)
    (skipped : skipSpace cs = n.text.toList ++ rest) :
    value depth cs (fuel + 1) = some (.number (.int n), rest) := by
  obtain ⟨c, more, text, begins⟩ := n.exists_text_cons
  have read := NumberText.read?_text n follows
  rw [text, List.cons_append] at skipped read
  rw [value_of_number skipped begins, read]
  simp [NumberText.value?_text]

theorem value_string {text : List Char} (skipped : skipSpace cs = '"' :: text) :
    value depth cs (fuel + 1) =
      (characters text).map fun (text, after) => (.string (String.ofList text), after) := by
  rw [value, skipped]
  rfl

theorem value_array {inside body : List Char} (skipped : skipSpace cs = '[' :: inside)
    (opened : skipSpace inside = body) (notClosed : ∀ after, body ≠ ']' :: after) :
    value (depth + 1) cs (fuel + 1) =
      (elements depth body fuel).map fun (items, after) => (.array items, after) := by
  rw [value, skipped]
  simp only [opened]

theorem value_object {inside body : List Char} (skipped : skipSpace cs = '{' :: inside)
    (opened : skipSpace inside = body) (notClosed : ∀ after, body ≠ '}' :: after) :
    value (depth + 1) cs (fuel + 1) =
      (members depth body fuel).map fun (fields, after) => (.object fields, after) := by
  rw [value, skipped]
  simp only [opened]

theorem elements_last {item : Json} {behind : List Char}
    (read : value depth cs fuel = some (item, behind))
    (closed : skipSpace behind = ']' :: rest) :
    elements depth cs (fuel + 1) = some ([item], rest) := by
  simp [elements, read, closed]

theorem elements_more {item : Json} {items : List Json} {behind more : List Char}
    (read : value depth cs fuel = some (item, behind))
    (next : skipSpace behind = ',' :: more)
    (readMore : elements depth more fuel = some (items, rest)) :
    elements depth cs (fuel + 1) = some (item :: items, rest) := by
  simp [elements, read, next, readMore]

theorem members_last {name : String} {item : Json} {after behind : List Char}
    (named : skipSpace cs = quote name ++ ':' :: after)
    (read : value depth after fuel = some (item, behind))
    (closed : skipSpace behind = '}' :: rest) :
    members depth cs (fuel + 1) = some ([(name, item)], rest) := by
  have colon : skipSpace (':' :: after) = ':' :: after := skipSpace_cons (by decide) after
  rw [quote, List.cons_append, List.append_assoc, List.singleton_append] at named
  simp [members, named, characters_quote, colon, read, closed]

theorem members_more {name : String} {item : Json} {fields : List (String × Json)}
    {after behind more : List Char} (named : skipSpace cs = quote name ++ ':' :: after)
    (read : value depth after fuel = some (item, behind))
    (next : skipSpace behind = ',' :: more)
    (readMore : members depth more fuel = some (fields, rest)) :
    members depth cs (fuel + 1) = some ((name, item) :: fields, rest) := by
  have colon : skipSpace (':' :: after) = ':' :: after := skipSpace_cons (by decide) after
  rw [quote, List.cons_append, List.append_assoc, List.singleton_append] at named
  simp [members, named, characters_quote, colon, read, next, readMore]

end Steps

/-! ### Reading back what is spelled -/

theorem begins_dark {c : Char} (begins : c = '-' ∨ isDigit c = true) :
    isSpace c = false ∧ c ≠ ']' ∧ c ≠ '}' := by
  refine ⟨Bool.eq_false_iff.2 fun isBlank => ?_, ?_, ?_⟩
  · simp only [isSpace, Bool.or_eq_true, beq_iff_eq] at isBlank
    rcases isBlank with ((rfl | rfl) | rfl) | rfl <;> exact absurd begins (by decide)
  all_goals
    rintro rfl
    exact absurd begins (by decide)

/-- No text of a part begins with a blank or a closing bracket. -/
theorem exists_cons_of_spells {part : Part} {text : List Char} (spelled : Spells part text) :
    ∃ c more, text = c :: more ∧ isSpace c = false ∧ c ≠ ']' ∧ c ≠ '}' := by
  induction spelled with
  | integer n =>
      obtain ⟨c, more, text, begins⟩ := n.exists_text_cons
      exact ⟨c, more, text, begins_dark begins⟩
  | null | true | false | string | noItems | noFields | array | object =>
      exact ⟨_, _, rfl, by decide, by decide, by decide⟩
  | lastItem _ _ ih | moreItems _ _ _ ih =>
      obtain ⟨c, more, rfl, dark⟩ := ih
      exact ⟨c, _, rfl, dark⟩
  | lastField | moreFields => exact ⟨'"', _, rfl, by decide, by decide, by decide⟩

theorem skipSpace_of_spells {gap : List Char} (blanks : Blanks gap) {part : Part}
    {text : List Char} (spelled : Spells part text) (rest : List Char) :
    skipSpace (gap ++ (text ++ rest)) = text ++ rest := by
  obtain ⟨c, more, rfl, dark, -⟩ := exists_cons_of_spells spelled
  exact skipSpace_blanks_cons blanks dark (more ++ rest)

theorem ne_closing_of_spells {part : Part} {text : List Char} (spelled : Spells part text)
    (rest after : List Char) : text ++ rest ≠ ']' :: after ∧ text ++ rest ≠ '}' :: after := by
  obtain ⟨c, more, rfl, -, notBracket, notBrace⟩ := exists_cons_of_spells spelled
  exact ⟨fun same => notBracket (List.cons.inj same).1,
    fun same => notBrace (List.cons.inj same).1⟩

/-- What the reader makes of a text: a part, and what stands behind it. -/
def Reads (depth fuel : Nat) (cs rest : List Char) : Part → Prop
  | .value whole => value depth cs fuel = some (whole, rest)
  | .items list => elements depth cs fuel = some (list, rest)
  | .fields list => members depth cs fuel = some (list, rest)

/-- Every text of a part is read back as the part.  The induction is on the text: each
call of the reader takes a character of it at least, so its length bounds the calls. -/
theorem reads_of_spells {part : Part} {text : List Char} (spelled : Spells part text)
    {depth fuel : Nat} {cs rest : List Char} (shallow : part.nesting ≤ depth)
    (enough : text.length < fuel) (follows : MayFollow rest)
    (skipped : skipSpace cs = text ++ rest) : Reads depth fuel cs rest part := by
  induction spelled generalizing depth fuel cs rest with
    obtain ⟨fuel, rfl⟩ := Nat.exists_eq_add_one_of_ne_zero (Nat.ne_zero_of_lt enough)
  | null | true | false =>
      rw [Reads, value, skipped]
      rfl
  | integer n => exact value_integer n follows skipped
  | string text =>
      rw [quote, List.cons_append, List.append_assoc, List.singleton_append] at skipped
      rw [Reads, value_string skipped, characters_quote]
      simp
  | noItems | noFields =>
      obtain ⟨depth, rfl⟩ := Nat.exists_eq_add_one_of_ne_zero (Nat.ne_zero_of_lt shallow)
      rw [Reads, value, skipped]
      rfl
  | @array items gap text blanks spelled ih =>
      obtain ⟨depth, rfl⟩ := Nat.exists_eq_add_one_of_ne_zero (Nat.ne_zero_of_lt shallow)
      simp only [List.cons_append, List.append_assoc] at skipped
      simp only [List.length_cons, List.length_append] at enough
      have read : elements depth (text ++ rest) fuel = some (items, rest) :=
        ih (Nat.le_of_succ_le_succ shallow) (by omega) follows
          (skipSpace_of_spells blanks_nil spelled rest)
      rw [Reads, value_array skipped (skipSpace_of_spells blanks spelled rest)
        fun after => (ne_closing_of_spells spelled rest after).1, read]
      rfl
  | @object fields gap text blanks spelled ih =>
      obtain ⟨depth, rfl⟩ := Nat.exists_eq_add_one_of_ne_zero (Nat.ne_zero_of_lt shallow)
      simp only [List.cons_append, List.append_assoc] at skipped
      simp only [List.length_cons, List.length_append] at enough
      have read : members depth (text ++ rest) fuel = some (fields, rest) :=
        ih (Nat.le_of_succ_le_succ shallow) (by omega) follows
          (skipSpace_of_spells blanks_nil spelled rest)
      rw [Reads, value_object skipped (skipSpace_of_spells blanks spelled rest)
        fun after => (ne_closing_of_spells spelled rest after).2, read]
      rfl
  | lastItem spelled blanks ih =>
      simp only [List.append_assoc, List.cons_append, List.nil_append] at skipped
      simp only [List.length_append, List.length_cons, List.length_nil] at enough
      have read := ih (le_trans (le_max_left _ _) shallow) (by omega : _ < fuel)
        (mayFollow_of_blanks blanks (.inr (.inl rfl)) rest) skipped
      exact elements_last read (skipSpace_blanks_cons blanks (by decide) rest)
  | moreItems spelled blanks spelledRest ih ihRest =>
      simp only [List.append_assoc, List.cons_append] at skipped
      simp only [List.length_append, List.length_cons] at enough
      have read := ih (le_trans (le_max_left _ _) shallow) (by omega : _ < fuel)
        (mayFollow_comma _) skipped
      have readRest := ihRest (le_trans (le_max_right _ _) shallow) (by omega : _ < fuel)
        follows (skipSpace_of_spells blanks spelledRest rest)
      exact elements_more read (skipSpace_cons (by decide) _) readRest
  | lastField name blanksBefore spelled blanks ih =>
      simp only [List.append_assoc, List.cons_append, List.nil_append] at skipped
      simp only [List.length_append, List.length_cons, List.length_nil] at enough
      have read := ih (le_trans (le_max_left _ _) shallow) (by omega : _ < fuel)
        (mayFollow_of_blanks blanks (.inr (.inr rfl)) rest)
        (skipSpace_of_spells blanksBefore spelled _)
      exact members_last skipped read (skipSpace_blanks_cons blanks (by decide) rest)
  | @moreFields name _ _ _ _ gap more blanksBefore spelled blanks spelledRest ih ihRest =>
      simp only [List.append_assoc, List.cons_append] at skipped
      simp only [List.length_append, List.length_cons] at enough
      have read := ih (le_trans (le_max_left _ _) shallow) (by omega : _ < fuel)
        (mayFollow_comma _)
        (skipSpace_of_spells blanksBefore spelled (',' :: (gap ++ (more ++ rest))))
      have readRest := ihRest (le_trans (le_max_right _ _) shallow) (by omega : _ < fuel)
        follows (skipSpace_of_spells blanks spelledRest rest)
      exact members_more skipped read (skipSpace_cons (by decide) _) readRest

end Reader

end Json

end DocStore
