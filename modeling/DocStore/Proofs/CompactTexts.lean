import DocStore.Proofs.DistinctNumberTexts
import DocStore.Proofs.ValueEquality

/-!
# Compact texts tell values apart

Two values whose compact texts begin one text are one value: each token says where it ends, a
number by what may stand behind it, and the first character says which kind of value it is.
No reader is needed for this, so it holds of values of any depth and of every double.
-/

namespace DocStore

namespace Json

variable {rest other : List Char}

theorem quote_append_injective {name another : String}
    (same : quote name ++ rest = quote another ++ other) : name = another ∧ rest = other := by
  have first := Reader.characters_quote name.toList rest
  have second := Reader.characters_quote another.toList other
  simp only [quote, List.cons_append, List.append_assoc, List.nil_append, List.cons.injEq,
    true_and] at same
  rw [same, second] at first
  obtain ⟨names, rests⟩ := Prod.mk.inj (Option.some.inj first)
  exact ⟨String.toList_injective names.symm, rests.symm⟩

theorem exists_dataText_eq_cons (n : Number) :
    ∃ c more, (n.dataText .json).toList = c :: more ∧ (c = '-' ∨ isDigit c = true) := by
  rw [← n.spelled_dataParts, NumberText.spelled]
  obtain ⟨notEmpty, areDigits⟩ := n.grammatical_dataParts.whole
  obtain ⟨first, others, whole⟩ := List.exists_cons_of_ne_nil notEmpty
  split_ifs
  · exact ⟨_, _, rfl, .inl rfl⟩
  · rw [whole]
    exact ⟨_, _, rfl, .inr (areDigits first (by simp [whole]))⟩

/-- The first character of a text, which is different for different kinds of values. -/
def Opens : Json → Char → Prop
  | .null, c => c = 'n'
  | .bool value, c => c = if value then 't' else 'f'
  | .number _, c => c = '-' ∨ isDigit c = true
  | .string _, c => c = '"'
  | .array _, c => c = '['
  | .object _, c => c = '\x7b'

theorem exists_compactChars_eq_cons (value : Json) :
    ∃ c more, compactChars value = c :: more ∧ value.Opens c := by
  cases value with
  | bool value => cases value <;> exact ⟨_, _, rfl, rfl⟩
  | number n => exact exists_dataText_eq_cons n
  | _ => exact ⟨_, _, rfl, rfl⟩

theorem opens_ne_closing {value : Json} {c : Char} (opens : value.Opens c) :
    c ≠ ']' ∧ c ≠ '\x7d' ∧ c ≠ ',' := by
  cases value with
  | bool value => cases value <;> cases opens <;> decide
  | number n =>
      rcases opens with rfl | digit
      · decide
      · refine ⟨?_, ?_, ?_⟩ <;>
          · rintro rfl
            exact absurd digit (by decide)
  | _ =>
      cases opens
      decide

/-- The kind of value that a text with a first character has. -/
def kindOpened (c : Char) : String :=
  if c = 'n' then "null"
  else if c = 't' ∨ c = 'f' then "boolean"
  else if c = '"' then "string"
  else if c = '[' then "array"
  else if c = '\x7b' then "object"
  else "number"

theorem kindOpened_of_opens {value : Json} {c : Char} (opens : value.Opens c) :
    kindOpened c = value.typeName := by
  cases value with
  | bool value => cases value <;> cases opens <;> decide
  | number n =>
      rcases opens with rfl | digit
      · rfl
      · have other (mark : Char) (notDigit : isDigit mark = false) : c ≠ mark := by
          rintro rfl
          rw [digit] at notDigit
          cases notDigit
        simp [kindOpened, other, typeName, show isDigit 'n' = false by decide,
          show isDigit 't' = false by decide, show isDigit 'f' = false by decide,
          show isDigit '"' = false by decide, show isDigit '[' = false by decide,
          show isDigit '\x7b' = false by decide]
  | _ =>
      cases opens
      rfl

/-- The beginning of a text tells the kind of the value. -/
theorem typeName_eq_of_append {a b : Json}
    (same : compactChars a ++ rest = compactChars b ++ other) : a.typeName = b.typeName := by
  obtain ⟨first, more, text, opens⟩ := exists_compactChars_eq_cons a
  obtain ⟨second, others, text', opens'⟩ := exists_compactChars_eq_cons b
  rw [text, text'] at same
  obtain rfl : first = second := (List.cons.inj same).1
  rw [← kindOpened_of_opens opens, kindOpened_of_opens opens']

/-- Whether a value is told from all others by its text, whatever may stand behind it. -/
def ToldByText (a : Json) : Prop :=
  ∀ (b : Json) (rest other : List Char), MayFollow rest → MayFollow other →
    compactChars a ++ rest = compactChars b ++ other → a = b ∧ rest = other

theorem mayFollow_moreItems (items : List Json) (rest : List Char) :
    MayFollow (compactMoreItems items ++ ']' :: rest) := by
  cases items <;> rintro c ⟨⟩ <;> simp

theorem mayFollow_moreFields (fields : List (String × Json)) (rest : List Char) :
    MayFollow (compactMoreFields fields ++ '\x7d' :: rest) := by
  cases fields <;> rintro c ⟨⟩ <;> simp

theorem moreItems_append_injective {items : List Json} (told : ∀ item ∈ items, item.ToldByText)
    {others : List Json}
    (same : compactMoreItems items ++ ']' :: rest = compactMoreItems others ++ ']' :: other) :
    items = others ∧ rest = other := by
  induction items generalizing others with
  | nil =>
      cases others with
      | nil => exact ⟨rfl, (List.cons.inj same).2⟩
      | cons another more => exact absurd (List.cons.inj same).1 (by decide)
  | cons item items ih =>
      cases others with
      | nil => exact absurd (List.cons.inj same).1 (by decide)
      | cons another others =>
          simp only [compactMoreItems, List.cons_append, List.append_assoc, List.cons.injEq,
            true_and] at same
          obtain ⟨rfl, after⟩ := told item (by simp) another _ _ (mayFollow_moreItems items rest)
            (mayFollow_moreItems others other) same
          obtain ⟨rfl, rests⟩ := ih (fun item member => told item (by simp [member])) after
          exact ⟨rfl, rests⟩

theorem items_append_injective {items : List Json} (told : ∀ item ∈ items, item.ToldByText)
    {others : List Json}
    (same : compactItems items ++ ']' :: rest = compactItems others ++ ']' :: other) :
    items = others ∧ rest = other := by
  have notEmpty (item : Json) (more after : List Char) :
      ']' :: after ≠ compactChars item ++ more := by
    obtain ⟨c, text, chars, opens⟩ := exists_compactChars_eq_cons item
    rw [chars]
    intro closed
    exact (opens_ne_closing opens).1 (List.cons.inj closed).1.symm
  cases items with
  | nil =>
      cases others with
      | nil => exact ⟨rfl, (List.cons.inj same).2⟩
      | cons another others =>
          rw [compactItems, compactItems, List.append_assoc] at same
          exact absurd same (notEmpty _ _ _)
  | cons item items =>
      cases others with
      | nil =>
          rw [compactItems, compactItems, List.append_assoc] at same
          exact absurd same.symm (notEmpty _ _ _)
      | cons another others =>
          simp only [compactItems, List.append_assoc] at same
          obtain ⟨rfl, after⟩ := told item (by simp) another _ _ (mayFollow_moreItems items rest)
            (mayFollow_moreItems others other) same
          obtain ⟨rfl, rests⟩ :=
            moreItems_append_injective (fun item member => told item (by simp [member])) after
          exact ⟨rfl, rests⟩

theorem moreFields_append_injective {fields : List (String × Json)}
    (told : ∀ name value, (name, value) ∈ fields → value.ToldByText)
    {others : List (String × Json)}
    (same : compactMoreFields fields ++ '\x7d' :: rest =
      compactMoreFields others ++ '\x7d' :: other) :
    fields = others ∧ rest = other := by
  induction fields generalizing others with
  | nil =>
      cases others with
      | nil => exact ⟨rfl, (List.cons.inj same).2⟩
      | cons another more => exact absurd (List.cons.inj same).1 (by decide)
  | cons field fields ih =>
      obtain ⟨name, value⟩ := field
      cases others with
      | nil => exact absurd (List.cons.inj same).1 (by decide)
      | cons another others =>
          obtain ⟨otherName, otherValue⟩ := another
          simp only [compactMoreFields, List.cons_append, List.append_assoc, List.cons.injEq,
            true_and] at same
          obtain ⟨rfl, behind⟩ := quote_append_injective same
          obtain ⟨rfl, after⟩ := told name value (by simp) otherValue _ _
            (mayFollow_moreFields fields rest) (mayFollow_moreFields others other)
            (List.cons.inj behind).2
          obtain ⟨rfl, rests⟩ :=
            ih (fun name value member => told name value (by simp [member])) after
          exact ⟨rfl, rests⟩

theorem fields_append_injective {fields : List (String × Json)}
    (told : ∀ name value, (name, value) ∈ fields → value.ToldByText)
    {others : List (String × Json)}
    (same : compactFields fields ++ '\x7d' :: rest = compactFields others ++ '\x7d' :: other) :
    fields = others ∧ rest = other := by
  cases fields with
  | nil =>
      cases others with
      | nil => exact ⟨rfl, (List.cons.inj same).2⟩
      | cons another others => exact absurd (List.cons.inj same).1 (by decide)
  | cons field fields =>
      obtain ⟨name, value⟩ := field
      cases others with
      | nil => exact absurd (List.cons.inj same).1 (by decide)
      | cons another others =>
          obtain ⟨otherName, otherValue⟩ := another
          simp only [compactFields, List.append_assoc, List.cons_append] at same
          obtain ⟨rfl, behind⟩ := quote_append_injective same
          obtain ⟨rfl, after⟩ := told name value (by simp) otherValue _ _
            (mayFollow_moreFields fields rest) (mayFollow_moreFields others other)
            (List.cons.inj behind).2
          obtain ⟨rfl, rests⟩ := moreFields_append_injective
            (fun name value member => told name value (by simp [member])) after
          exact ⟨rfl, rests⟩

theorem toldByText (a : Json) : a.ToldByText := by
  induction a using parts_induction with
  | null =>
      intro b rest other _ _ same
      have kinds := typeName_eq_of_append same
      cases b with
      | null => exact ⟨rfl, List.append_cancel_left same⟩
      | _ => simp [typeName] at kinds
  | bool value =>
      intro b rest other _ _ same
      have kinds := typeName_eq_of_append same
      cases b with
      | bool another => cases value <;> cases another <;> simp_all [compactChars, leafText]
      | _ => simp [typeName] at kinds
  | number n =>
      intro b rest other follows otherFollows same
      have kinds := typeName_eq_of_append same
      cases b with
      | number m =>
          obtain ⟨rfl, rests⟩ := Number.dataText_append_injective follows otherFollows same
          exact ⟨rfl, rests⟩
      | _ => simp [typeName] at kinds
  | string text =>
      intro b rest other _ _ same
      have kinds := typeName_eq_of_append same
      cases b with
      | string another =>
          obtain ⟨rfl, rests⟩ := quote_append_injective same
          exact ⟨rfl, rests⟩
      | _ => simp [typeName] at kinds
  | array items ih =>
      intro b rest other _ _ same
      have kinds := typeName_eq_of_append same
      cases b with
      | array others =>
          simp only [compactChars, List.cons_append, List.append_assoc, List.nil_append] at same
          obtain ⟨rfl, rests⟩ := items_append_injective ih (List.cons.inj same).2
          exact ⟨rfl, rests⟩
      | _ => simp [typeName] at kinds
  | object fields ih =>
      intro b rest other _ _ same
      have kinds := typeName_eq_of_append same
      cases b with
      | object others =>
          simp only [compactChars, List.cons_append, List.append_assoc, List.nil_append] at same
          obtain ⟨rfl, rests⟩ := fields_append_injective ih (List.cons.inj same).2
          exact ⟨rfl, rests⟩
      | _ => simp [typeName] at kinds

theorem compact_injective {a b : Json} (same : a.compact = b.compact) : a = b := by
  have chars : compactChars a = compactChars b := by
    simpa [compact] using congrArg String.toList same
  apply (toldByText a b [] [] mayFollow_nil mayFollow_nil _).1
  rw [chars]

end Json

end DocStore
