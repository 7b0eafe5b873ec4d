import DocStore.Node.Decode
import DocStore.Proofs.JsonRoundTrip

/-!
# Reading back written structures

A structure is written as the fields of an object, and read by filling a draft part by
part.  What is shown here holds of any draft: if every part gives back the value that it
was written for, the draft is filled with the values.  A part that may be missing is
left out when it has no value, and then the draft is left alone.
-/

namespace DocStore

namespace Node

/-! ### Values -/

theorem ofItems_eq (items : List Json) : ofItems items = items.map ofJson := by
  induction items with
  | nil => rfl
  | cons item rest ih => rw [ofItems, ih, List.map_cons]

theorem ofFields_eq (fields : List (String × Json)) :
    ofFields fields = fields.map fun field => (some field.1, ofJson field.2) := by
  induction fields with
  | nil => rfl
  | cons field rest ih => rw [ofFields, ih, List.map_cons]

theorem isAbsent_ofJson {value : Json} (notNull : value ≠ .null) :
    (ofJson value).isAbsent = false := by
  cases value with
  | null => exact absurd rfl notNull
  | bool | number | string | array | object => rfl

theorem jsonItems_ok {items : List Json}
    (each : ∀ item ∈ items, (ofJson item).json = .ok item) :
    jsonItems (ofItems items) = .ok items := by
  induction items with
  | nil => rfl
  | cons item rest ih =>
      have head := each item List.mem_cons_self
      have tail := ih fun other member => each other (List.mem_cons_of_mem _ member)
      rw [ofItems, jsonItems, head, tail]
      rfl

theorem jsonEntries_ok {fields : List (String × Json)}
    (each : ∀ name value, (name, value) ∈ fields → (ofJson value).json = .ok value) :
    jsonEntries (ofFields fields) = .ok fields := by
  induction fields with
  | nil => rfl
  | cons field rest ih =>
      have head := each field.1 field.2 List.mem_cons_self
      have tail := ih fun name value member =>
        each name value (List.mem_cons_of_mem _ member)
      rw [ofFields, jsonEntries, head, tail]
      rfl

/-- A value whose objects do not repeat a name is read as it is. -/
theorem json_ofJson {value : Json} (distinct : value.DistinctNames) :
    (ofJson value).json = .ok value := by
  induction value using Json.parts_induction with
  | null | bool | number | string => rfl
  | array items ih =>
      have each := jsonItems_ok fun item member =>
        ih item member (Json.distinctNames_array.1 distinct item member)
      rw [ofJson, json, each]
      rfl
  | object fields ih =>
      obtain ⟨nodup, values⟩ := Json.distinctNames_object.1 distinct
      have each := jsonEntries_ok fun name value member =>
        ih name value member (values name value member)
      rw [ofJson, json, each]
      change Except.ok (Json.object (Fields.ofList fields)) = .ok (.object fields)
      rw [Fields.ofList_eq_self nodup]

@[simp]
theorem text_ofJson (s : String) : (ofJson (.string s)).text = .ok s :=
  rfl

@[simp]
theorem word_ofJson (n : UInt64) :
    (ofJson (.number (.int (.ofUInt64 n)))).word = .ok n := by
  have nonnegative : 0 ≤ (Integer.ofUInt64 n).val := Int.natCast_nonneg _
  have back : UInt64.ofNat (Integer.ofUInt64 n).val.toNat = n := UInt64.ofNat_toNat
  change expect (Integer.ofUInt64 n).toUInt64? = .ok n
  rw [Integer.toUInt64?, if_pos nonnegative, back]
  rfl

theorem oneOf_ofJson {α : Type} {parse? : String → Option α} {name : String} {a : α}
    (parsed : parse? name = some a) : (ofJson (.string name)).oneOf parse? = .ok a := by
  change expect (parse? name) = .ok a
  rw [parsed]
  rfl

theorem mapM_ok {α β : Type} {read : β → Reading α} {write : α → β} {items : List α}
    (each : ∀ item ∈ items, read (write item) = .ok item) :
    (items.map write).mapM read = .ok items := by
  induction items with
  | nil => rfl
  | cons item rest ih =>
      have head := each item List.mem_cons_self
      have tail := ih fun other member => each other (List.mem_cons_of_mem _ member)
      rw [List.map_cons, List.mapM_cons, head, tail]
      rfl

theorem listOf_ofJson {α : Type} {read : Node → Reading α} {write : α → Json} {items : List α}
    (each : ∀ item ∈ items, read (ofJson (write item)) = .ok item) :
    (ofJson (.array (items.map write))).listOf read = .ok items := by
  change (ofItems (items.map write)).mapM read = .ok items
  rw [ofItems_eq, List.map_map]
  exact mapM_ok each

theorem listOf_json {values : List Json} (distinct : ∀ value ∈ values, value.DistinctNames) :
    (ofJson (.array values)).listOf json = .ok values := by
  have each := listOf_ofJson fun value isValue => json_ofJson (distinct value isValue)
  rwa [List.map_id'] at each

theorem listOf_text (texts : List String) :
    (ofJson (.strings texts)).listOf text = .ok texts :=
  listOf_ofJson fun item _ => text_ofJson item

/-! ### Drafts -/

section Drafts

variable {σ α β : Type} {step : σ → String → Node → Reading σ} {start middle final draft : σ}
  {fields others : List (String × Json)} {name : String} {names : List String}

/-- Reading the fields of an object one after the other takes a draft to another. -/
def Fills (step : σ → String → Node → Reading σ) (start : σ) (fields : List (String × Json))
    (final : σ) : Prop :=
  fields.foldlM (fun draft field => step draft field.1 (ofJson field.2)) start = .ok final

theorem Fills.append (first : Fills step start fields middle)
    (second : Fills step middle others final) : Fills step start (fields ++ others) final := by
  rw [Fills, List.foldlM_append, first]
  exact second

theorem Fills.cons {field : String × Json} (first : Fills step start [field] middle)
    (rest : Fills step middle others final) : Fills step start (field :: others) final :=
  first.append rest

/-- A part that must come once is read into its own place of the draft. -/
theorem Fills.part (get : σ → Option α) (set : σ → Option α → σ) (read : Node → Reading α)
    (reads : ∀ draft part, step draft name part =
      (do return set draft (← once (get draft) read part)))
    (unmet : get draft = none) {value : Json} {a : α} (back : read (ofJson value) = .ok a) :
    Fills step draft [(name, value)] (set draft (some a)) := by
  rw [Fills, List.foldlM_cons, reads, unmet, once, back]
  rfl

/-- A part that may be missing, and that is read as something made of its value. -/
theorem Fills.optionAs (get : σ → Option (Option α)) (set : σ → Option (Option α) → σ)
    (read : Node → Reading α)
    (reads : ∀ draft part, step draft name part =
      (do return set draft (← once (get draft) (optional read) part)))
    (unmet : get draft = none) (left : set draft none = draft) {write : β → Json} (made : β → α)
    {value : Option β}
    (back : ∀ b, value = some b →
      write b ≠ .null ∧ read (ofJson (write b)) = .ok (made b)) :
    Fills step draft (optionalField name (value.map write))
      (set draft (value.map fun b => some (made b))) := by
  cases value with
  | none =>
      rw [Option.map_none, Option.map_none, left]
      rfl
  | some b =>
      obtain ⟨notNull, isRead⟩ := back b rfl
      refine Fills.part get set (optional read) reads unmet ?_
      rw [optional, isAbsent_ofJson notNull, isRead]
      rfl

/-- A part that may be missing. -/
theorem Fills.option (get : σ → Option (Option α)) (set : σ → Option (Option α) → σ)
    (read : Node → Reading α)
    (reads : ∀ draft part, step draft name part =
      (do return set draft (← once (get draft) (optional read) part)))
    (unmet : get draft = none) (left : set draft none = draft) {write : α → Json}
    {value : Option α}
    (back : ∀ a, value = some a → write a ≠ .null ∧ read (ofJson (write a)) = .ok a) :
    Fills step draft (optionalField name (value.map write)) (set draft (value.map some)) :=
  .optionAs get set read reads unmet left id back

/-- What a draft holds of a part that may be missing is what was made of its value. -/
theorem getD_map_some_made (made : β → α) (value : Option β) :
    (value.map fun b => some (made b)).getD none = value.map made := by
  cases value <;> rfl

/-- What a draft holds of a part that may be missing is the part's value. -/
theorem getD_map_some (value : Option α) : (value.map some).getD none = value := by
  cases value <;> rfl

theorem readParts_ofJson (fills : Fills step start fields final) :
    (ofJson (.object fields)).readParts names start step = .ok final := by
  have folds : readParts names (ofJson (.object fields)) start step =
      (ofFields fields).foldlM (fun draft entry => do
        step draft (← expect entry.1) entry.2) start := rfl
  rw [folds, ofFields_eq, List.foldlM_map]
  exact fills

/-- What is made of a draft once it is filled. -/
theorem readParts_bind (final : σ) (fills : Fills step start fields final)
    (make : σ → Reading α) :
    ((ofJson (.object fields)).readParts names start step >>= make) = make final := by
  rw [readParts_ofJson fills]
  rfl

end Drafts

end Node

end DocStore
