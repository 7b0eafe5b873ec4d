import DocStore.Json.Comparison
import DocStore.Proofs.FieldLookup
import Mathlib.Data.List.Perm.Subperm

/-!
# Equality of values

`Json.same` is an equivalence on values whose objects do not repeat a name.  The
order of an object's fields does not count, so symmetry rests on counting: a list
of distinct names that lies inside another one of its length covers it.
-/

namespace DocStore

namespace Json

/-- Induction over the parts of a value. -/
theorem parts_induction {motive : Json → Prop}
    (null : motive .null) (bool : ∀ value, motive (.bool value))
    (number : ∀ value, motive (.number value)) (string : ∀ value, motive (.string value))
    (array : ∀ items, (∀ item ∈ items, motive item) → motive (.array items))
    (object : ∀ fields, (∀ name value, (name, value) ∈ fields → motive value) →
      motive (.object fields)) :
    ∀ value, motive value
  | .null => null
  | .bool value => bool value
  | .number value => number value
  | .string value => string value
  | .array items => array items fun item _ =>
      parts_induction null bool number string array object item
  | .object fields => object fields fun _ value _ =>
      parts_induction null bool number string array object value
termination_by value => sizeOf value
decreasing_by
  · have := List.sizeOf_lt_of_mem ‹item ∈ items›
    simp only [Json.array.sizeOf_spec]
    omega
  · have := List.sizeOf_lt_of_mem ‹_ ∈ fields›
    simp only [Prod.mk.sizeOf_spec] at this
    simp only [Json.object.sizeOf_spec]
    omega

/-- Whether every number inside a value is allowed. -/
def NumbersIn (allowed : Number → Prop) : Json → Prop
  | .number n => allowed n
  | .array items => NumbersInItems items
  | .object fields => NumbersInFields fields
  | _ => True
where
  /-- The same of all items. -/
  NumbersInItems : List Json → Prop
    | [] => True
    | item :: rest => item.NumbersIn allowed ∧ NumbersInItems rest
  /-- The same of all field values. -/
  NumbersInFields : List (String × Json) → Prop
    | [] => True
    | (_, value) :: rest => value.NumbersIn allowed ∧ NumbersInFields rest

theorem numbersIn_array {allowed : Number → Prop} {items : List Json} :
    (array items).NumbersIn allowed ↔ ∀ item ∈ items, item.NumbersIn allowed := by
  rw [NumbersIn]
  induction items with
  | nil => simp [NumbersIn.NumbersInItems]
  | cons item rest ih => simp [NumbersIn.NumbersInItems, ih]

theorem numbersIn_object {allowed : Number → Prop} {fields : List (String × Json)} :
    (object fields).NumbersIn allowed ↔
      ∀ name value, (name, value) ∈ fields → value.NumbersIn allowed := by
  rw [NumbersIn]
  induction fields with
  | nil => simp [NumbersIn.NumbersInFields]
  | cons head rest ih =>
      rw [NumbersIn.NumbersInFields, ih]
      constructor
      · rintro ⟨ofHead, ofRest⟩ name value member
        rcases List.mem_cons.1 member with rfl | inRest
        · exact ofHead
        · exact ofRest name value inRest
      · intro all
        exact ⟨all head.1 head.2 List.mem_cons_self,
          fun name value member => all name value (List.mem_cons_of_mem _ member)⟩

theorem numbersIn_of_forall {allowed : Number → Prop} (all : ∀ n, allowed n) (value : Json) :
    value.NumbersIn allowed := by
  induction value using parts_induction with
  | null | bool | string => trivial
  | number n => exact all n
  | array items ih => exact numbersIn_array.2 ih
  | object fields ih => exact numbersIn_object.2 ih

variable {eq : Number → Number → Bool}

theorem sameItems_iff {items others : List Json} :
    sameItems eq items others = true ↔
      List.Forall₂ (fun a b => sameBy eq a b = true) items others := by
  induction items generalizing others with
  | nil => cases others <;> simp [sameItems]
  | cons item rest ih => cases others <;> simp [sameItems, ih]

theorem sameFields_iff {fields others : List (String × Json)} :
    sameFields eq fields others = true ↔
      ∀ name value, (name, value) ∈ fields →
        ∃ other, Fields.get? name others = some other ∧ sameBy eq value other = true := by
  induction fields with
  | nil => simp [sameFields]
  | cons head rest ih =>
      obtain ⟨first, held⟩ := head
      simp only [sameFields, Bool.and_eq_true, ih, List.mem_cons, Prod.mk.injEq]
      constructor
      · rintro ⟨atHead, inRest⟩ name value (⟨rfl, rfl⟩ | member)
        · cases found : Fields.get? name others <;> simp_all
        · exact inRest name value member
      · intro all
        obtain ⟨other, found, same⟩ := all first held (.inl ⟨rfl, rfl⟩)
        exact ⟨by simpa [found] using same, fun name value member => all name value (.inr member)⟩

theorem sameBy_object {fields others : List (String × Json)} :
    sameBy eq (.object fields) (.object others) = true ↔
      fields.length = others.length ∧
        ∀ name value, (name, value) ∈ fields →
          ∃ other, Fields.get? name others = some other ∧ sameBy eq value other = true := by
  rw [← sameFields_iff]
  simp [sameBy]

theorem sameBy_refl (refl : ∀ n, eq n n = true) (value : Json)
    (distinct : value.DistinctNames) : sameBy eq value value = true := by
  induction value using parts_induction with
  | null | bool | string => simp [sameBy]
  | number n => simp [sameBy, refl]
  | array items ih =>
      rw [sameBy, sameItems_iff, List.forall₂_same]
      exact fun item member => ih item member (distinctNames_array.1 distinct item member)
  | object fields ih =>
      obtain ⟨nodup, values⟩ := distinctNames_object.1 distinct
      refine sameBy_object.2 ⟨rfl, fun name value member => ?_⟩
      exact ⟨value, Fields.get?_of_mem nodup member,
        ih name value member (values name value member)⟩

private theorem forall₂_flip_of_mem {α : Type} {related flipped : α → α → Prop}
    {items others : List α}
    (all : List.Forall₂ related items others)
    (step : ∀ a ∈ items, ∀ b ∈ others, related a b → flipped b a) :
    List.Forall₂ flipped others items := by
  induction all with
  | nil => exact .nil
  | cons head _ ih =>
      exact .cons (step _ (by simp) _ (by simp) head) (ih fun a inItems b inOthers =>
        step a (by simp [inItems]) b (by simp [inOthers]))

private theorem forall₂_trans_of_mem {α : Type} {related : α → α → Prop}
    {items middle others : List α} (first : List.Forall₂ related items middle)
    (second : List.Forall₂ related middle others)
    (step : ∀ a ∈ items, ∀ b c, related a b → related b c → related a c) :
    List.Forall₂ related items others := by
  induction first generalizing others with
  | nil => exact second
  | cons head _ ih =>
      cases second with
      | cons otherHead otherTail =>
          exact .cons (step _ (by simp) _ _ head otherHead)
            (ih otherTail fun a member => step a (by simp [member]))

/-- Names that are distinct and all found in another list of the same length are
all its names. -/
private theorem found_of_covered {fields others : List (String × Json)}
    (nodup : (fields.map Prod.fst).Nodup) (lengthEq : fields.length = others.length)
    (covered : ∀ name value, (name, value) ∈ fields → ∃ other, (name, other) ∈ others)
    {name : String} {other : Json} (member : (name, other) ∈ others) :
    ∃ value, (name, value) ∈ fields := by
  have subset : fields.map Prod.fst ⊆ others.map Prod.fst := by
    intro field inFields
    obtain ⟨⟨first, value⟩, inList, rfl⟩ := List.mem_map.1 inFields
    obtain ⟨other, inOthers⟩ := covered first value inList
    exact List.mem_map.2 ⟨_, inOthers, rfl⟩
  have perm : (fields.map Prod.fst).Perm (others.map Prod.fst) :=
    (List.subperm_of_subset nodup subset).perm_of_length_le (by simp [lengthEq])
  obtain ⟨⟨first, value⟩, inList, rfl⟩ :=
    List.mem_map.1 (perm.mem_iff.2 (List.mem_map.2 ⟨_, member, rfl⟩))
  exact ⟨value, inList⟩

theorem sameBy_symm (symm : ∀ m n, eq m n = true → eq n m = true) (a : Json) :
    ∀ b : Json, a.DistinctNames → b.DistinctNames → sameBy eq a b = true →
      sameBy eq b a = true := by
  induction a using parts_induction with
  | null | bool | string => intro b _ _ same; cases b <;> simp_all [sameBy]
  | number n =>
      intro b _ _ same
      cases b <;> simp_all [sameBy]
  | array items ih =>
      intro b distinct otherDistinct same
      cases b with
      | array others =>
          rw [sameBy, sameItems_iff] at same ⊢
          rw [distinctNames_array] at distinct otherDistinct
          exact forall₂_flip_of_mem same fun item member other otherMember =>
            ih item member other (distinct item member) (otherDistinct other otherMember)
      | _ => simp [sameBy] at same
  | object fields ih =>
      intro b distinct otherDistinct same
      cases b with
      | object others =>
          obtain ⟨lengthEq, found⟩ := sameBy_object.1 same
          obtain ⟨nodup, values⟩ := distinctNames_object.1 distinct
          obtain ⟨otherNodup, otherValues⟩ := distinctNames_object.1 otherDistinct
          refine sameBy_object.2 ⟨lengthEq.symm, fun name other member => ?_⟩
          obtain ⟨value, inFields⟩ := found_of_covered nodup lengthEq
            (fun name value member =>
              (found name value member).imp fun _ both => Fields.mem_of_get? both.1) member
          obtain ⟨held, heldFound, heldSame⟩ := found name value inFields
          have heldEq : held = other :=
            Option.some.inj (heldFound.symm.trans (Fields.get?_of_mem otherNodup member))
          exact ⟨value, Fields.get?_of_mem nodup inFields,
            ih name value inFields other (values name value inFields)
              (otherValues name other member) (heldEq ▸ heldSame)⟩
      | _ => simp [sameBy] at same

/-- Equal values are equal by any measure of numbers that tells apart none of those in them
that were equal. -/
theorem sameBy_imp {other : Number → Number → Bool} {allowed : Number → Prop}
    (imp : ∀ m n, allowed m → allowed n → eq m n = true → other m n = true) (a : Json) :
    ∀ b : Json, a.NumbersIn allowed → b.NumbersIn allowed → sameBy eq a b = true →
      sameBy other a b = true := by
  induction a using parts_induction with
  | null | bool | string => intro b _ _ same; cases b <;> simp_all [sameBy]
  | number n =>
      intro b inside otherInside same
      cases b with
      | number m => exact imp n m inside otherInside same
      | _ => simp [sameBy] at same
  | array items ih =>
      intro b inside otherInside same
      cases b with
      | array others =>
          rw [sameBy, sameItems_iff] at same ⊢
          rw [numbersIn_array] at inside otherInside
          exact .flip (forall₂_flip_of_mem same fun item member other otherMember =>
            ih item member other (inside item member) (otherInside other otherMember))
      | _ => simp [sameBy] at same
  | object fields ih =>
      intro b inside otherInside same
      cases b with
      | object others =>
          obtain ⟨lengthEq, found⟩ := sameBy_object.1 same
          refine sameBy_object.2 ⟨lengthEq, fun name value member => ?_⟩
          obtain ⟨held, heldFound, heldSame⟩ := found name value member
          exact ⟨held, heldFound, ih name value member held
            (numbersIn_object.1 inside name value member)
            (numbersIn_object.1 otherInside name held (Fields.mem_of_get? heldFound)) heldSame⟩
      | _ => simp [sameBy] at same

theorem sameBy_trans (trans : ∀ l m n, eq l m = true → eq m n = true → eq l n = true)
    (a : Json) : ∀ b c : Json, sameBy eq a b = true → sameBy eq b c = true →
      sameBy eq a c = true := by
  induction a using parts_induction with
  | null =>
      intro b c first second
      cases b with
      | null => exact second
      | _ => simp [sameBy] at first
  | bool value =>
      intro b c first second
      cases b with
      | bool other =>
          have equal : value = other := by rw [sameBy, beq_iff_eq] at first; exact first
          exact equal ▸ second
      | _ => simp [sameBy] at first
  | string value =>
      intro b c first second
      cases b with
      | string other =>
          have equal : value = other := by rw [sameBy, beq_iff_eq] at first; exact first
          exact equal ▸ second
      | _ => simp [sameBy] at first
  | number n =>
      intro b c first second
      cases b with
      | number m =>
          cases c with
          | number l => exact trans _ _ _ first second
          | _ => simp [sameBy] at second
      | _ => simp [sameBy] at first
  | array items ih =>
      intro b c first second
      cases b with
      | array middle =>
          cases c with
          | array others =>
              rw [sameBy, sameItems_iff] at first second ⊢
              exact forall₂_trans_of_mem first second ih
          | _ => simp [sameBy] at second
      | _ => simp [sameBy] at first
  | object fields ih =>
      intro b c first second
      cases b with
      | object middle =>
          cases c with
          | object others =>
              obtain ⟨lengthEq, found⟩ := sameBy_object.1 first
              obtain ⟨otherLengthEq, otherFound⟩ := sameBy_object.1 second
              refine sameBy_object.2 ⟨lengthEq.trans otherLengthEq, fun name value member => ?_⟩
              obtain ⟨held, heldFound, heldSame⟩ := found name value member
              obtain ⟨other, otherFound, otherSame⟩ :=
                otherFound name held (Fields.mem_of_get? heldFound)
              exact ⟨other, otherFound, ih name value member held other heldSame otherSame⟩
          | _ => simp [sameBy] at second
      | _ => simp [sameBy] at first

theorem same_refl (value : Json) (distinct : value.DistinctNames) : value.same value = true :=
  sameBy_refl (fun n => by simp [Number.same]) value distinct

theorem same_symm {a b : Json} (distinct : a.DistinctNames) (otherDistinct : b.DistinctNames)
    (same : a.same b = true) : b.same a = true :=
  sameBy_symm (fun m n equal => by
    simp only [Number.same, beq_iff_eq] at equal ⊢
    exact equal.symm) a b distinct
    otherDistinct same

theorem same_trans {a b c : Json} (first : a.same b = true) (second : b.same c = true) :
    a.same c = true :=
  sameBy_trans (fun l m n left right => by simp_all [Number.same]) a b c first second

theorem same_null_left {value : Json} : Json.null.same value = true ↔ value = .null := by
  cases value <;> simp [same, sameBy]

theorem same_null_right {value : Json} : value.same .null = true ↔ value = .null := by
  cases value <;> simp [same, sameBy]

end Json

end DocStore
