import DocStore.Proofs.ValueEquality

/-!
# Values up to the order of fields

An object keeps the order of its fields, but equality of values pays no heed to it, at any
depth.  On values whose objects do not repeat a name it is an equivalence, so the reorderings
of a value are all in one class.
-/

namespace DocStore

namespace Json

/-- Reordering the fields of objects, anywhere in a value. -/
inductive Reordered : Json → Json → Prop where
  | refl (value : Json) : Reordered value value
  | trans {a b c : Json} (first : Reordered a b) (second : Reordered b c) : Reordered a c
  | fields {fields others : List (String × Json)} (perm : fields.Perm others) :
      Reordered (.object fields) (.object others)
  | item (before after : List Json) {a b : Json} (inside : Reordered a b) :
      Reordered (.array (before ++ a :: after)) (.array (before ++ b :: after))
  | field (before after : List (String × Json)) (name : String) {a b : Json}
      (inside : Reordered a b) :
      Reordered (.object (before ++ (name, a) :: after)) (.object (before ++ (name, b) :: after))

variable {a b c d : Json}

theorem Reordered.distinctNames (reordered : a.Reordered b) (distinct : a.DistinctNames) :
    b.DistinctNames := by
  induction reordered with
  | refl => exact distinct
  | trans _ _ first second => exact second (first distinct)
  | fields perm =>
      obtain ⟨nodup, values⟩ := distinctNames_object.1 distinct
      apply distinctNames_object.2
      constructor
      · exact (perm.map Prod.fst).nodup_iff.1 nodup
      · intro name value member
        exact values name value (perm.mem_iff.2 member)
  | item before after _ ih =>
      rw [distinctNames_array] at distinct ⊢
      intro item member
      rcases List.mem_append.1 member with inBefore | inRest
      · exact distinct item (by simp [inBefore])
      · rcases List.mem_cons.1 inRest with rfl | inAfter
        · exact ih (distinct _ (by simp))
        · exact distinct item (by simp [inAfter])
  | field before after name _ ih =>
      obtain ⟨nodup, values⟩ := distinctNames_object.1 distinct
      apply distinctNames_object.2
      constructor
      · simpa using nodup
      · intro other value member
        rcases List.mem_append.1 member with inBefore | inRest
        · exact values other value (by simp [inBefore])
        · rcases List.mem_cons.1 inRest with atPlace | inAfter
          · obtain ⟨rfl, rfl⟩ := Prod.mk.inj atPlace
            exact ih (values other _ (by simp))
          · exact values other value (by simp [inAfter])

theorem same_object {fields others : List (String × Json)} :
    (Json.object fields).same (.object others) = true ↔
      fields.length = others.length ∧
        ∀ name value, (name, value) ∈ fields →
          ∃ other, Fields.get? name others = some other ∧ value.same other = true :=
  sameBy_object

theorem same_array {items others : List Json} :
    (Json.array items).same (.array others) = true ↔
      List.Forall₂ (fun a b => a.same b = true) items others := by
  unfold same
  rw [sameBy]
  exact sameItems_iff

/-- Equality does not see that fields were reordered. -/
theorem Reordered.same (reordered : a.Reordered b) (distinct : a.DistinctNames) :
    a.same b = true := by
  induction reordered with
  | refl value => exact same_refl value distinct
  | trans first _ ihFirst ihSecond =>
      exact same_trans (ihFirst distinct) (ihSecond (first.distinctNames distinct))
  | fields perm =>
      obtain ⟨nodup, values⟩ := distinctNames_object.1 distinct
      have otherNodup := (perm.map Prod.fst).nodup_iff.1 nodup
      apply same_object.2
      refine ⟨perm.length_eq, fun name value member => ⟨value, ?_, ?_⟩⟩
      · exact Fields.get?_of_mem otherNodup (perm.mem_iff.1 member)
      · exact same_refl value (values name value member)
  | item before after _ ih =>
      rw [distinctNames_array] at distinct
      have itself {items : List Json} (members : ∀ item ∈ items, item.DistinctNames) :
          List.Forall₂ (fun a b => Json.same a b = true) items items :=
        List.forall₂_same.2 fun item member => same_refl item (members item member)
      apply same_array.2
      apply List.rel_append (itself fun item member => distinct item (by simp [member]))
      apply List.Forall₂.cons
      · exact ih (distinct _ (by simp))
      · exact itself fun item member => distinct item (by simp [member])
  | @field before after name a b inside ih =>
      have otherDistinct := (Reordered.field before after name inside).distinctNames distinct
      obtain ⟨-, values⟩ := distinctNames_object.1 distinct
      obtain ⟨otherNodup, -⟩ := distinctNames_object.1 otherDistinct
      have stays {other : String} {value : Json} (member : (other, value) ∈ before ++ after) :
          ∃ held, Fields.get? other (before ++ (name, b) :: after) = some held ∧
            value.same held = true := by
        have inBoth := List.mem_append.1 member
        refine ⟨value, Fields.get?_of_mem otherNodup ?_, same_refl value (values other value ?_)⟩
        · simp only [List.mem_append, List.mem_cons]
          tauto
        · simp only [List.mem_append, List.mem_cons]
          tauto
      apply same_object.2
      refine ⟨by simp, fun other value member => ?_⟩
      rcases List.mem_append.1 member with inBefore | inRest
      · exact stays (List.mem_append_left after inBefore)
      · rcases List.mem_cons.1 inRest with atPlace | inAfter
        · obtain ⟨rfl, rfl⟩ := Prod.mk.inj atPlace
          exact ⟨b, Fields.get?_of_mem otherNodup (by simp), ih (values other _ (by simp))⟩
        · exact stays (List.mem_append_right before inAfter)

/-- Equal values are equal to the same values. -/
theorem same_congr (distinct : a.DistinctNames) (otherDistinct : b.DistinctNames)
    (thirdDistinct : c.DistinctNames) (lastDistinct : d.DistinctNames)
    (left : a.same b = true) (right : c.same d = true) : a.same c = b.same d := by
  apply Bool.eq_iff_iff.2
  constructor
  · intro same
    exact same_trans (same_symm distinct otherDistinct left) (same_trans same right)
  · intro same
    exact same_trans left (same_trans same (same_symm thirdDistinct lastDistinct right))

/-- Equality is an equivalence on values whose objects do not repeat a name, and the order of
fields at any depth makes no difference to it. -/
theorem same_equivalence :
    (Equivalence fun a b : {value : Json // value.DistinctNames} => a.val.same b.val = true) ∧
      ∀ a b c d : Json, a.DistinctNames → c.DistinctNames → a.Reordered b → c.Reordered d →
        a.same c = b.same d := by
  constructor
  · constructor
    · rintro ⟨a, distinct⟩
      exact same_refl a distinct
    · rintro ⟨a, distinct⟩ ⟨b, otherDistinct⟩ same
      exact same_symm distinct otherDistinct same
    · rintro a b c first second
      exact same_trans first second
  · intro a b c d distinct otherDistinct reordered otherReordered
    apply same_congr distinct (reordered.distinctNames distinct) otherDistinct
      (otherReordered.distinctNames otherDistinct)
    · exact reordered.same distinct
    · exact otherReordered.same otherDistinct

/-- A reader with a card of a number. -/
def readerFields (number : Number) : List (String × Json) :=
  [("card", .number number), ("name", .string "Ada")]

/-- Two zeros are equal, whatever order the fields beside them come in. -/
theorem same_equivalence_readers :
    (Json.array [.object (readerFields (.ofInt 0))]).same
        (.array [.object (readerFields (.double (.zero true)))]) = true ∧
      (Json.array [.object (readerFields (.ofInt 0)).reverse]).same
        (.array [.object (readerFields (.double (.zero true)))]) = true := by
  have distinct (number : Number) :
      (Json.array [.object (readerFields number)]).DistinctNames := by
    simp [readerFields, DistinctNames, DistinctNames.DistinctNamesItems,
      DistinctNames.DistinctNamesFields]
  have reordered (number : Number) : Reordered (.array [.object (readerFields number)])
      (.array [.object (readerFields number).reverse]) :=
    .item [] [] (.fields (List.reverse_perm _).symm)
  have same : (Json.array [.object (readerFields (.ofInt 0))]).same
      (.array [.object (readerFields (.double (.zero true)))]) = true := by
    decide +kernel
  refine ⟨same, ?_⟩
  rw [← same_equivalence.2 _ _ _ _ (distinct _) (distinct _) (reordered _) (.refl _)]
  exact same

end Json

end DocStore
