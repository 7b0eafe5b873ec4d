import DocStore.Query.Evaluate

/-!
# Arranged matches

The answer to a query is cut out of one list, which does not depend on the part that
is asked for: the matching records in the order of the sort keys.  That order is only
a rearrangement, also where the comparison of the keys is not transitive.
-/

namespace DocStore

open scoped List in
theorem mergeSort_perm {α : Type} (before : α → α → Bool) (items : List α) :
    mergeSort before items ~ items := by
  fun_induction mergeSort before items with
  | case1 items short => exact .refl items
  | case2 items long middle first second =>
      calc (mergeSort before (items.take middle)).merge (mergeSort before (items.drop middle))
            before
        _ ~ mergeSort before (items.take middle) ++ mergeSort before (items.drop middle) :=
          List.merge_perm_append before
        _ ~ items.take middle ++ items.drop middle := first.append second
        _ = items := List.take_append_drop middle items

namespace QueryOptions

/-- All matches of a query in the order asked for. -/
def arranged (options : QueryOptions) (records : List Record) : List Record :=
  options.arrange (records.filter options.selects)

open scoped List in
theorem arranged_perm (options : QueryOptions) (records : List Record) :
    options.arranged records ~ records.filter options.selects := by
  unfold arranged arrange
  split
  · exact .refl _
  · exact .refl _
  · exact mergeSort_perm _ _

theorem length_arranged_le (options : QueryOptions) (records : List Record) :
    (options.arranged records).length ≤ records.length := by
  rw [(options.arranged_perm records).length_eq]
  exact List.length_filter_le options.selects records

/-- The answer that gives a part of some arranged matches, or the whole of them. -/
def answerFrom (paging : Option Paging) (arranged : List Record) : Except Failure QueryResult :=
  match paging with
  | none => .ok ⟨arranged, arranged.length, none⟩
  | some paging =>
    (paging.cut arranged).map fun (data, info) => ⟨data, arranged.length, some info⟩

theorem evaluate_eq (options : QueryOptions) (records : List Record) :
    options.evaluate records = answerFrom options.paging (options.arranged records) := by
  unfold evaluate answerFrom arranged
  cases options.paging with
  | none => rfl
  | some paging =>
      simp only
      cases paging.cut (options.arrange (records.filter options.selects)) <;> rfl

theorem evaluate_whole (options : QueryOptions) (records : List Record) :
    { options with paging := none : QueryOptions }.evaluate records =
      .ok ⟨options.arranged records, (options.arranged records).length, none⟩ :=
  evaluate_eq _ _

theorem evaluate_part {options : QueryOptions} {records : List Record} {paging : Paging}
    {data : List Record} {info : PageInfo}
    (cut : paging.cut (options.arranged records) = .ok (data, info)) :
    { options with paging := some paging : QueryOptions }.evaluate records =
      .ok ⟨data, (options.arranged records).length, some info⟩ := by
  have answered := evaluate_eq { options with paging := some paging } records
  change _ = (paging.cut (options.arranged records)).map _ at answered
  rw [answered, cut]
  rfl

end QueryOptions

end DocStore
