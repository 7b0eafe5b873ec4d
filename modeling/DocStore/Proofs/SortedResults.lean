import DocStore.Proofs.MergeSorting

/-!
# Sorted results

Swapping two records swaps their comparison under sort keys, which is all that keeps the
neighbours of a sorted result in order: the comparison itself need not be transitive.
Where every record holds every key, as texts alone or as numbers alone, it is a total
preorder, and the result is the one stable arrangement of the matches.
-/

namespace DocStore

open scoped List

instance : Std.TransCmp localeCompare :=
  inferInstanceAs (Std.TransCmp (compareLex (compareOn fun text : String =>
    foldedChars text.toList) fun a b => compare b a))

theorem Binary64.compare?_swap (x y : Binary64) :
    y.compare? x = (x.compare? y).map Ordering.swap := by
  unfold compare?
  cases x.orderKey? <;> cases y.orderKey? <;> simp [Int.compare_swap]

namespace Json

theorem compare?_swap (a b : Json) : b.compare? a = (a.compare? b).map Ordering.swap := by
  have byNumber : (do (← b.numeric?).compare? (← a.numeric?)) =
      (do (← a.numeric?).compare? (← b.numeric?) : Option Ordering).map Ordering.swap := by
    cases a.numeric? <;> cases b.numeric? <;> simp [← Binary64.compare?_swap]
  cases a with
  | string a =>
      cases b with
      | string b => simp [compare?, ← Std.OrientedOrd.eq_swap]
      | _ => exact byNumber
  | _ => cases b <;> exact byNumber

theorem sortCompare?_swap (a b : Json) :
    b.sortCompare? a = (a.sortCompare? b).map Ordering.swap := by
  have byValue := compare?_swap a b
  cases a with
  | string a =>
      cases b with
      | string b => simp [sortCompare?, ← Std.OrientedCmp.eq_swap]
      | _ => exact byValue
  | _ => cases b <;> exact byValue

/-- The text of a value, the empty one if it is none. -/
def textOrEmpty : Json → String
  | .string text => text
  | _ => ""

/-- The number of a value in the least units of doubles, zero if it is none. -/
def unitsOrZero : Json → Int
  | .number held => held.toDouble.units
  | _ => 0

end Json

namespace SortKey

theorem compare?_swap (key : SortKey) (a b : Record) :
    key.compare? b a = (key.compare? a b).map Ordering.swap := by
  unfold compare?
  cases Fields.get? key.field a with
  | none => cases Fields.get? key.field b <;> rfl
  | some held =>
      cases Fields.get? key.field b with
      | none => rfl
      | some other =>
          simp only [Option.bind_eq_bind, Option.bind_some, held.sortCompare?_swap other]
          cases held.sortCompare? other with
          | none => rfl
          | some order => cases key.direction <;> rfl

theorem compareBy_swap (keys : List SortKey) (a b : Record) :
    compareBy keys b a = (compareBy keys a b).swap := by
  induction keys with
  | nil => rfl
  | cons key rest ih =>
      simp only [compareBy, key.compare?_swap a b]
      cases key.compare? a b with
      | none => exact ih
      | some order =>
          cases order with
          | lt => rfl
          | eq => exact ih
          | gt => rfl

/-- Whether all of some records hold the field of a key as a text, or all of them as a
number. -/
def Orders (key : SortKey) (records : List Record) : Prop :=
  (∀ record ∈ records, ∃ text, Fields.get? key.field record = some (.string text)) ∨
    ∀ record ∈ records, ∃ number, Fields.get? key.field record = some (.number number)

/-- Whether some records stand in the order of some keys, those that compare equal in the
order in which they were given. -/
structure StableSort (keys : List SortKey) (records sorted : List Record) : Prop where
  perm : sorted ~ records
  ordered : sorted.Pairwise fun a b => compareBy keys a b ≠ .gt
  stable : ∀ record ∈ records,
    sorted.filter (compareBy keys record · = .eq) = records.filter (compareBy keys record · = .eq)

/-- A comparison in the direction of a key. -/
def directed {α : Type} (order : α → α → Ordering) : Direction → α → α → Ordering
  | .ascending => order
  | .descending => fun a b => order b a

instance {α : Type} (order : α → α → Ordering) [Std.TransCmp order] (direction : Direction) :
    Std.TransCmp (directed order direction) := by
  cases direction with
  | ascending => exact inferInstanceAs (Std.TransCmp order)
  | descending => exact inferInstanceAs (Std.TransCmp fun a b => order b a)

theorem transCmp_comap {α β : Type} (order : β → β → Ordering) [Std.TransCmp order]
    (view : α → β) : Std.TransCmp fun a b => order (view a) (view b) where
  eq_swap {a b} :=
    have swap : order (view a) (view b) = (order (view b) (view a)).swap :=
      Std.OrientedCmp.eq_swap
    swap
  isLE_trans {_ _ _} first second := Std.TransCmp.isLE_trans first second

/-- The text of a key in a record. -/
def textOf (key : SortKey) (record : Record) : String :=
  (Json.orNull (Fields.get? key.field record)).textOrEmpty

/-- The number of a key in a record, in the least units of doubles. -/
def unitsOf (key : SortKey) (record : Record) : Int :=
  (Json.orNull (Fields.get? key.field record)).unitsOrZero

theorem compare?_of_texts {key : SortKey} {a b : Record} {text other : String}
    (found : Fields.get? key.field a = some (.string text))
    (otherFound : Fields.get? key.field b = some (.string other)) :
    key.compare? a b = some (directed localeCompare key.direction text other) := by
  cases way : key.direction <;>
    simp [compare?, found, otherFound, Json.sortCompare?, way, directed, ← Std.OrientedCmp.eq_swap]

theorem textOf_eq {key : SortKey} {record : Record} {text : String}
    (found : Fields.get? key.field record = some (.string text)) : key.textOf record = text := by
  rw [textOf, found]
  rfl

/-- The comparison by one key of records that it orders is a total preorder. -/
theorem exists_order_of_orders {key : SortKey} {records : List Record}
    (orders : key.Orders records) :
    ∃ order : Record → Record → Ordering, Std.TransCmp order ∧
      ∀ a ∈ records, ∀ b ∈ records, key.compare? a b = some (order a b) := by
  rcases orders with texts | numbers
  · refine ⟨fun a b => directed localeCompare key.direction (key.textOf a) (key.textOf b),
      transCmp_comap (directed localeCompare key.direction) key.textOf, fun a inA b inB => ?_⟩
    obtain ⟨text, found⟩ := texts a inA
    obtain ⟨other, otherFound⟩ := texts b inB
    simp only [compare?_of_texts found otherFound, textOf_eq found, textOf_eq otherFound]
  · have isOrder := transCmp_comap (compare : Int → Int → Ordering) key.unitsOf
    refine ⟨directed (fun a b => compare (key.unitsOf a) (key.unitsOf b)) key.direction,
      inferInstance, fun a inA b inB => ?_⟩
    obtain ⟨number, found⟩ := numbers a inA
    obtain ⟨other, otherFound⟩ := numbers b inB
    cases way : key.direction <;>
      simp [compare?, found, otherFound, Json.sortCompare?, Json.compare?, Json.numeric?,
        Number.toBinary64, Binary64.compare?, Binary64.orderKey?, way, directed, unitsOf,
        Json.unitsOrZero, Json.orNull, Int.compare_swap]

theorem exists_order {keys : List SortKey} {records : List Record}
    (orders : ∀ key ∈ keys, key.Orders records) :
    ∃ order : Record → Record → Ordering, Std.TransCmp order ∧
      ∀ a ∈ records, ∀ b ∈ records, compareBy keys a b = order a b := by
  induction keys with
  | nil =>
      refine ⟨fun _ _ => .eq, { eq_swap := rfl, isLE_trans := fun _ _ => rfl }, ?_⟩
      exact fun _ _ _ _ => rfl
  | cons key rest ih =>
      obtain ⟨first, firstOrder, isFirst⟩ := exists_order_of_orders (orders key List.mem_cons_self)
      obtain ⟨later, laterOrder, isLater⟩ :=
        ih fun other member => orders other (List.mem_cons_of_mem key member)
      refine ⟨compareLex first later, inferInstance, fun a inA b inB => ?_⟩
      rw [compareBy, isFirst a inA b inB, isLater a inA b inB, compareLex]
      cases first a b <;> rfl

end SortKey

theorem isChain_sortRecords (keys : List SortKey) (records : List Record) :
    (sortRecords keys records).IsChain fun a b => SortKey.compareBy keys a b ≠ .gt := by
  have total (a b : Record) (notBefore : (SortKey.compareBy keys a b).isLE = false) :
      (SortKey.compareBy keys b a).isLE = true := by
    rw [SortKey.compareBy_swap keys a b]
    cases found : SortKey.compareBy keys a b <;> simp_all
  exact (isChain_mergeSort total records).imp fun _ _ => Ordering.isLE_iff_ne_gt.1

/-- Under keys that order the records, to be their stable arrangement is to be the result
of the merge sort. -/
theorem stableSort_iff {keys : List SortKey} {records sorted : List Record}
    (orders : ∀ key ∈ keys, key.Orders records) :
    SortKey.StableSort keys records sorted ↔ sorted = sortRecords keys records := by
  obtain ⟨order, isOrder, same⟩ := SortKey.exists_order orders
  have asOrder : sortRecords keys records = mergeSort (fun a b => (order a b).isLE) records :=
    mergeSort_congr fun a inA b inB => by rw [same a inA b inB]
  have class_eq {list : List Record} (perm : list ~ records) {record : Record}
      (member : record ∈ records) :
      list.filter (SortKey.compareBy keys record · = .eq) =
        list.filter (order record · = .eq) :=
    List.filter_congr fun other inList => by rw [same record member other (perm.subset inList)]
  have ordered_iff {list : List Record} (perm : list ~ records) :
      (list.Pairwise fun a b => SortKey.compareBy keys a b ≠ .gt) ↔
        list.Pairwise fun a b => (order a b).isLE = true :=
    List.Pairwise.iff_of_mem fun inA inB => by
      rw [same _ (perm.subset inA) _ (perm.subset inB), Ordering.isLE_iff_ne_gt]
  have sortedPerm := mergeSort_perm (fun a b => (order a b).isLE) records
  rw [asOrder]
  constructor
  · intro stableSort
    apply eq_of_sorted_of_filter ((ordered_iff stableSort.perm).1 stableSort.ordered)
      (pairwise_mergeSort records)
    intro record member
    have inRecords : record ∈ records :=
      member.elim (stableSort.perm.subset ·) (sortedPerm.subset ·)
    rw [filter_mergeSort, ← class_eq stableSort.perm inRecords,
      stableSort.stable record inRecords, class_eq (.refl _) inRecords]
  · rintro rfl
    refine ⟨sortedPerm, (ordered_iff sortedPerm).2 (pairwise_mergeSort records), ?_⟩
    intro record member
    rw [class_eq sortedPerm member, filter_mergeSort, class_eq (.refl _) member]

namespace QueryOptions

variable (options : QueryOptions) (records : List Record)

theorem arranged_eq :
    options.arranged records =
      sortRecords (options.sort.getD []) (records.filter options.selects) := by
  have unsorted (records : List Record) : records = sortRecords [] records :=
    (stableSort_iff (by simp)).1 ⟨.refl _, List.pairwise_of_forall fun _ _ => nofun, fun _ _ => rfl⟩
  unfold arranged arrange
  split
  · rename_i noSort
    rw [noSort]
    exact unsorted _
  · rename_i noKeys
    rw [noKeys]
    exact unsorted _
  · rename_i keys _ sort
    rw [sort, Option.getD_some]

/-- The answer to a query comes from one arrangement of the matches, none lost and none
twice, in which no record compares greater than the next one, whatever the sort keys are
and whatever the records hold. -/
theorem evaluate_orders_neighbours :
    ∃ sorted, options.evaluate records = answerFrom options.paging sorted ∧
      sorted ~ records.filter options.selects ∧
      sorted.IsChain fun a b => SortKey.compareBy (options.sort.getD []) a b ≠ .gt := by
  refine ⟨options.arranged records, options.evaluate_eq records,
    options.arranged_perm records, ?_⟩
  rw [arranged_eq]
  exact isChain_sortRecords _ _

variable {options records}

/-- Where every match holds every sort key, as a text in all of them or as a number in all
of them, the answer comes from their stable arrangement, which is only one. -/
theorem evaluate_sorts_stably
    (orders : ∀ key ∈ options.sort.getD [], key.Orders (records.filter options.selects)) :
    ∃ sorted, options.evaluate records = answerFrom options.paging sorted ∧
      ∀ other, SortKey.StableSort (options.sort.getD []) (records.filter options.selects) other ↔
        other = sorted := by
  refine ⟨options.arranged records, options.evaluate_eq records, fun other => ?_⟩
  rw [arranged_eq]
  exact stableSort_iff orders

/-- A copy of a book. -/
def bookCopy (title : String) (year copy : Int) : Record :=
  [("title", .string title), ("year", .ofInt year), ("copy", .ofInt copy)]

/-- The latest books first, those of one year by their titles. -/
def latestFirst : QueryOptions :=
  { sort := some [⟨"year", .descending⟩, ⟨"title", .ascending⟩] }

/-- The later book comes out first, and the two copies of the other stay in their order. -/
theorem evaluate_latestFirst :
    latestFirst.evaluate
        [bookCopy "Emma" 1815 1, bookCopy "Persuasion" 1817 1, bookCopy "Emma" 1815 2] =
      .ok ⟨[bookCopy "Persuasion" 1817 1, bookCopy "Emma" 1815 1, bookCopy "Emma" 1815 2],
        3, none⟩ := by
  have orders : ∀ key ∈ latestFirst.sort.getD [], key.Orders
      ([bookCopy "Emma" 1815 1, bookCopy "Persuasion" 1817 1, bookCopy "Emma" 1815 2].filter
        latestFirst.selects) := by
    simp [latestFirst, SortKey.Orders, bookCopy, Fields.get?, Json.ofInt]
  obtain ⟨sorted, answered, only⟩ := evaluate_sorts_stably orders
  have table : let books := [bookCopy "Emma" 1815 1, bookCopy "Persuasion" 1817 1,
        bookCopy "Emma" 1815 2]
      books.map (fun book => books.map (SortKey.compareBy (latestFirst.sort.getD []) book)) =
        [[.eq, .gt, .eq], [.lt, .eq, .lt], [.eq, .gt, .eq]] := by
    decide +kernel
  have all (book : Record) : latestFirst.selects book = true := rfl
  simp only [List.map_cons, List.map_nil, List.cons.injEq, and_true] at table
  rw [answered, ← (only _).1 ⟨.swap _ _ _, by simp [table, all], by simp [table, all]⟩]
  rfl

end QueryOptions

end DocStore
