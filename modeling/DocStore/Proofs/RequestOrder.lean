import DocStore.Proofs.CollectionLookup
import DocStore.Proofs.TextParts
import DocStore.Query.Params

/-!
# The order that a request asks for

A request names the fields to sort by in one comma-separated list and their directions in
another.  Each entry of the first that is not empty gives a sort key.  Empty entries are
passed over in both lists, so a direction belongs to a field by its rank among the entries
that are not empty and not by its place between the commas.  The two come to the same where
neither list has empty entries, and `ofParams_sort` says when they do in general.
-/

namespace DocStore

section Ranks

variable {α : Type} {p : α → Bool}

/-- An item that is kept has as many items in front of it as were kept of those that stood
there before. -/
theorem getElem?_filter_eq_some {items : List α} {rank : Nat} {item : α} :
    (items.filter p)[rank]? = some item ↔
      ∃ place, items[place]? = some item ∧ p item = true ∧
        (items.take place).countP p = rank := by
  induction items generalizing rank with
  | nil => simp
  | cons first items ih =>
      rw [← Nat.or_exists_add_one, List.filter_cons]
      simp only [List.getElem?_cons_zero, List.getElem?_cons_succ, List.take_zero,
        List.take_succ_cons, List.countP_nil, List.countP_cons, Option.some.injEq]
      by_cases kept : p first = true
      · cases rank with
        | zero =>
            simp only [kept, if_true, List.getElem?_cons_zero, Option.some.injEq,
              Nat.add_eq_zero_iff, one_ne_zero, and_false, exists_false, or_false, and_true]
            exact ⟨fun same => ⟨same, same ▸ kept⟩, And.left⟩
        | succ rank => simp [kept, ih]
      · have notFirst : ¬ (first = item ∧ p item = true ∧ 0 = rank) := by
          rintro ⟨rfl, isKept, -⟩
          exact kept isKept
        simp [kept, ih, notFirst]

/-- The ranks of the kept items, with the items `before` in front of the list. -/
theorem zipIdx_filter (before items : List α) :
    (items.filter p).zipIdx (before.countP p) =
      ((items.zipIdx before.length).filter (p ·.1)).map fun (item, place) =>
        (item, ((before ++ items).take place).countP p) := by
  induction items generalizing before with
  | nil => rfl
  | cons item items ih =>
      have later := ih (before ++ [item])
      rw [List.append_assoc, List.singleton_append, List.length_append, List.length_singleton,
        List.countP_append, List.countP_singleton] at later
      rw [List.filter_cons, List.zipIdx_cons, List.filter_cons]
      by_cases kept : p item = true
      · rw [if_pos kept] at later
        simp only [kept, if_true, List.zipIdx_cons, List.map_cons, later, List.take_left]
      · rw [if_neg kept, Nat.add_zero] at later
        simp only [kept, if_false, Bool.false_eq_true, later]

end Ranks

namespace Params

/-- Every entry of a comma-separated list, trimmed, the empty ones among them. -/
def listEntries (text : String) : List String :=
  (splitAtChar ',' text.toList).map fun piece => String.ofList (trimBlanks piece)

/-- The entries of the list under a name; none where there is no such parameter. -/
def entriesUnder (params : SortedMap String) (name : String) : List String :=
  ((params.get? name).map listEntries).getD []

/-- How many entries in front of a place are not empty. -/
def rankOf (entries : List String) (place : Nat) : Nat :=
  (entries.take place).countP (· ≠ "")

/-- Whether the entry at a place asks for the descending direction. -/
def descendsAt (entries : List String) (place : Nat) : Bool :=
  entries[place]?.any (lowerCase · = "desc")

/-- A sort key for each entry that is not empty, in order, with a direction by its place. -/
def keysBy (descends : Nat → Bool) (fields : List String) : List SortKey :=
  (fields.zipIdx.filter (·.1 ≠ "")).map fun (field, place) =>
    ⟨field, if descends place then .descending else .ascending⟩

variable {fields orders entries : List String} {place : Nat}

theorem splitEntries_eq_filter (text : String) :
    splitEntries text = (listEntries text).filter (· ≠ "") := by
  have nonempty : (fun entry : String => decide (entry ≠ "")) ∘ String.ofList =
      fun piece => !piece.isEmpty := by
    ext piece
    cases piece <;> simp
  rw [listEntries, ← Function.comp_def, ← List.map_map, List.filter_map, nonempty, splitEntries]

theorem descendsAt_iff :
    descendsAt entries place = true ↔
      ∃ entry, entries[place]? = some entry ∧ lowerCase entry = "desc" := by
  simp [descendsAt, Option.any_eq_true]

theorem direction_eq (entries : List String) (place : Nat) :
    direction entries[place]? =
      if descendsAt entries place then .descending else .ascending := by
  rw [descendsAt]
  cases entries[place]? with
  | none => rfl
  | some entry => simp [direction]

theorem ne_empty_of_lowerCase {entry : String} (asks : lowerCase entry = "desc") :
    entry ≠ "" := by
  rintro rfl
  exact absurd asks (by decide)

theorem descendsAt_filter {rank : Nat} :
    descendsAt (entries.filter (· ≠ "")) rank = true ↔
      ∃ place, descendsAt entries place = true ∧ rankOf entries place = rank := by
  simp only [descendsAt_iff, getElem?_filter_eq_some, decide_eq_true_eq]
  constructor
  · rintro ⟨entry, ⟨place, found, -, same⟩, asks⟩
    exact ⟨place, ⟨entry, found, asks⟩, same⟩
  · rintro ⟨place, ⟨entry, found, asks⟩, same⟩
    exact ⟨entry, ⟨place, found, ne_empty_of_lowerCase asks, same⟩, asks⟩

/-- The keys of a request take their directions by rank. -/
theorem sortKeys?_eq (params : SortedMap String) :
    sortKeys? params = nonEmpty? (keysBy
      (fun place => descendsAt ((entriesUnder params orderName).filter (· ≠ ""))
        (rankOf (entriesUnder params sortName) place))
      (entriesUnder params sortName)) := by
  have orders : ((params.get? orderName).map splitEntries).getD [] =
      (entriesUnder params orderName).filter (· ≠ "") := by
    rw [entriesUnder]
    cases params.get? orderName with
    | none => rfl
    | some text => exact splitEntries_eq_filter text
  rw [sortKeys?, orders, entriesUnder.eq_1 params sortName]
  cases params.get? sortName with
  | none => rfl
  | some text =>
      have ranks := zipIdx_filter (p := fun entry : String => decide (entry ≠ "")) []
        (listEntries text)
      rw [List.countP_nil, List.length_nil, List.nil_append] at ranks
      simp only [Option.bind_eq_bind, Option.bind_some, splitEntries_eq_filter, ranks,
        direction_eq, List.map_map, keysBy, Option.map_some, Option.getD_some]
      rfl

theorem keysBy_eq_iff {descends others : Nat → Bool} :
    keysBy descends fields = keysBy others fields ↔
      ∀ place field, fields[place]? = some field → field ≠ "" →
        (descends place = true ↔ others place = true) := by
  simp only [keysBy, List.map_inj_left, List.mem_filter, Prod.forall,
    List.mk_mem_zipIdx_iff_getElem?, decide_eq_true_eq, SortKey.mk.injEq, true_and, and_imp]
  constructor
  · intro same place field found filled
    have directions := same field place found filled
    cases ofPlace : descends place <;> cases ofOther : others place <;> simp_all
  · intro same field place found filled
    rw [Bool.eq_iff_iff.2 (same place field found filled)]

theorem nonEmpty?_inj {α : Type} {first second : List α} :
    nonEmpty? first = nonEmpty? second ↔ first = second := by
  cases first <;> cases second <;> simp [nonEmpty?]

/-- Whether the direction that comes to a field by rank is the descending one. -/
def DescendsByRank (fields orders : List String) (place : Nat) : Prop :=
  ∃ other, descendsAt orders other = true ∧ rankOf orders other = rankOf fields place

theorem rankOf_mono {later : Nat} (le : place ≤ later) :
    rankOf entries place ≤ rankOf entries later :=
  (List.take_prefix_take_left le).sublist.countP_le

theorem rankOf_of_filled (filled : ∀ earlier < place, entries[earlier]? ≠ some "")
    (fits : place ≤ entries.length) : rankOf entries place = place := by
  have all : ∀ entry ∈ entries.take place, decide (entry ≠ "") = true := by
    intro entry member
    obtain ⟨earlier, inside, rfl⟩ := List.mem_take_iff_getElem.1 member
    have before := filled earlier (by omega)
    rw [List.getElem?_eq_getElem (by omega), ne_eq, Option.some.injEq] at before
    exact decide_eq_true before
  rw [rankOf, List.countP_eq_length.2 all, List.length_take, min_eq_left fits]

theorem lt_length_of_descendsAt (asks : descendsAt entries place = true) :
    place < entries.length := by
  obtain ⟨entry, found, -⟩ := descendsAt_iff.1 asks
  exact (List.getElem?_eq_some_iff.1 found).1

/-- Without empty entries up to a field, its rank is its place. -/
theorem descendsByRank_of_filled (inside : place < fields.length)
    (filledFields : ∀ earlier < fields.length, fields[earlier]? ≠ some "")
    (filledOrders : ∀ earlier < fields.length, orders[earlier]? ≠ some "") :
    descendsAt orders place = true ↔ DescendsByRank fields orders place := by
  have ofField : rankOf fields place = place :=
    rankOf_of_filled (fun earlier before => filledFields earlier (by omega)) inside.le
  have ofOrder {earlier : Nat} (le : earlier ≤ place + 1) (fits : earlier ≤ orders.length) :
      rankOf orders earlier = earlier :=
    rankOf_of_filled (fun _ before => filledOrders _ (by omega)) fits
  rw [DescendsByRank, ofField]
  constructor
  · intro asks
    have fits := lt_length_of_descendsAt asks
    exact ⟨place, asks, ofOrder (by omega) fits.le⟩
  · rintro ⟨other, asks, same⟩
    have fits := lt_length_of_descendsAt asks
    rcases Nat.lt_or_ge place other with behind | notBehind
    · -- Already the first entry behind the place has a greater rank.
      have least := ofOrder le_rfl (show place + 1 ≤ orders.length by omega)
      have monotone : rankOf orders (place + 1) ≤ rankOf orders other := rankOf_mono behind
      omega
    · rw [ofOrder (by omega) fits.le] at same
      rwa [← same]

end Params

namespace QueryOptions

open Params

/-- The sort keys of a request: one for each field that is named, in order, with the
direction that comes to it by rank.  They are the keys with the directions at the places of
the fields exactly when both readings agree about every field, and so wherever neither list
has an empty entry up to the last field. -/
theorem ofParams_sort {params : SortedMap String} {fields orders : List String}
    (named : entriesUnder params sortName = fields)
    (directed : entriesUnder params orderName = orders) :
    (∃ descends, (ofParams params).sort = nonEmpty? (keysBy descends fields) ∧
      ∀ place, descends place = true ↔ DescendsByRank fields orders place) ∧
    ((ofParams params).sort = nonEmpty? (keysBy (descendsAt orders) fields) ↔
      ∀ place field, fields[place]? = some field → field ≠ "" →
        (descendsAt orders place = true ↔ DescendsByRank fields orders place)) ∧
    ((∀ place < fields.length, fields[place]? ≠ some "" ∧ orders[place]? ≠ some "") →
      (ofParams params).sort = nonEmpty? (keysBy (descendsAt orders) fields)) := by
  have keys : (ofParams params).sort = nonEmpty? (keysBy
      (fun place => descendsAt (orders.filter (· ≠ "")) (rankOf fields place)) fields) := by
    rw [← named, ← directed]
    exact sortKeys?_eq params
  have agreement :
      (ofParams params).sort = nonEmpty? (keysBy (descendsAt orders) fields) ↔
        ∀ place field, fields[place]? = some field → field ≠ "" →
          (descendsAt orders place = true ↔ DescendsByRank fields orders place) := by
    rw [keys, nonEmpty?_inj, keysBy_eq_iff]
    simp only [descendsAt_filter]
    exact forall₄_congr fun _ _ _ _ => Iff.comm
  refine ⟨⟨_, keys, fun place => descendsAt_filter⟩, agreement, fun filled => ?_⟩
  refine agreement.2 fun place field found _ => descendsByRank_of_filled ?_ ?_ ?_
  · exact (List.getElem?_eq_some_iff.1 found).1
  · exact fun earlier before => (filled earlier before).1
  · exact fun earlier before => (filled earlier before).2

/-- A request that sorts by some fields in some directions. -/
def orderRequest (fields orders : String) : SortedMap String :=
  .ofList [(sortName, fields), (orderName, orders)]

/-- The title descends, whatever the case of the letters that ask for it. -/
theorem ofParams_sort_titles :
    (ofParams (orderRequest "year, title" "asc,DESC")).sort =
      some [⟨"year", .ascending⟩, ⟨"title", .descending⟩] := by
  have named : entriesUnder (orderRequest "year, title" "asc,DESC") sortName =
      ["year", "title"] := by decide
  have directed : entriesUnder (orderRequest "year, title" "asc,DESC") orderName =
      ["asc", "DESC"] := by decide
  rw [(ofParams_sort named directed).2.2 (by decide)]
  decide

/-- The empty entry leaves the direction of the title to the year. -/
theorem ofParams_sort_shifted :
    (ofParams (orderRequest "year,title" ",desc")).sort =
      some [⟨"year", .descending⟩, ⟨"title", .ascending⟩] ∧
    (ofParams (orderRequest "year,title" ",desc")).sort ≠
      nonEmpty? (keysBy (descendsAt (entriesUnder (orderRequest "year,title" ",desc") orderName))
        (entriesUnder (orderRequest "year,title" ",desc") sortName)) := by
  decide

end QueryOptions

end DocStore
