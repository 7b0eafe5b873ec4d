import DocStore.Proofs.CursorWalk

/-!
# Numbered pages

The pages of a query, one after the other, are all matches in order, and every later page
is empty.  A page is also the part that a cursor at its first match gives.  The counts and
the places are those of unbounded arithmetic, although the reckoning is done in words: a
start that saturates lies behind all matches as much as the true one does.
-/

namespace DocStore

theorem flatMap_slices {α : Type} (items : List α) (limit count : Nat) :
    (List.range count).flatMap (fun before => (items.drop (before * limit)).take limit) =
      items.take (count * limit) := by
  induction count with
  | zero => simp
  | succ count ih =>
      rw [List.range_succ, List.flatMap_append, ih, List.flatMap_singleton, Nat.succ_mul,
        List.take_add]

theorem lt_ceilDiv {total limit count : Nat} (positive : 0 < limit) :
    count < total ⌈/⌉ limit ↔ count * limit < total := by
  rw [← not_le, ceilDiv_le_iff_le_mul positive, not_le, Nat.mul_comm]

theorem le_ceilDiv_mul {total limit : Nat} (positive : 0 < limit) :
    total ≤ total ⌈/⌉ limit * limit := by
  rw [Nat.mul_comm]
  exact le_smul_ceilDiv positive

namespace Paging

variable {items : List Record} {number limit : UInt64}

/-- How many matches come before a page. -/
def firstOf (number limit : UInt64) : Nat :=
  (max number.toNat 1 - 1) * limit.toNat

theorem firstOf_add (number limit : UInt64) :
    firstOf number limit + limit.toNat = max number.toNat 1 * limit.toNat := by
  rw [firstOf, ← Nat.succ_mul]
  congr 1
  omega

theorem firstOf_succ {before : Nat} (fits : before + 1 < 2 ^ 64) :
    firstOf (.ofNat (before + 1)) limit = before * limit.toNat := by
  rw [firstOf, UInt64.toNat_ofNat_of_lt' fits]
  congr 1
  omega

theorem drop_saturate (few : items.length < 2 ^ 64) (n : Nat) :
    items.drop (saturate n) = items.drop n := by
  unfold saturate
  by_cases fits : n ≤ 18446744073709551615
  · rw [min_eq_left fits]
  · rw [List.drop_eq_nil_of_le (by omega), List.drop_eq_nil_of_le (by omega)]

theorem cutPage_eq (few : items.length < 2 ^ 64) (positive : 0 < limit.toNat) :
    cutPage number limit items =
      ((items.drop (firstOf number limit)).take limit.toNat,
        { currentPage := some (max number.toNat 1)
          pageCount := some (items.length ⌈/⌉ limit.toNat)
          hasMore := decide (max number.toNat 1 < items.length ⌈/⌉ limit.toNat) }) := by
  simp only [cutPage, positive.ne', if_false, drop_saturate few, firstOf,
    Nat.ceilDiv_eq_add_pred_div]

/-- The part from an offset on says that more is to come exactly when the matches reach
beyond it. -/
theorem cutFrom_eq (offset : UInt64) (few : items.length < 2 ^ 64) (positive : 0 < limit) :
    (cutFrom offset limit items).1 = (items.drop offset.toNat).take limit.toNat ∧
      (cutFrom offset limit items).2.hasMore =
        decide (offset.toNat + limit.toNat < items.length) := by
  refine ⟨rfl, ?_⟩
  by_cases more : offset.toNat + limit.toNat < items.length
  · rw [cutFrom_more few positive more, decide_eq_true more]
  · rw [cutFrom_last few (not_lt.1 more), decide_eq_false more]

end Paging

namespace QueryOptions

open Paging

/-- What the pages of an answer are by their numbers, with `limit` records each. -/
structure Pages (limit : UInt64) (whole : QueryResult) (page : UInt64 → QueryResult) :
    Prop where
  zero_eq : page 0 = page 1
  total_eq : ∀ number, (page number).total = whole.total
  data_eq : ∀ number, (page number).data =
    (whole.data.drop (firstOf number limit)).take limit.toNat
  info_eq : ∀ number, (page number).page =
    some {
      currentPage := some (max number.toNat 1)
      pageCount := some (whole.total ⌈/⌉ limit.toNat)
      hasMore := decide (max number.toNat 1 < whole.total ⌈/⌉ limit.toNat) }
  /-- The number of pages is a word. -/
  count_lt : whole.total ⌈/⌉ limit.toNat < 2 ^ 64
  joined : (List.range (whole.total ⌈/⌉ limit.toNat)).flatMap
    (fun before => (page (.ofNat (before + 1))).data) = whole.data
  beyond : ∀ number, whole.total ⌈/⌉ limit.toNat < max number.toNat 1 →
    (page number).data = [] ∧ (page number).page.map (·.hasMore) = some false

/-- The answer that gives a numbered page of some arranged matches. -/
def pageOf (arranged : List Record) (limit number : UInt64) : QueryResult :=
  ⟨(cutPage number limit arranged).1, arranged.length, some (cutPage number limit arranged).2⟩

theorem pages_pageOf {arranged : List Record} {limit : UInt64}
    (few : arranged.length < 2 ^ 64) (positive : 0 < limit.toNat) :
    Pages limit ⟨arranged, arranged.length, none⟩ (pageOf arranged limit) := by
  have data (number : UInt64) : (pageOf arranged limit number).data =
      (arranged.drop (firstOf number limit)).take limit.toNat := by
    rw [pageOf, cutPage_eq few positive]
  have info (number : UInt64) : (pageOf arranged limit number).page =
      some {
        currentPage := some (max number.toNat 1)
        pageCount := some (arranged.length ⌈/⌉ limit.toNat)
        hasMore := decide (max number.toNat 1 < arranged.length ⌈/⌉ limit.toNat) } := by
    rw [pageOf, cutPage_eq few positive]
  have countLe : arranged.length ⌈/⌉ limit.toNat ≤ arranged.length := by
    rw [ceilDiv_le_iff_le_mul positive]
    exact Nat.le_mul_of_pos_left _ positive
  constructor
  case zero_eq => rfl
  case total_eq => exact fun _ => rfl
  case data_eq => exact data
  case info_eq => exact info
  case count_lt => exact countLe.trans_lt few
  case joined =>
    calc (List.range (arranged.length ⌈/⌉ limit.toNat)).flatMap
          (fun before => (pageOf arranged limit (.ofNat (before + 1))).data)
        = (List.range (arranged.length ⌈/⌉ limit.toNat)).flatMap
            (fun before => (arranged.drop (before * limit.toNat)).take limit.toNat) := by
          apply List.flatMap_congr
          intro before member
          have inside := List.mem_range.1 member
          rw [data, firstOf_succ (by omega)]
      _ = arranged.take (arranged.length ⌈/⌉ limit.toNat * limit.toNat) :=
          flatMap_slices _ _ _
      _ = arranged := List.take_of_length_le (le_ceilDiv_mul positive)
  case beyond =>
    intro number (later : arranged.length ⌈/⌉ limit.toNat < max number.toNat 1)
    have behind : arranged.length ≤ firstOf number limit := by
      apply (le_ceilDiv_mul positive).trans
      apply Nat.mul_le_mul_right
      omega
    constructor
    · rw [data, List.drop_eq_nil_of_le behind, List.take_nil]
    · rw [info, Option.map_some, decide_eq_false later.not_gt]

/-- The pages of a query take its answer apart by their numbers, and each one is the part
that a cursor at its first match gives. -/
theorem pages_divide_answer (options : QueryOptions) (records : List Record) (limit : UInt64)
    (few : records.length < 2 ^ 64) (positive : 1 ≤ limit) :
    ∃ whole page,
      { options with paging := none : QueryOptions }.evaluate records = .ok whole ∧
      whole.data.Perm (records.filter options.selects) ∧
      whole.total = whole.data.length ∧
      (∀ number, { options with paging := some (.page number limit) : QueryOptions }.evaluate
        records = .ok (page number)) ∧
      Pages limit whole page ∧
      ∀ number, firstOf number limit < 2 ^ 64 →
        ∃ part,
          options.pageFrom records limit (some (Cursor.encode (firstOf number limit))) =
            .ok part ∧
          part.data = (page number).data ∧ part.total = (page number).total ∧
          part.page.map (·.hasMore) = (page number).page.map (·.hasMore) := by
  have fewMatching : (options.arranged records).length < 2 ^ 64 :=
    (options.length_arranged_le records).trans_lt few
  have notZero : 0 < limit := UInt64.lt_iff_toNat_lt.2 positive
  have limitPositive : 0 < limit.toNat := UInt64.lt_iff_toNat_lt.1 notZero
  have pages := pages_pageOf fewMatching limitPositive
  refine ⟨_, pageOf (options.arranged records) limit, options.evaluate_whole records,
    options.arranged_perm records, rfl, fun number => evaluate_part rfl, pages, ?_⟩
  intro number fits
  have start : (UInt64.ofNat (firstOf number limit)).toNat = firstOf number limit :=
    UInt64.toNat_ofNat_of_lt' fits
  have marks : Cursor.decode? ((some (Cursor.encode (firstOf number limit))).getD "") =
      some (.ofNat (firstOf number limit)) := Cursor.decode?_encode fits
  have answered := pageFrom_of_decode options records limit marks
  obtain ⟨data, more⟩ := cutFrom_eq (.ofNat (firstOf number limit)) fewMatching notZero
  refine ⟨_, answered, ?_, rfl, ?_⟩
  · rw [data, start, pages.data_eq]
  · -- Both paths ask whether the page after this one would begin within the matches.
    rw [Option.map_some, more, start, firstOf_add, pages.info_eq, Option.map_some]
    simp only [lt_ceilDiv limitPositive]

/-- Three records fill two pages of at most two, and a cursor behind the first page gives
the second one. -/
theorem pages_of_three :
    ∃ first second part : QueryResult,
      { paging := some (.page 1 2) : QueryOptions }.evaluate (numbered [3, 1, 2]) = .ok first ∧
      { paging := some (.page 2 2) : QueryOptions }.evaluate (numbered [3, 1, 2]) = .ok second ∧
      (first.data ++ second.data).Perm (numbered [3, 1, 2]) ∧
      ({} : QueryOptions).pageFrom (numbered [3, 1, 2]) 2 (some (Cursor.encode 2)) = .ok part ∧
      part.data = second.data := by
  obtain ⟨whole, page, -, matching, total, answered, pages, cursors⟩ :=
    pages_divide_answer {} (numbered [3, 1, 2]) 2 (by decide) (by decide)
  have three : whole.total = 3 := total.trans matching.length_eq
  have two : whole.total ⌈/⌉ (2 : UInt64).toNat = 2 := by
    rw [three]
    decide
  have joined := pages.joined
  rw [two] at joined
  obtain ⟨part, found, sameData, -⟩ := cursors 2 (by decide)
  refine ⟨page 1, page 2, part, answered 1, answered 2, ?_, found, sameData⟩
  have both : (page 1).data ++ (page 2).data = whole.data := by
    simpa [List.range_succ] using joined
  rw [both]
  exact matching

end QueryOptions

end DocStore
