import DocStore.Proofs.Arrangement
import DocStore.Proofs.CursorCodec
import DocStore.Query.Walk
import Mathlib.Algebra.Order.Floor.Div

/-!
# Walks along cursors

A walk that follows the cursors of a query takes its answer apart: the pages are full
up to the last one, and one after the other they are all matches in order.
-/

namespace DocStore

theorem ceilDiv_of_le {total limit : Nat} (positive : 0 < limit) (fits : total ≤ limit) :
    max 1 (total ⌈/⌉ limit) = 1 := by
  have few : total ⌈/⌉ limit ≤ 1 := by
    rw [ceilDiv_le_iff_le_mul positive]
    omega
  omega

theorem ceilDiv_of_lt {total limit : Nat} (positive : 0 < limit) (more : limit < total) :
    max 1 (total ⌈/⌉ limit) = max 1 ((total - limit) ⌈/⌉ limit) + 1 := by
  have step : total ⌈/⌉ limit = (total - limit) ⌈/⌉ limit + 1 := by
    rw [Nat.ceilDiv_eq_add_pred_div, Nat.ceilDiv_eq_add_pred_div,
      ← Nat.add_div_right _ positive]
    congr 1
    omega
  have notNone : ¬ (total - limit) ⌈/⌉ limit ≤ 0 := by
    rw [ceilDiv_le_iff_le_mul positive]
    omega
  omega

namespace Paging

variable {items : List Record} {offset limit : UInt64}

theorem cutFrom_last (few : items.length < 2 ^ 64)
    (last : items.length ≤ offset.toNat + limit.toNat) :
    cutFrom offset limit items =
      (items.drop offset.toNat, { nextCursor := none, hasMore := false }) := by
  have notMore : ¬ saturate (offset.toNat + limit.toNat) < items.length := by
    unfold saturate
    omega
  have rest : (items.drop offset.toNat).length ≤ limit.toNat := by
    rw [List.length_drop]
    omega
  simp [cutFrom, notMore, List.take_of_length_le rest]

theorem cutFrom_more (few : items.length < 2 ^ 64) (positive : 0 < limit)
    (more : offset.toNat + limit.toNat < items.length) :
    cutFrom offset limit items =
      ((items.drop offset.toNat).take limit.toNat,
        { nextCursor := some (Cursor.encode (offset.toNat + limit.toNat)), hasMore := true }) := by
  have exactly : saturate (offset.toNat + limit.toNat) = offset.toNat + limit.toNat := by
    unfold saturate
    omega
  have notZero : limit ≠ 0 := UInt64.pos_iff_ne_zero.1 positive
  simp [cutFrom, exactly, notZero, more]

end Paging

namespace QueryOptions

/-- What the pages from some place on make of the rest of the matches. -/
structure Partition (limit total : Nat) (rest : List Record) (pages : List QueryResult) :
    Prop where
  length_eq : pages.length = max 1 (rest.length ⌈/⌉ limit)
  data_eq : pages.flatMap (·.data) = rest
  total_eq : ∀ page ∈ pages, page.total = total
  full : ∀ page ∈ pages.dropLast,
    page.data.length = limit ∧ page.page.map (·.hasMore) = some true
  ends : ∃ page ∈ pages.getLast?,
    page.page.map (·.hasMore) = some false ∧ page.page.bind (·.nextCursor) = none

namespace Partition

variable {limit total : Nat} {rest : List Record}

theorem single (positive : 0 < limit) (short : rest.length ≤ limit) :
    Partition limit total rest
      [⟨rest, total, some { nextCursor := none, hasMore := false }⟩] where
  length_eq := (ceilDiv_of_le positive short).symm
  data_eq := by simp
  total_eq := by simp
  full := by simp
  ends := ⟨_, rfl, rfl, rfl⟩

theorem cons {pages : List QueryResult} (next : String) (positive : 0 < limit)
    (long : limit < rest.length) (partition : Partition limit total (rest.drop limit) pages) :
    Partition limit total rest
      (⟨rest.take limit, total, some { nextCursor := some next, hasMore := true }⟩ ::
        pages) := by
  have notEmpty : pages ≠ [] := by
    intro empty
    have length := partition.length_eq
    rw [empty, List.length_nil] at length
    omega
  constructor
  case length_eq =>
    rw [List.length_cons, partition.length_eq, List.length_drop, ceilDiv_of_lt positive long]
  case data_eq =>
    rw [List.flatMap_cons, partition.data_eq, List.take_append_drop]
  case total_eq =>
    intro page member
    rcases List.mem_cons.1 member with rfl | inRest
    · rfl
    · exact partition.total_eq page inRest
  case full =>
    intro page member
    rw [List.dropLast_cons_of_ne_nil notEmpty] at member
    rcases List.mem_cons.1 member with rfl | inRest
    · exact ⟨by simp [long.le], rfl⟩
    · exact partition.full page inRest
  case ends =>
    obtain ⟨page, isLast, ended⟩ := partition.ends
    refine ⟨page, ?_, ended⟩
    rw [Option.mem_def, List.getLast?_cons_of_ne_nil notEmpty]
    exact isLast

end Partition

variable {options : QueryOptions} {records : List Record} {limit : UInt64}
  {mark : Option String}

theorem pageFrom_of_decode {offset : UInt64} (options : QueryOptions) (records : List Record)
    (limit : UInt64) (marks : Cursor.decode? (mark.getD "") = some offset) :
    options.pageFrom records limit mark =
      .ok ⟨(Paging.cutFrom offset limit (options.arranged records)).1,
        (options.arranged records).length,
        some (Paging.cutFrom offset limit (options.arranged records)).2⟩ := by
  apply evaluate_part
  simp only [Paging.cut, marks]

theorem walk_last {page : QueryResult}
    (answered : options.pageFrom records limit mark = .ok page)
    (last : page.page.bind (·.nextCursor) = none) (most : Nat) :
    options.walk records limit (most + 1) mark = .ok [page] := by
  simp only [walk, answered, bind, Except.bind, last]
  rfl

theorem walk_more {page : QueryResult} {pages : List QueryResult} {next : String} {most : Nat}
    (answered : options.pageFrom records limit mark = .ok page)
    (more : page.page.bind (·.nextCursor) = some next)
    (walked : options.walk records limit most (some next) = .ok pages) :
    options.walk records limit (most + 1) mark = .ok (page :: pages) := by
  simp only [walk, answered, bind, Except.bind, more, walked]
  rfl

/-- From any place within the matches the walk gives the rest of them. -/
theorem walk_from (few : (options.arranged records).length < 2 ^ 64) (positive : 0 < limit)
    (offset : UInt64) (mark : Option String)
    (marks : Cursor.decode? (mark.getD "") = some offset)
    (within : offset.toNat ≤ (options.arranged records).length) :
    ∃ pages, (∀ most, pages.length ≤ most → options.walk records limit most mark = .ok pages) ∧
      Partition limit.toNat (options.arranged records).length
        ((options.arranged records).drop offset.toNat) pages := by
  have limitPositive : 0 < limit.toNat := UInt64.lt_iff_toNat_lt.1 positive
  have answered := pageFrom_of_decode options records limit marks
  have left : ((options.arranged records).drop offset.toNat).length =
      (options.arranged records).length - offset.toNat := List.length_drop
  by_cases last : (options.arranged records).length ≤ offset.toNat + limit.toNat
  · rw [Paging.cutFrom_last few last] at answered
    refine ⟨_, fun most enough => ?_, .single limitPositive (by omega)⟩
    obtain ⟨most, rfl⟩ := Nat.exists_eq_add_of_le' enough
    exact walk_last answered rfl most
  · rw [Paging.cutFrom_more few positive (not_le.1 last)] at answered
    have fits : offset.toNat + limit.toNat < 2 ^ 64 := by omega
    have next : (UInt64.ofNat (offset.toNat + limit.toNat)).toNat =
        offset.toNat + limit.toNat := UInt64.toNat_ofNat_of_lt' fits
    obtain ⟨pages, walked, partition⟩ := walk_from few positive
      (UInt64.ofNat (offset.toNat + limit.toNat))
      (some (Cursor.encode (offset.toNat + limit.toNat)))
      (Cursor.decode?_encode fits) (by omega)
    rw [next, ← List.drop_drop] at partition
    refine ⟨_, fun most enough => ?_,
      partition.cons (Cursor.encode (offset.toNat + limit.toNat)) limitPositive (by omega)⟩
    obtain ⟨most, rfl⟩ := Nat.exists_eq_add_of_le' enough
    exact walk_more answered rfl (walked _ (by simp))
termination_by (options.arranged records).length - offset.toNat

/-- A walk along the cursors of a query takes its answer apart.  It ends after as many
pages as the matches fill, and no page is refused. -/
theorem walk_partitions (options : QueryOptions) (records : List Record) (limit : UInt64)
    (few : records.length < 2 ^ 64) (positive : 1 ≤ limit) :
    ∃ whole pages,
      { options with paging := none : QueryOptions }.evaluate records = .ok whole ∧
      whole.data.Perm (records.filter options.selects) ∧
      whole.total = whole.data.length ∧
      Partition limit.toNat whole.total whole.data pages ∧
      ∀ most, max 1 (whole.total ⌈/⌉ limit.toNat) ≤ most →
        options.walk records limit most none = .ok pages := by
  have matching := options.arranged_perm records
  have fewMatching : (options.arranged records).length < 2 ^ 64 := by
    have fewer := List.length_filter_le options.selects records
    rw [← matching.length_eq] at fewer
    omega
  have notZero : 0 < limit := UInt64.lt_iff_toNat_lt.2 positive
  obtain ⟨pages, walked, partition⟩ := walk_from fewMatching notZero 0 none rfl (by simp)
  refine ⟨_, pages, options.evaluate_whole records, matching, rfl, partition, ?_⟩
  intro most enough
  apply walked most
  rw [partition.length_eq]
  exact enough

/-- Records with a number each. -/
def numbered (numbers : List Int) : List Record :=
  numbers.map fun n => [("n", .ofInt n)]

/-- Three records in the order of their numbers fill two pages of at most two. -/
theorem walk_pairs :
    ∃ pages, { sort := some [⟨"n", .ascending⟩] : QueryOptions }.walk
        (numbered [3, 1, 2]) 2 2 none = .ok pages ∧
      pages.length = 2 ∧ (pages.flatMap (·.data)).Perm (numbered [3, 1, 2]) := by
  obtain ⟨whole, pages, -, matching, total, partition, walked⟩ :=
    walk_partitions { sort := some [⟨"n", .ascending⟩] } (numbered [3, 1, 2]) 2
      (by decide) (by decide)
  have three : whole.data.length = 3 := matching.length_eq
  have two : max 1 (3 ⌈/⌉ 2) = 2 := by decide
  refine ⟨pages, walked 2 ?_, ?_, ?_⟩
  · rw [total, three]
    exact two.le
  · rw [partition.length_eq, three]
    exact two
  · rw [partition.data_eq]
    exact matching

end QueryOptions

end DocStore
