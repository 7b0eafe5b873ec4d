import DocStore.Proofs.Arrangement

/-!
# Filters as a Boolean algebra

What groups of filters do to whole answers.  A group answers with the intersection of the
answers of its members, with their union, or with what their union leaves over; the laws of
Boolean algebra follow, for answers in order and for their totals.  The complement of a
filter is the group `not` around it and no condition of its own: a record without the field
fails a condition whatever the operator.
-/

namespace DocStore

theorem length_filter_and_add_or {α : Type} (p q : α → Bool) (items : List α) :
    (items.filter fun a => p a && q a).length + (items.filter fun a => p a || q a).length =
      (items.filter p).length + (items.filter q).length := by
  induction items with
  | nil => rfl
  | cons a items ih =>
      cases ofP : p a <;> cases ofQ : q a <;>
        simp only [List.filter_cons, ofP, ofQ, Bool.and_true, Bool.and_false, Bool.or_true,
          Bool.or_false, if_true, Bool.false_eq_true, if_false, List.length_cons] <;>
        omega

namespace Filter

variable {record : Record} {filters : List Filter}

/-- The group that holds where a filter does not. -/
def negated (filter : Filter) : Filter :=
  .group .not [filter]

theorem holdsEach_eq_map (record : Record) (filters : List Filter) :
    holdsEach record filters = filters.map (holds record) := by
  induction filters with
  | nil => rfl
  | cons filter filters ih => rw [holdsEach, ih, List.map_cons]

theorem holds_and : holds record (.group .and filters) = filters.all (holds record) := by
  rw [holds, holdsEach_eq_map, Connective.holds, List.all_map]
  rfl

theorem holds_or : holds record (.group .or filters) = filters.any (holds record) := by
  rw [holds, holdsEach_eq_map, Connective.holds, List.any_map]
  rfl

theorem holds_not : holds record (.group .not filters) = !holds record (.group .or filters) := by
  rw [holds_or, holds, holdsEach_eq_map, Connective.holds, List.any_map]
  rfl

theorem holds_negated (filter : Filter) : holds record filter.negated = !holds record filter := by
  rw [negated, holds_not, holds_or, List.any_cons, List.any_nil, Bool.or_false]

theorem holds_negated_and :
    holds record (.negated (.group .and filters)) =
      holds record (.group .or (filters.map negated)) := by
  rw [holds_negated, holds_and, holds_or, List.not_all_eq_any_not, List.any_map]
  congr 1
  ext filter
  exact (holds_negated filter).symm

theorem holds_negated_or :
    holds record (.negated (.group .or filters)) =
      holds record (.group .and (filters.map negated)) := by
  rw [holds_negated, holds_or, holds_and, List.not_any_eq_all_not, List.all_map]
  congr 1
  ext filter
  exact (holds_negated filter).symm

theorem holds_condition_of_absent {condition : Condition}
    (absent : Fields.get? condition.field record = none) :
    holds record (.condition condition) = false := by
  rw [holds, Condition.holds, absent]

end Filter

namespace QueryOptions

open DocStore.Filter

open scoped Classical in
/-- The answers to a query under every filter, against `everything`, its answer without
one. -/
structure Boolean (everything : QueryResult) (answer : Filter → QueryResult) : Prop where
  total_eq : ∀ filter, (answer filter).total = (answer filter).data.length
  sublist : ∀ filter, (answer filter).data.Sublist everything.data
  mem_and : ∀ filters record, record ∈ (answer (.group .and filters)).data ↔
    record ∈ everything.data ∧ ∀ filter ∈ filters, record ∈ (answer filter).data
  mem_or : ∀ filters record, record ∈ (answer (.group .or filters)).data ↔
    ∃ filter ∈ filters, record ∈ (answer filter).data
  total_and_add_or : ∀ first second,
    (answer (.group .and [first, second])).total + (answer (.group .or [first, second])).total =
      (answer first).total + (answer second).total
  not_eq : ∀ filters, (answer (.group .not filters)).data =
    everything.data.filter (· ∉ (answer (.group .or filters)).data)
  negated_and : ∀ filters, answer (.negated (.group .and filters)) =
    answer (.group .or (filters.map .negated))
  negated_or : ∀ filters, answer (.negated (.group .or filters)) =
    answer (.group .and (filters.map .negated))
  absent : ∀ condition : Condition, ∀ record ∈ (answer (.condition condition)).data,
    Fields.get? condition.field record ≠ none
  /-- No operator in the place of another turns a condition into its complement. -/
  complement_ne : ∀ (condition : Condition) (operator : Operator),
    (∃ record ∈ everything.data, Fields.get? condition.field record = none) →
    (answer (.condition { condition with operator })).data ≠
      (answer (.negated (.condition condition))).data

/-- The answer that gives the records of a list that pass a filter. -/
def passing (records : List Record) (filter : Filter) : QueryResult :=
  ⟨records.filter (filter.holds ·), (records.filter (filter.holds ·)).length, none⟩

theorem mem_passing {records : List Record} {filter : Filter} {record : Record} :
    record ∈ (passing records filter).data ↔ record ∈ records ∧ filter.holds record = true :=
  List.mem_filter

theorem passing_congr (records : List Record) {first second : Filter}
    (same : ∀ record, first.holds record = second.holds record) :
    passing records first = passing records second := by
  have filtered : records.filter (first.holds ·) = records.filter (second.holds ·) :=
    List.filter_congr fun record _ => same record
  rw [passing, passing, filtered]

theorem boolean_passing (everything : QueryResult) :
    Boolean everything (passing everything.data) := by
  constructor
  case total_eq => exact fun _ => rfl
  case sublist => exact fun _ => List.filter_sublist
  case mem_and =>
    intro filters record
    simp only [mem_passing, holds_and, List.all_eq_true]
    constructor
    · rintro ⟨member, all⟩
      exact ⟨member, fun filter among => ⟨member, all filter among⟩⟩
    · rintro ⟨member, all⟩
      exact ⟨member, fun filter among => (all filter among).2⟩
  case mem_or =>
    intro filters record
    simp only [mem_passing, holds_or, List.any_eq_true]
    constructor
    · rintro ⟨member, filter, among, passes⟩
      exact ⟨filter, among, member, passes⟩
    · rintro ⟨filter, among, member, passes⟩
      exact ⟨member, filter, among, passes⟩
  case total_and_add_or =>
    intro first second
    have counted := length_filter_and_add_or (first.holds ·) (second.holds ·) everything.data
    simpa only [passing, holds_and, holds_or, List.all_cons, List.all_nil, Bool.and_true,
      List.any_cons, List.any_nil, Bool.or_false] using counted
  case not_eq =>
    intro filters
    apply List.filter_congr
    intro record member
    have inUnion : record ∈ (passing everything.data (.group .or filters)).data ↔
        holds record (.group .or filters) = true := by
      rw [mem_passing, and_iff_right member]
    simp [holds_not, inUnion]
  case negated_and => exact fun filters => passing_congr _ fun record => holds_negated_and
  case negated_or => exact fun filters => passing_congr _ fun record => holds_negated_or
  case absent =>
    intro condition record member lacks
    have fails := holds_condition_of_absent lacks
    rw [(mem_passing.1 member).2] at fails
    cases fails
  case complement_ne =>
    rintro condition operator ⟨record, member, lacks⟩ same
    -- The record fails both conditions, so it is in the complement of each.
    have fails : holds record (.condition condition) = false := holds_condition_of_absent lacks
    have alsoFails : holds record (.condition { condition with operator }) = false :=
      holds_condition_of_absent lacks
    have left : record ∈ (passing everything.data (.negated (.condition condition))).data := by
      rw [mem_passing, holds_negated, fails]
      exact ⟨member, rfl⟩
    rw [← same, mem_passing, alsoFails] at left
    cases left.2

theorem evaluate_filtered (filter : Filter) (search : Option Search) (records : List Record) :
    ({ filter := some filter, search } : QueryOptions).evaluate records =
      .ok (passing (({ search } : QueryOptions).arranged records) filter) := by
  have filtered : ({ filter := some filter, search } : QueryOptions).arranged records =
      (({ search } : QueryOptions).arranged records).filter (filter.holds ·) :=
    (List.filter_filter ..).symm
  rw [evaluate_eq, filtered]
  rfl

/-- The answers to a query under all filters are a Boolean algebra of parts of its answer
without one, which is the whole input where nothing is searched for. -/
theorem filters_are_boolean (search : Option Search) (records : List Record) :
    ∃ everything answer,
      ({ search } : QueryOptions).evaluate records = .ok everything ∧
      (∀ filter, ({ filter := some filter, search } : QueryOptions).evaluate records =
        .ok (answer filter)) ∧
      everything.data.Sublist records ∧
      (search = none → everything.data = records) ∧
      Boolean everything answer := by
  refine ⟨_, _, evaluate_whole { search } records,
    fun filter => evaluate_filtered filter search records, List.filter_sublist, ?_,
    boolean_passing _⟩
  rintro rfl
  exact List.filter_eq_self.2 fun _ _ => rfl

end QueryOptions

end DocStore
