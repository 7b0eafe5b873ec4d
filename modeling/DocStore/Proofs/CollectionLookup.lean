import DocStore.Proofs.FieldLookup
import DocStore.Store.Edit
import Mathlib.Order.Defs.LinearOrder

/-!
# Looking up collections

What a map holds after an insertion, and the records of a collection after one.
-/

namespace DocStore

namespace SortedMap

variable {α : Type} {name other : String} {value : α}

theorem find?_place (name other : String) (value : α) (entries : List (String × α)) :
    find? name (place other value entries) =
      if other = name then some value else find? name entries := by
  induction entries with
  | nil => simp [place, find?]
  | cons head rest ih =>
      obtain ⟨first, held⟩ := head
      by_cases before : other < first
      · simp [place, before, find?]
      · by_cases same : first = other
        · subst same
          by_cases found : first = name <;> simp [place, find?, found]
        · by_cases found : first = name
          · subst found
            have different : other ≠ first := fun equal => same equal.symm
            simp [place, before, same, find?, different]
          · simp [place, before, same, find?, found, ih]

theorem get?_insert (m : SortedMap α) (name other : String) (value : α) :
    (m.insert other value).get? name = if other = name then some value else m.get? name :=
  find?_place name other value m.entries

theorem place_place (name : String) (first second : α) (entries : List (String × α)) :
    place name second (place name first entries) = place name second entries := by
  induction entries with
  | nil => simp [place]
  | cons head rest ih =>
      obtain ⟨other, old⟩ := head
      by_cases less : name < other
      · simp [place, less]
      · by_cases same : other = name
        · subst same
          simp [place]
        · simp only [place, less, same, if_false, ih]

theorem insert_insert (m : SortedMap α) (name : String) (first second : α) :
    (m.insert name first).insert name second = m.insert name second := by
  unfold insert
  congr 1
  exact place_place name first second m.entries

theorem modify_insert (m : SortedMap α) (name : String) (value default : α)
    (change : α → α) :
    (m.insert name value).modify name default change = m.insert name (change value) := by
  rw [modify, get?_insert, if_pos rfl, Option.getD_some, insert_insert]

/-- A name above all others comes last. -/
theorem place_of_forall_lt {entries : List (String × α)}
    (above : ∀ entry ∈ entries, entry.1 < name) :
    place name value entries = entries ++ [(name, value)] := by
  induction entries with
  | nil => rfl
  | cons head rest ih =>
      have less : head.1 < name := above head List.mem_cons_self
      rw [place, if_neg (String.lt_asymm less), if_neg (String.ne_of_lt less),
        ih fun entry member => above entry (List.mem_cons_of_mem _ member), List.cons_append]

/-- A name below all others comes first. -/
theorem place_of_lt_forall {entries : List (String × α)}
    (below : ∀ entry ∈ entries, name < entry.1) :
    place name value entries = (name, value) :: entries := by
  cases entries with
  | nil => rfl
  | cons head rest => rw [place, if_pos (below head List.mem_cons_self)]

theorem forall_lt_of_increasing {entries rest : List (String × α)}
    (increasing : (entries ++ (name, value) :: rest).Pairwise (fun a b => a.1 < b.1)) :
    ∀ entry ∈ entries, entry.1 < name := by
  intro entry member
  exact (List.pairwise_append.1 increasing).2.2 entry member (name, value) List.mem_cons_self

theorem mem_entries_of_find? {entries : List (String × α)}
    (found : find? name entries = some value) : (name, value) ∈ entries := by
  induction entries with
  | nil => simp [find?] at found
  | cons head rest ih =>
      obtain ⟨first, held⟩ := head
      by_cases same : first = name
      · simp_all [find?]
      · exact List.mem_cons_of_mem _ (ih (by simpa [find?, same] using found))

theorem get?_eq_some_iff {m : SortedMap α} :
    m.get? name = some value ↔ (name, value) ∈ m.entries := by
  obtain ⟨entries, increasing⟩ := m
  refine ⟨mem_entries_of_find?, fun member => ?_⟩
  simp only [get?] at member ⊢
  induction entries with
  | nil => cases member
  | cons head rest ih =>
      obtain ⟨first, held⟩ := head
      obtain ⟨headLess, restIncreasing⟩ := List.pairwise_cons.1 increasing
      rcases List.mem_cons.1 member with same | inRest
      · obtain ⟨rfl, rfl⟩ := Prod.mk.inj same
        exact if_pos rfl
      · rw [find?, if_neg (String.ne_of_lt (headLess _ inRest)), ih restIncreasing inRest]

/-- Entries in increasing order are told by what is among them. -/
theorem eq_of_increasing {first second : List (String × α)}
    (increasing : first.Pairwise (fun a b => a.1 < b.1))
    (otherIncreasing : second.Pairwise (fun a b => a.1 < b.1))
    (same : ∀ entry, entry ∈ first ↔ entry ∈ second) : first = second := by
  have differ {a b : String × α} (less : a.1 < b.1) : a ≠ b :=
    fun equal => String.ne_of_lt less (congrArg Prod.fst equal)
  have perm := (List.perm_ext_iff_of_nodup (increasing.imp differ)
    (otherIncreasing.imp differ)).2 same
  exact perm.eq_of_pairwise (fun a b _ _ less greater => absurd greater (String.lt_asymm less))
    increasing otherIncreasing

/-- What a map holds after insertions, one after the other. -/
theorem get?_insertions {pairs : List (String × α)} (distinct : (pairs.map Prod.fst).Nodup)
    (m : SortedMap α) (name : String) (value : α) :
    (pairs.foldl (fun m (name, value) => m.insert name value) m).get? name = some value ↔
      (name, value) ∈ pairs ∨ name ∉ pairs.map Prod.fst ∧ m.get? name = some value := by
  induction pairs generalizing m with
  | nil => simp
  | cons head rest ih =>
      obtain ⟨first, held⟩ := head
      obtain ⟨fresh, distinct⟩ := List.nodup_cons.1 distinct
      rw [List.foldl_cons, ih distinct, get?_insert]
      by_cases same : first = name
      · subst same
        have notAgain : (first, value) ∉ rest := fun member =>
          fresh (List.mem_map.2 ⟨_, member, rfl⟩)
        simp [fresh, notAgain, eq_comm]
      · have differ : (name, value) ≠ (first, held) := fun equal =>
          same (Prod.mk.inj equal).1.symm
        simp [same, Ne.symm same, differ]

theorem get?_insertions_of_not_mem {pairs : List (String × α)} (m : SortedMap α)
    (absent : name ∉ pairs.map Prod.fst) :
    (pairs.foldl (fun m (name, value) => m.insert name value) m).get? name = m.get? name := by
  induction pairs generalizing m with
  | nil => rfl
  | cons head rest ih =>
      obtain ⟨notFirst, absent⟩ := not_or.1 (mt List.mem_cons.2 absent)
      rw [List.foldl_cons, ih _ absent, get?_insert, if_neg (Ne.symm notFirst)]

theorem get?_eq_none_of_forall_lt {m : SortedMap α}
    (above : ∀ entry ∈ m.entries, entry.1 < name) : m.get? name = none := by
  cases found : m.get? name with
  | none => rfl
  | some value => exact absurd (above _ (mem_entries_of_find? found)) (String.lt_irrefl name)

end SortedMap

namespace Collections

variable {collections : Collections} {name other : String} {record : Record} {id : Json}

theorem records_empty (name : String) : Collections.records .empty name = [] :=
  rfl

theorem records_insert (collections : Collections) (name other : String)
    (records : List Record) :
    Collections.records (collections.insert other records) name =
      if other = name then records else collections.records name := by
  rw [Collections.records, SortedMap.get?_insert]
  split_ifs <;> rfl

@[simp]
theorem records_insert_self (collections : Collections) (name : String)
    (records : List Record) :
    Collections.records (collections.insert name records) name = records := by
  simp [records_insert]

theorem records_insert_of_ne (different : other ≠ name) (collections : Collections)
    (records : List Record) :
    Collections.records (collections.insert other records) name = collections.records name := by
  simp [records_insert, different]

theorem mem_of_find? (found : collections.find? name id = some record) :
    record ∈ collections.records name ∧ record.hasId id = true :=
  ⟨List.mem_of_find?_eq_some found, by simpa using List.find?_some found⟩

theorem find?_of_split {before after : List Record} {record : Record}
    (split : collections.records name = before ++ record :: after)
    (first : ∀ other ∈ before, other.hasId id = false) (found : record.hasId id = true) :
    collections.find? name id = some record := by
  have none : before.find? (·.hasId id) = none := by
    simpa [List.find?_eq_none] using first
  rw [find?, split, List.find?_append, none]
  simp [found]

theorem find?_eq_none : collections.find? name id = none ↔
    ∀ record ∈ collections.records name, record.hasId id = false := by
  simp [find?, List.find?_eq_none]

theorem mem_holding {field : String} {value : Json} :
    record ∈ collections.holding name field value ↔
      record ∈ collections.records name ∧ record.holds field value = true :=
  List.mem_filter

end Collections

end DocStore
