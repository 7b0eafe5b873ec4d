import DocStore.Query.Options

/-!
# Sorting records

Records are compared key by key; a key that one of the two lacks, or on which they
cannot be compared, is passed over.  This comparison need not be transitive, so
the order of a result is that of the merge sort given here: halves of the list are
sorted and merged, and of two heads the left one goes first unless it compares
greater.
-/

namespace DocStore

/-- The comparison of two values under a sort key: texts without regard to letter
case, other values as conditions compare them. -/
def Json.sortCompare? : Json → Json → Option Ordering
  | .string a, .string b => some (localeCompare a b)
  | a, b => a.compare? b

namespace SortKey

/-- The comparison of two records by one key, if they can be compared by it. -/
def compare? (key : SortKey) (a b : Record) : Option Ordering := do
  let order ← (← Fields.get? key.field a).sortCompare? (← Fields.get? key.field b)
  return match key.direction with
    | .ascending => order
    | .descending => order.swap

/-- The comparison of two records: that of the first key that tells them apart. -/
def compareBy : List SortKey → Record → Record → Ordering
  | [], _, _ => .eq
  | key :: rest, a, b =>
    match key.compare? a b with
    | some .lt => .lt
    | some .gt => .gt
    | _ => compareBy rest a b

end SortKey

/-- Merge sort, the left half being the shorter one.  `before a b` tells whether
`a` may stand in front of `b`. -/
def mergeSort (before : α → α → Bool) (items : List α) : List α :=
  if items.length ≤ 1 then items
  else
    let middle := items.length / 2
    List.merge (mergeSort before (items.take middle))
      (mergeSort before (items.drop middle)) before
termination_by items.length
decreasing_by all_goals simp only [List.length_take, List.length_drop]; omega

def sortRecords (keys : List SortKey) (records : List Record) : List Record :=
  mergeSort (fun a b => (SortKey.compareBy keys a b).isLE) records

end DocStore
