import DocStore.Proofs.Arrangement
import Mathlib.Data.List.Chain

/-!
# Merge sort by a comparison

What merge sort makes of a list.  Of a comparison that need not be transitive it asks only
that swapping sides swaps the answer: then no item comes after one that it is less than,
as far as neighbours go.  Under a total preorder the result is the one stable arrangement
of the items.
-/

namespace DocStore

variable {α : Type}

/-- Neighbours that come out of a merge are in order, whether they come from one list or
from both. -/
theorem isChain_merge {before : α → α → Bool}
    (total : ∀ a b, before a b = false → before b a = true) (left right : List α)
    (leftChain : left.IsChain (before · · = true))
    (rightChain : right.IsChain (before · · = true)) :
    (left.merge right before).IsChain (before · · = true) ∧
      ∀ a ∈ (left.merge right before).head?, a ∈ left.head? ∨ a ∈ right.head? := by
  induction left, right using List.merge.induct before with
  | case1 right => exact ⟨by simpa using rightChain, by simp⟩
  | case2 left => exact ⟨by simpa using leftChain, by simp⟩
  | case3 a left b right inOrder ih =>
      obtain ⟨tailChain, tailHead⟩ := ih leftChain.tail rightChain
      rw [List.cons_merge_cons, if_pos inOrder]
      refine ⟨List.isChain_cons.2 ⟨?_, tailChain⟩, by simp⟩
      intro next isNext
      rcases tailHead next isNext with inLeft | inRight
      · exact leftChain.rel_head? inLeft
      · obtain rfl : b = next := by simpa using inRight
        exact inOrder
  | case4 a left b right notInOrder ih =>
      obtain ⟨tailChain, tailHead⟩ := ih leftChain rightChain.tail
      rw [List.cons_merge_cons, if_neg notInOrder]
      refine ⟨List.isChain_cons.2 ⟨?_, tailChain⟩, by simp⟩
      intro next isNext
      rcases tailHead next isNext with inLeft | inRight
      · -- The item passed over on the left is not less than this one.
        obtain rfl : a = next := by simpa using inLeft
        exact total a b (Bool.eq_false_iff.2 notInOrder)
      · exact rightChain.rel_head? inRight

theorem isChain_mergeSort {before : α → α → Bool}
    (total : ∀ a b, before a b = false → before b a = true) (items : List α) :
    (mergeSort before items).IsChain (before · · = true) := by
  fun_induction mergeSort before items with
  | case1 items short =>
      rcases items with _ | ⟨item, _ | ⟨next, rest⟩⟩
      · exact .nil
      · exact .singleton item
      · simp at short
  | case2 items long middle first second => exact (isChain_merge total _ _ first second).1

theorem mem_mergeSort {before : α → α → Bool} {items : List α} {item : α} :
    item ∈ mergeSort before items ↔ item ∈ items :=
  (mergeSort_perm before items).mem_iff

/-- Only the comparisons of the items with one another count. -/
theorem mergeSort_congr {before other : α → α → Bool} {items : List α}
    (same : ∀ a ∈ items, ∀ b ∈ items, before a b = other a b) :
    mergeSort before items = mergeSort other items := by
  fun_induction mergeSort before items with
  | case1 items short => rw [mergeSort, if_pos short]
  | case2 items long middle first second =>
      have inFront : ∀ a ∈ items.take middle, a ∈ items := fun _ => List.mem_of_mem_take
      have behind : ∀ a ∈ items.drop middle, a ∈ items := fun _ => List.mem_of_mem_drop
      have merged : ((mergeSort before (items.take middle)).merge
          (mergeSort before (items.drop middle)) before).map id =
            ((mergeSort before (items.take middle)).map id).merge
              ((mergeSort before (items.drop middle)).map id) other :=
        List.map_merge fun a inLeft b inRight => same a (inFront a (mem_mergeSort.1 inLeft)) b
          (behind b (mem_mergeSort.1 inRight))
      have frontSorted := first fun a inA b inB => same a (inFront a inA) b (inFront b inB)
      have restSorted := second fun a inA b inB => same a (behind a inA) b (behind b inB)
      simp only [List.map_id] at merged
      rw [mergeSort.eq_def other, if_neg long, merged, frontSorted, restSorted]

section TotalPreorder

variable {order : α → α → Ordering} [Std.TransCmp order]

theorem isLE_total (a b : α) : ((order a b).isLE || (order b a).isLE) = true := by
  have swap : order b a = (order a b).swap := Std.OrientedCmp.eq_swap
  rw [swap]
  cases order a b <;> rfl

theorem pairwise_mergeSort (items : List α) :
    (mergeSort (fun a b => (order a b).isLE) items).Pairwise
      fun a b => (order a b).isLE = true := by
  fun_induction mergeSort (fun a b => (order a b).isLE) items with
  | case1 items short =>
      rcases items with _ | ⟨item, _ | ⟨next, rest⟩⟩
      · exact .nil
      · exact List.pairwise_singleton _ item
      · simp at short
  | case2 items long middle first second =>
      exact List.pairwise_merge (fun _ _ _ => Std.TransCmp.isLE_trans) isLE_total _ _ first second

/-- Items that compare equal come out of a merge as they stand, those of the left list
first. -/
theorem filter_merge (item : α) (left right : List α)
    (leftSorted : left.Pairwise fun a b => (order a b).isLE = true) :
    (left.merge right fun a b => (order a b).isLE).filter (order item · = .eq) =
      left.filter (order item · = .eq) ++ right.filter (order item · = .eq) := by
  induction left, right using List.merge.induct fun a b => (order a b).isLE with
  | case1 right => simp
  | case2 left => simp
  | case3 a left b right inOrder ih =>
      rw [List.cons_merge_cons, if_pos inOrder, List.filter_cons, ih leftSorted.tail,
        List.filter_cons (x := a)]
      split_ifs <;> rfl
  | case4 a left b right notInOrder ih =>
      rw [List.cons_merge_cons, if_neg notInOrder, List.filter_cons, ih leftSorted,
        List.filter_cons (x := b)]
      by_cases equal : order item b = .eq
      · -- Everything on the left is greater than `b`, so nothing there is equal to it.
        have none : (a :: left).filter (order item · = .eq) = [] := by
          rw [List.filter_eq_nil_iff]
          intro other member otherEqual
          have fromHead : (order a other).isLE = true := by
            rcases List.mem_cons.1 member with rfl | inLeft
            · exact Std.ReflCmp.isLE_rfl
            · exact (List.pairwise_cons.1 leftSorted).1 other inLeft
          have sameAsB : order other b = .eq :=
            Std.TransCmp.eq_trans (Std.OrientedCmp.eq_comm.1 (by simpa using otherEqual)) equal
          rw [Std.TransCmp.congr_right sameAsB] at fromHead
          exact notInOrder fromHead
        simp [none, equal]
      · simp [equal]

theorem filter_mergeSort (item : α) (items : List α) :
    (mergeSort (fun a b => (order a b).isLE) items).filter (order item · = .eq) =
      items.filter (order item · = .eq) := by
  fun_induction mergeSort (fun a b => (order a b).isLE) items with
  | case1 items short => rfl
  | case2 items long middle first second =>
      rw [filter_merge item _ _ (pairwise_mergeSort _), first, second, ← List.filter_append,
        List.take_append_drop]

/-- Two arrangements in order that agree on the items equal to any one are the same. -/
theorem eq_of_sorted_of_filter {first second : List α}
    (firstSorted : first.Pairwise fun a b => (order a b).isLE = true)
    (secondSorted : second.Pairwise fun a b => (order a b).isLE = true)
    (same : ∀ item, item ∈ first ∨ item ∈ second →
      first.filter (order item · = .eq) = second.filter (order item · = .eq)) :
    first = second := by
  have equal_self (item : α) : order item item = .eq := Std.ReflCmp.compare_self
  have mem_of_same {first second : List α} {item : α}
      (same : first.filter (order item · = .eq) = second.filter (order item · = .eq))
      (member : item ∈ first) : item ∈ second := by
    have kept : item ∈ first.filter (order item · = .eq) :=
      List.mem_filter.2 ⟨member, by simp [equal_self]⟩
    rw [same] at kept
    exact (List.mem_filter.1 kept).1
  induction first generalizing second with
  | nil =>
      cases second with
      | nil => rfl
      | cons b second =>
          cases mem_of_same (same b (.inr List.mem_cons_self)).symm List.mem_cons_self
  | cons a first ih =>
      cases second with
      | nil => cases mem_of_same (same a (.inl List.mem_cons_self)) List.mem_cons_self
      | cons b second =>
          obtain ⟨aLeast, firstRest⟩ := List.pairwise_cons.1 firstSorted
          obtain ⟨bLeast, secondRest⟩ := List.pairwise_cons.1 secondSorted
          have aClass := same a (.inl List.mem_cons_self)
          have bClass := same b (.inr List.mem_cons_self)
          -- Each head stands in the other list too, so the heads compare equal.
          have aBeforeB : (order a b).isLE = true := by
            rcases List.mem_cons.1 (mem_of_same bClass.symm List.mem_cons_self) with rfl | inFirst
            · simp [equal_self]
            · exact aLeast b inFirst
          have bBeforeA : (order b a).isLE = true := by
            rcases List.mem_cons.1 (mem_of_same aClass List.mem_cons_self) with rfl | inSecond
            · simp [equal_self]
            · exact bLeast a inSecond
          have equal := Std.OrientedCmp.isLE_antisymm aBeforeB bBeforeA
          simp only [List.filter_cons, equal_self, equal, decide_true, if_true] at aClass
          obtain ⟨rfl, -⟩ := List.cons.inj aClass
          congr 1
          apply ih firstRest secondRest
          intro item member
          have sameItems := same item (member.imp (List.mem_cons_of_mem a) (List.mem_cons_of_mem a))
          simp only [List.filter_cons] at sameItems
          split_ifs at sameItems
          · exact (List.cons.inj sameItems).2
          · exact sameItems

end TotalPreorder

end DocStore
