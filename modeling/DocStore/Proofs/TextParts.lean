import DocStore.Text.Parts
import Mathlib

/-!
# Cutting texts

Texts cut at a character, texts that stand in others, and what follows the start of a text.
-/

namespace DocStore

theorem splitAtLast?_append {separator : Char} {before after : List Char}
    (absent : separator ∉ after) :
    splitAtLast? separator (before ++ separator :: after) = some (before, after) := by
  have differ : ∀ c ∈ after.reverse, (c != separator) = true := by
    intro c member
    simp only [bne_iff_ne]
    rintro rfl
    exact absent (List.mem_reverse.1 member)
  have reversed : (before ++ separator :: after).reverse =
      after.reverse ++ separator :: before.reverse := by simp
  rw [splitAtLast?, reversed, List.dropWhile_append_of_pos differ,
    List.takeWhile_append_of_pos differ]
  simp

theorem eq_append_of_splitAtLast? {separator : Char} {cs before after : List Char}
    (found : splitAtLast? separator cs = some (before, after)) :
    cs = before ++ separator :: after := by
  have joined := List.takeWhile_append_dropWhile (p := (· != separator)) (l := cs.reverse)
  unfold splitAtLast? at found
  split at found
  · cases found
  · rename_i c rest isRest
    have isSeparator : c = separator := by
      have stops := List.head_dropWhile_not (· != separator) (l := cs.reverse) (by simp [isRest])
      simpa [isRest] using stops
    obtain ⟨rfl, rfl⟩ := Prod.mk.inj (Option.some.inj found)
    rw [isRest, isSeparator] at joined
    calc cs = (cs.reverse.takeWhile (· != separator) ++ separator :: rest).reverse := by
          rw [joined, List.reverse_reverse]
      _ = _ := by simp

theorem splitAtChar_of_not_mem {separator : Char} {cs : List Char} (absent : separator ∉ cs) :
    splitAtChar separator cs = [cs] := by
  induction cs with
  | nil => rfl
  | cons c rest ih =>
      obtain ⟨differs, absent⟩ := not_or.1 (mt List.mem_cons.2 absent)
      rw [splitAtChar, if_neg (Ne.symm differs), ih absent]

theorem splitAtChar_ne_nil (separator : Char) (cs : List Char) :
    splitAtChar separator cs ≠ [] := by
  cases cs with
  | nil => simp [splitAtChar]
  | cons c rest =>
      rw [splitAtChar]
      split_ifs
      · simp
      · split <;> simp

theorem splitAtChar_append (separator : Char) (before after : List Char) :
    splitAtChar separator (before ++ separator :: after) =
      splitAtChar separator before ++ splitAtChar separator after := by
  induction before with
  | nil => simp [splitAtChar]
  | cons c before ih =>
      simp only [List.cons_append, splitAtChar, ih]
      split_ifs
      · rfl
      · obtain ⟨piece, pieces, split⟩ :=
          List.exists_cons_of_ne_nil (splitAtChar_ne_nil separator before)
        simp [split]

theorem splitAtChar_intercalate {separator : Char} {pieces : List (List Char)}
    (nonempty : pieces ≠ []) (absent : ∀ piece ∈ pieces, separator ∉ piece) :
    splitAtChar separator ([separator].intercalate pieces) = pieces := by
  induction pieces with
  | nil => exact absurd rfl nonempty
  | cons piece pieces ih =>
      obtain ⟨ofPiece, ofPieces⟩ := List.forall_mem_cons.1 absent
      cases pieces with
      | nil => rw [List.intercalate_singleton, splitAtChar_of_not_mem ofPiece]
      | cons next others =>
          rw [List.intercalate_cons_cons, List.append_assoc, List.singleton_append,
            splitAtChar_append, splitAtChar_of_not_mem ofPiece, ih (by simp) ofPieces,
            List.singleton_append]

theorem occursIn_iff {needle hay : List Char} : occursIn needle hay = true ↔ needle <:+: hay := by
  induction hay with
  | nil => simp [occursIn]
  | cons c hay ih =>
      rw [occursIn, Bool.or_eq_true, List.isPrefixOf_iff_prefix, ih, List.infix_cons_iff]

theorem afterStart?_eq_some {start text rest : String} :
    afterStart? start text = some rest ↔ text = start ++ rest := by
  unfold afterStart?
  constructor
  · intro found
    split_ifs at found with begins
    obtain ⟨more, joined⟩ := List.isPrefixOf_iff_prefix.1 begins
    rw [← joined, List.drop_left, Option.some.injEq] at found
    rw [← String.toList_inj, ← joined, ← found]
    simp
  · rintro rfl
    have begins : start.toList.isPrefixOf (start ++ rest).toList = true := by
      rw [String.toList_append]
      exact List.isPrefixOf_iff_prefix.2 (List.prefix_append ..)
    rw [if_pos begins, String.toList_append, List.drop_left, String.ofList_toList]

end DocStore
