import DocStore.Reference.Deletion
import Mathlib.Tactic.SplitIfs

/-!
# Marks of visited records

A deletion notes the records that it has come to by texts.  The marks of records
with texts or integers as ids are different for different records, as long as no
name of a collection has a slash in it.
-/

namespace DocStore

theorem Integer.text_injective {m n : Integer} (same : m.text = n.text) : m = n := by
  have digits {k l : Nat} (same : Nat.toDigits 10 k = Nat.toDigits 10 l) : k = l := by
    rw [← Nat.ofDigitChars_toDigits (b := 10) (n := k) (by decide) (by decide), same,
      Nat.ofDigitChars_toDigits (by decide) (by decide)]
  have noSign (k : Nat) (rest : List Char) : Nat.toDigits 10 k ≠ '-' :: rest := by
    intro signed
    have isDigit := Nat.isDigit_of_mem_toDigits (b := 10) (n := k) (by decide) (by decide)
      (c := '-') (by rw [signed]; simp)
    simp [Char.isDigit] at isDigit
  have lists := congrArg String.toList same
  unfold text at lists
  have vals : m.val = n.val := by
    split_ifs at lists
    · have := digits (by simpa using lists)
      omega
    · exact absurd (by simpa using lists.symm) (noSign _ _)
    · exact absurd (by simpa using lists) (noSign _ _)
    · have := digits (by simpa using lists)
      omega
  cases m
  cases n
  simpa using vals

/-- Whether a value is a text or an integer. -/
def Json.IsKey : Json → Prop
  | .string _ => True
  | .number (.int _) => True
  | _ => False

/-- Whether a name has no slash in it. -/
def SlashFree (name : String) : Prop :=
  '/' ∉ name.toList

instance (name : String) : Decidable (SlashFree name) :=
  inferInstanceAs (Decidable (¬ _))

theorem parts_eq_of_not_mem {α : Type} {mark : α} {first second rest others : List α}
    (notFirst : mark ∉ first) (notSecond : mark ∉ second)
    (same : first ++ mark :: rest = second ++ mark :: others) :
    first = second ∧ rest = others := by
  induction first generalizing second with
  | nil =>
      cases second with
      | nil => simpa using same
      | cons head tail =>
          obtain rfl : mark = head := (List.cons.inj same).1
          simp at notSecond
  | cons head tail ih =>
      cases second with
      | nil =>
          obtain rfl : head = mark := (List.cons.inj same).1
          simp at notFirst
      | cons other more =>
          obtain ⟨rfl, tails⟩ := List.cons.inj same
          obtain ⟨rfl, rests⟩ := ih (fun member => notFirst (List.mem_cons_of_mem _ member))
            (fun member => notSecond (List.mem_cons_of_mem _ member)) tails
          exact ⟨rfl, rests⟩

theorem visitMark_injective {collection other : String} {id otherId : Json}
    (slashFree : SlashFree collection) (otherSlashFree : SlashFree other)
    (isKey : id.IsKey) (otherIsKey : otherId.IsKey)
    (same : visitMark collection id = visitMark other otherId) :
    collection = other ∧ id = otherId := by
  have lists : collection.toList ++ '/' :: (id.typeName.toList ++ ':' :: id.display.toList) =
      other.toList ++ '/' :: (otherId.typeName.toList ++ ':' :: otherId.display.toList) := by
    simpa [visitMark] using congrArg String.toList same
  obtain ⟨names, rests⟩ := parts_eq_of_not_mem slashFree otherSlashFree lists
  refine ⟨String.toList_injective names, ?_⟩
  cases id with
  | string text =>
      cases otherId with
      | string otherText =>
          have texts : text.toList = otherText.toList := by
            simpa [Json.typeName, Json.display] using rests
          rw [String.toList_injective texts]
      | number n => simp [Json.typeName] at rests
      | _ => exact otherIsKey.elim
  | number n =>
      cases otherId with
      | string otherText => simp [Json.typeName] at rests
      | number m =>
          cases n with
          | int n =>
              cases m with
              | int m =>
                  have texts : n.text.toList = m.text.toList := by
                    simpa [Json.typeName, Json.display, Number.displayText] using rests
                  rw [Integer.text_injective (String.toList_injective texts)]
              | double _ => exact otherIsKey.elim
          | double _ => exact isKey.elim
      | _ => exact otherIsKey.elim
  | _ => exact isKey.elim

end DocStore
