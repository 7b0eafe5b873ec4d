import DocStore.Proofs.SortedResults

/-!
# The order of texts

Texts are compared by the images of their characters, and texts with one image by their own
characters, backwards.  Whatever the image of a character is, and however many characters
it has, this is a total order in which every text equals itself alone.  So a result sorted
by a text shows one list of texts, wherever the records stood before, and in the other
direction the same list backwards.
-/

namespace DocStore

open scoped List

/-- The characters of a text, each put in its image. -/
def imageUnder (fold : Char → List Char) (text : String) : List Char :=
  text.toList.flatMap fold

/-- The order of texts by their images, those with one image in descending order. -/
def compareFolded (fold : Char → List Char) (a b : String) : Ordering :=
  (compare (imageUnder fold a) (imageUnder fold b)).then (compare b a)

section CompareFolded

variable {fold : Char → List Char}

instance : Std.TransCmp (compareFolded fold) :=
  inferInstanceAs (Std.TransCmp (compareLex (compareOn (imageUnder fold)) fun a b => compare b a))

instance : Std.LawfulEqCmp (compareFolded fold) where
  compare_self := by simp [compareFolded]
  eq_of_compare equal := by
    obtain ⟨-, reversed⟩ := Ordering.then_eq_eq.1 equal
    exact (Std.LawfulEqOrd.eq_of_compare reversed).symm

theorem compareFolded_of_ne {a b : String} (differ : imageUnder fold a ≠ imageUnder fold b) :
    compareFolded fold a b = compare (imageUnder fold a) (imageUnder fold b) := by
  have decided : compare (imageUnder fold a) (imageUnder fold b) ≠ .eq := fun equal =>
    differ (Std.LawfulEqOrd.eq_of_compare equal)
  rw [compareFolded]
  cases found : compare (imageUnder fold a) (imageUnder fold b) with
  | lt => rfl
  | eq => exact absurd found decided
  | gt => rfl

end CompareFolded

/-- Whether a comparison of texts is a total order that tells all texts apart, and goes by
their images where these differ. -/
structure TextOrder (fold : Char → List Char) (order : String → String → Ordering) : Prop where
  swap : ∀ a b, order b a = (order a b).swap
  trans : ∀ a b c, (order a b).isLE = true → (order b c).isLE = true → (order a c).isLE = true
  eq_iff : ∀ a b, order a b = .eq ↔ a = b
  byImage : ∀ a b, imageUnder fold a ≠ imageUnder fold b →
    order a b = compare (imageUnder fold a) (imageUnder fold b)

theorem textOrder_compareFolded (fold : Char → List Char) : TextOrder fold (compareFolded fold) where
  swap _ _ := Std.OrientedCmp.eq_swap
  trans _ _ _ first second := Std.TransCmp.isLE_trans first second
  eq_iff _ _ := Std.LawfulEqCmp.compare_eq_iff_eq
  byImage _ _ differ := compareFolded_of_ne differ

namespace SortKey

instance {α : Type} (order : α → α → Ordering) [Std.LawfulEqCmp order] (direction : Direction) :
    Std.LawfulEqCmp (directed order direction) := by
  cases direction with
  | ascending => exact inferInstanceAs (Std.LawfulEqCmp order)
  | descending =>
      have self {a : α} : order a a = .eq := Std.ReflCmp.compare_self
      have unequal {a b : α} (equal : order b a = .eq) : a = b :=
        (Std.LawfulEqCmp.eq_of_compare equal).symm
      exact { compare_self := self, eq_of_compare := unequal }

instance : Std.LawfulEqCmp localeCompare :=
  inferInstanceAs (Std.LawfulEqCmp (compareFolded lowerChar))

/-- Whether every record holds a field as a text. -/
def HeldAsText (field : String) (records : List Record) : Prop :=
  ∀ record ∈ records, ∃ text, Fields.get? field record = some (.string text)

/-- The texts that some records hold in a field. -/
def column (field : String) (records : List Record) : List String :=
  records.map (textOf ⟨field, .ascending⟩)

variable {field : String} {records others : List Record}

theorem column_sortRecords_perm (keys : List SortKey) :
    column field (sortRecords keys records) ~ column field records :=
  (mergeSort_perm _ records).map _

theorem pairwise_column_sortRecords (texts : HeldAsText field records) (direction : Direction) :
    (column field (sortRecords [⟨field, direction⟩] records)).Pairwise fun a b =>
      (directed localeCompare direction a b).isLE = true := by
  have orders : ∀ key ∈ [(⟨field, direction⟩ : SortKey)], key.Orders records := by
    intro key member
    obtain rfl := List.mem_singleton.1 member
    exact .inl texts
  have stable := (stableSort_iff orders).2 rfl
  rw [column, List.pairwise_map]
  apply stable.ordered.imp_of_mem
  intro a b inA inB ordered
  obtain ⟨text, found⟩ := texts a (stable.perm.subset inA)
  obtain ⟨other, otherFound⟩ := texts b (stable.perm.subset inB)
  -- Two records that hold texts are compared by these alone.
  rw [textOf_eq found, textOf_eq otherFound, Ordering.isLE_iff_ne_gt]
  intro greater
  rw [compareBy, compare?_of_texts found otherFound, greater] at ordered
  exact ordered rfl

/-- Texts in order that are the same but for their places are the same. -/
theorem eq_of_perm_of_pairwise {direction : Direction} {first second : List String}
    (perm : first ~ second)
    (firstSorted : first.Pairwise fun a b => (directed localeCompare direction a b).isLE = true)
    (secondSorted : second.Pairwise fun a b => (directed localeCompare direction a b).isLE = true) :
    first = second := by
  apply List.Perm.eq_of_pairwise _ firstSorted secondSorted perm
  intro a b _ _ before after
  exact Std.LawfulEqCmp.eq_of_compare (Std.OrientedCmp.isLE_antisymm before after)

/-- Records that show the same texts show them in one order when they are sorted by them. -/
theorem column_sortRecords_eq (texts : HeldAsText field records)
    (otherTexts : HeldAsText field others) (same : column field records ~ column field others)
    (direction : Direction) :
    column field (sortRecords [⟨field, direction⟩] records) =
      column field (sortRecords [⟨field, direction⟩] others) :=
  eq_of_perm_of_pairwise
    ((column_sortRecords_perm _).trans (same.trans (column_sortRecords_perm _).symm))
    (pairwise_column_sortRecords texts direction) (pairwise_column_sortRecords otherTexts direction)

theorem column_sortRecords_descending (texts : HeldAsText field records) :
    column field (sortRecords [⟨field, .descending⟩] records) =
      (column field (sortRecords [⟨field, .ascending⟩] records)).reverse := by
  have perm : column field (sortRecords [⟨field, .descending⟩] records) ~
      (column field (sortRecords [⟨field, .ascending⟩] records)).reverse :=
    calc column field (sortRecords [⟨field, .descending⟩] records)
      _ ~ column field records := column_sortRecords_perm _
      _ ~ column field (sortRecords [⟨field, .ascending⟩] records) :=
        (column_sortRecords_perm _).symm
      _ ~ _ := (List.reverse_perm _).symm
  have backwards := List.pairwise_reverse.2 (pairwise_column_sortRecords texts .ascending)
  exact eq_of_perm_of_pairwise perm (pairwise_column_sortRecords texts .descending) backwards

end SortKey

open SortKey

/-- The order of texts in sorted results is total, whatever lower case makes of a character,
tells all texts apart, and goes by the lower cases where these differ.  So records that hold
the same texts in a field come out with one list of texts when they are sorted by it, and
with the same list backwards in the other direction. -/
theorem localeCompare_textOrder :
    TextOrder lowerChar localeCompare ∧
    (∀ fold, TextOrder fold (compareFolded fold)) ∧
    ∀ field records others, HeldAsText field records → HeldAsText field others →
      column field records ~ column field others →
      (∀ direction, column field (sortRecords [⟨field, direction⟩] records) =
        column field (sortRecords [⟨field, direction⟩] others)) ∧
      column field (sortRecords [⟨field, .descending⟩] records) =
        (column field (sortRecords [⟨field, .ascending⟩] others)).reverse := by
  refine ⟨textOrder_compareFolded lowerChar, textOrder_compareFolded, ?_⟩
  intro field records others texts otherTexts same
  have agree := column_sortRecords_eq texts otherTexts same
  exact ⟨agree, by rw [column_sortRecords_descending texts, agree]⟩

/-- The dotted capital has two characters for its image, like the other text. -/
example : imageUnder lowerChar "İ" = imageUnder lowerChar "i\u0307" ∧
    localeCompare "İ" "i\u0307" = .lt := by
  decide +kernel

end DocStore
