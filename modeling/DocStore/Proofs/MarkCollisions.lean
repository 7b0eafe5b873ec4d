import DocStore.Proofs.CompactTexts

/-!
# Which records have one mark

A deletion knows the records that it has come to by marks, which join the name of the
collection, the kind of the id and its text.  Two records have one mark if their ids look alike
in one collection, and also if the one text runs into the other: nothing keeps a name from
going on with a slash, a kind and a colon.  Both ways of confusion are told here exactly, and
apart from them the marks identify what a look-up by id identifies.
-/

namespace DocStore

namespace Json

variable {a b : Json}

/-- Whether two ids look alike: numbers of one exact value and one sign, and otherwise one and
the same value. -/
def ShownAlike : Json → Json → Prop
  | .number m, .number n => m.ShownAlike n
  | a, b => a = b

theorem ShownAlike.typeName_eq (alike : a.ShownAlike b) : a.typeName = b.typeName := by
  cases a <;> cases b <;> simp_all [ShownAlike, typeName]

/-- Ids of one kind have one text exactly if they look alike. -/
theorem display_eq_iff (kinds : a.typeName = b.typeName) :
    a.display = b.display ↔ a.ShownAlike b := by
  have other {a b : Json} : a.compact = b.compact ↔ a = b :=
    ⟨compact_injective, fun same => by rw [same]⟩
  cases a with
  | number m =>
      cases b with
      | number n => exact Number.displayText_eq_iff
      | _ => simp [typeName] at kinds
  | string text =>
      cases b with
      | string another => simp [display, ShownAlike]
      | _ => simp [typeName] at kinds
  | null =>
      cases b with
      | null => simp [ShownAlike]
      | _ => simp [typeName] at kinds
  | bool value =>
      cases b with
      | bool another => exact other
      | _ => simp [typeName] at kinds
  | array items =>
      cases b with
      | array others => exact other
      | _ => simp [typeName] at kinds
  | object fields =>
      cases b with
      | object others => exact other
      | _ => simp [typeName] at kinds

theorem not_mem_typeName (a : Json) : '/' ∉ a.typeName.toList ∧ ':' ∉ a.typeName.toList := by
  cases a <;> simp [typeName]

end Json

variable {p q : String} {a b : Json}

/-- Whether the mark of a record is that of another one because the longer name swallows the
kind of the first id and the beginning of its text. -/
def RunsInto (p : String) (a : Json) (q : String) (b : Json) : Prop :=
  ∃ head, q = p ++ "/" ++ a.typeName ++ ":" ++ head ∧
    a.display = head ++ "/" ++ b.typeName ++ ":" ++ b.display

theorem RunsInto.length_lt (runs : RunsInto p a q b) : p.length < q.length := by
  obtain ⟨head, rfl, -⟩ := runs
  simp only [String.length_append]
  have : "/".length = 1 := rfl
  omega

theorem RunsInto.visitMark_eq (runs : RunsInto p a q b) : visitMark p a = visitMark q b := by
  obtain ⟨head, rfl, display⟩ := runs
  rw [visitMark, visitMark, display]
  simp only [String.append_assoc]

theorem toList_visitMark (p : String) (a : Json) :
    (visitMark p a).toList =
      p.toList ++ '/' :: (a.typeName.toList ++ ':' :: a.display.toList) := by
  simp [visitMark]

/-- The kind of an id ends where the first colon stands. -/
theorem kind_eq_of_append {rest other : List Char}
    (same : a.typeName.toList ++ ':' :: rest = b.typeName.toList ++ ':' :: other) :
    a.typeName = b.typeName ∧ rest = other := by
  obtain ⟨names, rests⟩ := parts_eq_of_not_mem a.not_mem_typeName.2 b.not_mem_typeName.2 same
  exact ⟨String.toList_injective names, rests⟩

/-- If the second name is longer, it begins with the first name and the kind of the first id. -/
theorem runsInto_of_longer {swallowed : List Char} (longer : swallowed ≠ [])
    (names : q.toList = p.toList ++ swallowed)
    (rests : '/' :: (a.typeName.toList ++ ':' :: a.display.toList) =
      swallowed ++ '/' :: (b.typeName.toList ++ ':' :: b.display.toList)) :
    RunsInto p a q b := by
  obtain ⟨slash, more, rfl⟩ := List.exists_cons_of_ne_nil longer
  rw [List.cons_append] at rests
  obtain ⟨rfl, inner⟩ := List.cons.inj rests
  rcases List.append_eq_append_iff.1 inner with
    ⟨behind, moreEq, display⟩ | ⟨behind, kind, display⟩
  · cases behind with
    | nil => exact absurd (List.cons.inj display).1 (by decide)
    | cons colon head =>
        obtain ⟨rfl, text⟩ := List.cons.inj display
        refine ⟨String.ofList head, ?_, ?_⟩
        · apply String.toList_injective
          simp [names, moreEq]
        · apply String.toList_injective
          simp [text]
  · cases behind with
    | nil => exact absurd (List.cons.inj display).1 (by decide)
    | cons slash head =>
        obtain ⟨rfl, -⟩ := List.cons.inj display
        exact absurd (by simp [kind]) a.not_mem_typeName.1

/-- When two marks are one text. -/
theorem visitMark_eq_iff :
    visitMark p a = visitMark q b ↔
      (p = q ∧ a.ShownAlike b) ∨ RunsInto p a q b ∨ RunsInto q b p a := by
  constructor
  · intro same
    have lists := congrArg String.toList same
    rw [toList_visitMark, toList_visitMark] at lists
    rcases List.append_eq_append_iff.1 lists with ⟨more, names, rests⟩ | ⟨more, names, rests⟩
    · cases more with
      | nil =>
          obtain ⟨kinds, displays⟩ := kind_eq_of_append (List.cons.inj rests).2
          have names : p = q := String.toList_injective (by simpa using names.symm)
          exact .inl ⟨names, (Json.display_eq_iff kinds).1 (String.toList_injective displays)⟩
      | cons c more => exact .inr (.inl (runsInto_of_longer (List.cons_ne_nil c more) names rests))
    · cases more with
      | nil =>
          obtain ⟨kinds, displays⟩ := kind_eq_of_append (List.cons.inj rests).2
          have names : p = q := String.toList_injective (by simpa using names)
          exact .inl ⟨names,
            (Json.display_eq_iff kinds.symm).1 (String.toList_injective displays.symm)⟩
      | cons c more => exact .inr (.inr (runsInto_of_longer (List.cons_ne_nil c more) names rests))
  · rintro (⟨rfl, alike⟩ | runs | runs)
    · rw [visitMark, visitMark, alike.typeName_eq, (Json.display_eq_iff alike.typeName_eq).2 alike]
    · exact runs.visitMark_eq
    · exact runs.visitMark_eq.symm

namespace Number

/-- Numbers of one exact value have one nearest double. -/
theorem ShownAlike.same {m n : Number} (alike : m.ShownAlike n) : m.same n = true := by
  have nearest {n : Integer} {x : Double} (units : x.units = n.val * (Double.unitsPerOne : Int)) :
      (Number.int n).toDouble.units = x.units := by
    obtain ⟨whole, truncate⟩ := Double.units_eq_mul_iff.1 units
    rw [toDouble_int_units, ← truncate, Double.nearestUnits_truncate whole]
  obtain ⟨units, -⟩ := alike
  rw [Number.same, beq_iff_eq]
  cases m with
  | int m =>
      cases n with
      | int n =>
          have positive := Double.unitsPerOne_pos
          have vals : m.val = n.val := Int.eq_of_mul_eq_mul_right (by omega) units
          rw [toDouble_int_units, toDouble_int_units, vals]
      | double y => exact nearest units.symm
  | double x =>
      cases n with
      | int n => exact (nearest units).symm
      | double y => exact units

end Number

namespace Json

theorem ShownAlike.same (alike : a.ShownAlike b) (distinct : a.DistinctNames) :
    a.same b = true := by
  have refl {a b : Json} (equal : a = b) (distinct : a.DistinctNames) : a.same b = true :=
    equal ▸ same_refl a distinct
  cases a with
  | number m =>
      cases b with
      | number n => simpa [Json.same, sameBy] using Number.ShownAlike.same alike
      | _ => exact refl alike distinct
  | _ => cases b <;> exact refl alike distinct

end Json

/-- Whether the marks of two records mislead: one runs into the other, or the ids are equal and
do not look alike. -/
def Mistaken (p : String) (a : Json) (q : String) (b : Json) : Prop :=
  RunsInto p a q b ∨ RunsInto q b p a ∨ (p = q ∧ a.same b = true ∧ ¬ a.ShownAlike b)

/-- Marks identify records as look-ups by id do, but for those that mislead; and a deletion that
has come to some records, none of which misleads, finds the mark of a record among theirs
exactly if it has come to a record of that collection with an equal id. -/
theorem visitMark_identifies_iff (distinct : a.DistinctNames) :
    ((visitMark p a = visitMark q b ↔ p = q ∧ a.same b = true) ↔ ¬ Mistaken p a q b) ∧
      ∀ records : List (String × Json), (∀ r ∈ records, ¬ Mistaken p a r.1 r.2) →
        ((records.map fun r => visitMark r.1 r.2).contains (visitMark p a) = true ↔
          ∃ id, (p, id) ∈ records ∧ a.same id = true) := by
  have identifies {q : String} {b : Json} :
      (visitMark p a = visitMark q b ↔ p = q ∧ a.same b = true) ↔ ¬ Mistaken p a q b := by
    constructor
    · rintro agree (runs | runs | ⟨rfl, same, unlike⟩)
      · obtain ⟨rfl, -⟩ := agree.1 runs.visitMark_eq
        exact runs.length_lt.false
      · obtain ⟨rfl, -⟩ := agree.1 runs.visitMark_eq.symm
        exact runs.length_lt.false
      · rcases visitMark_eq_iff.1 (agree.2 ⟨rfl, same⟩) with ⟨-, alike⟩ | runs | runs
        · exact unlike alike
        · exact runs.length_lt.false
        · exact runs.length_lt.false
    · intro clear
      constructor
      · intro marks
        rcases visitMark_eq_iff.1 marks with ⟨rfl, alike⟩ | runs | runs
        · exact ⟨rfl, alike.same distinct⟩
        · exact absurd (.inl runs) clear
        · exact absurd (.inr (.inl runs)) clear
      · rintro ⟨rfl, same⟩
        by_contra unmarked
        apply clear
        exact .inr (.inr ⟨rfl, same, fun alike => unmarked (visitMark_eq_iff.2 (.inl ⟨rfl, alike⟩))⟩)
  refine ⟨identifies, fun records clear => ?_⟩
  rw [List.contains_iff_mem, List.mem_map]
  constructor
  · rintro ⟨⟨other, id⟩, member, marks⟩
    obtain ⟨rfl, same⟩ := (identifies.2 (clear _ member)).1 marks.symm
    exact ⟨id, member, same⟩
  · rintro ⟨id, member, same⟩
    exact ⟨(p, id), member, ((identifies.2 (clear _ member)).2 ⟨rfl, same⟩).symm⟩

/-- A deletion that has come to a task by the id `0.0` knows it by the id `0` as well. -/
theorem visitMark_identifies_zero :
    visitMark "tasks" (.number (.int ⟨0, by decide⟩)) =
        visitMark "tasks" (.number (.double (.zero false))) ∧
      ([("tasks", Json.number (.double (.zero false)))].map fun r => visitMark r.1 r.2).contains
        (visitMark "tasks" (.number (.int ⟨0, by decide⟩))) = true := by
  have clear : ¬ Mistaken "tasks" (.number (.int ⟨0, by decide⟩)) "tasks"
      (.number (.double (.zero false))) := by
    rintro (runs | runs | ⟨-, -, unlike⟩)
    · exact runs.length_lt.false
    · exact runs.length_lt.false
    · exact unlike (show Number.ShownAlike _ _ by decide +kernel)
  have same : (Json.number (.int ⟨0, by decide⟩)).same (.number (.double (.zero false))) = true := by
    decide +kernel
  have identifies := @visitMark_identifies_iff "tasks" "tasks" (.number (.int ⟨0, by decide⟩))
    (.number (.double (.zero false))) (by simp [Json.DistinctNames])
  constructor
  · exact (identifies.1.2 clear).2 ⟨rfl, same⟩
  · apply (identifies.2 _ _).2
    · exact ⟨_, List.mem_singleton_self _, same⟩
    · intro r member
      rw [List.mem_singleton.1 member]
      exact clear

/-- A record has the mark of another one in another collection, and a record has two marks under
two equal ids. -/
theorem visitMark_misleads :
    (visitMark "a" (.string "b/string:c") = visitMark "a/string:b" (.string "c") ∧
      "a" ≠ "a/string:b") ∧
    (Json.number (.int ⟨0, by decide⟩)).same (.number (.double (.zero true))) = true ∧
      visitMark "tasks" (.number (.int ⟨0, by decide⟩)) ≠
        visitMark "tasks" (.number (.double (.zero true))) := by
  refine ⟨⟨?_, by decide⟩, by decide +kernel, ?_⟩
  · apply visitMark_eq_iff.2
    exact .inr (.inl ⟨"b", by decide, by decide⟩)
  · intro marks
    rcases visitMark_eq_iff.1 marks with ⟨-, alike⟩ | runs | runs
    · exact absurd (show Number.ShownAlike _ _ from alike) (by decide +kernel)
    · exact runs.length_lt.false
    · exact runs.length_lt.false

end DocStore
