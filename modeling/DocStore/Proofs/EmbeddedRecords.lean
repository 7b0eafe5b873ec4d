import DocStore.Proofs.ExpandedFields

/-!
# Records embedded in others

An expanded record is its source with other records in the place of relation fields, which
are sources with records in such places themselves, and so on.  Every one of them shows a
stored record of the collection that the relation leads to, whose other fields it keeps;
the deepest ones are as they are stored, also where relations lead around in a circle.
-/

namespace DocStore

/-- How a record of a collection is shown: as it is, or with one record or several in the
place of some of its fields. -/
inductive Display where
  | plain (collection : String) (source : Record)
  | one (display : Display) (reference : Reference) (related : Display)
  | many (display : Display) (reference : Reference) (related : List Display)

namespace Display

/-- The collection of the record that is shown. -/
def collection : Display → String
  | plain collection _ => collection
  | one display _ _ => display.collection
  | many display _ _ => display.collection

/-- The record that is shown, as it was before. -/
def source : Display → Record
  | plain _ source => source
  | one display _ _ => display.source
  | many display _ _ => display.source

/-- The records that are shown in the place of fields. -/
def parts : Display → List (Reference × Display)
  | plain _ _ => []
  | one display reference related => display.parts ++ [(reference, related)]
  | many display reference related => display.parts ++ related.map fun part => (reference, part)

mutual

/-- The record as it is shown. -/
def record : Display → Record
  | plain _ source => source
  | one display reference related =>
    Fields.put reference.field (.object related.record) display.record
  | many display reference related =>
    Fields.put reference.field (.array (objects related)) display.record
termination_by structural display => display

/-- Records as they are shown, as items of an array. -/
def objects : List Display → List Json
  | [] => []
  | display :: rest => .object display.record :: objects rest
termination_by structural displays => displays

end

theorem objects_eq_map (displays : List Display) :
    objects displays = displays.map fun display => .object display.record := by
  induction displays with
  | nil => rfl
  | cons display rest ih => rw [objects, ih, List.map_cons]

/-- What is shown at a level below a record: itself at level zero, and one level down what
is shown in the place of its fields. -/
inductive Shows : Display → Nat → Display → Prop where
  | self {display : Display} : Shows display 0 display
  | part {display related inner : Display} {reference : Reference} {level : Nat}
      (isPart : (reference, related) ∈ display.parts) (within : Shows related level inner) :
      Shows display (level + 1) inner

/-- Whether a record is shown with all fields that are no relations of its collection, and
with stored records of the collections that its relations lead to. -/
structure Faithful (registry : Registry) (collections : Collections) (display : Display) :
    Prop where
  keeps : ∀ field, (∀ relation, ¬ registry.Declares display.collection field relation) →
    Fields.get? field display.record = Fields.get? field display.source
  leads : ∀ reference related, (reference, related) ∈ display.parts →
    registry.Declares display.collection reference.field reference.relation ∧
      related.collection = reference.relation.collection ∧
      related.source ∈ collections.records related.collection

/-- Whether all that is shown is shown faithfully and no deeper than a depth, at which
records are shown as they are. -/
def Within (registry : Registry) (collections : Collections) (depth : Nat) (display : Display) :
    Prop :=
  ∀ level inner, display.Shows level inner → inner.Faithful registry collections ∧
    level ≤ depth ∧ (level = depth → inner.record = inner.source)

variable {registry : Registry} {collections : Collections} {depth : Nat}

theorem within_plain (collection : String) (source : Record) :
    (plain collection source).Within registry collections depth := by
  intro level inner shows
  cases shows with
  | self => exact ⟨⟨fun _ _ => rfl, fun _ _ isPart => nomatch isPart⟩, Nat.zero_le _, fun _ => rfl⟩
  | part isPart => cases isPart

/-- Records that are shown to a depth can be put into a record that is shown to the next
one, in the place of a field with a relation that leads to them. -/
theorem Within.put {display next : Display} {reference : Reference} {related : List Display}
    {value : Json} (within : display.Within registry collections (depth + 1))
    (declared : registry.Declares display.collection reference.field reference.relation)
    (relatedWithin : ∀ part ∈ related, part.Within registry collections depth)
    (leads : ∀ part ∈ related, part.collection = reference.relation.collection ∧
      part.source ∈ collections.records part.collection)
    (sameCollection : next.collection = display.collection)
    (sameSource : next.source = display.source)
    (moreParts : next.parts = display.parts ++ related.map fun part => (reference, part))
    (record_eq : next.record = Fields.put reference.field value display.record) :
    next.Within registry collections (depth + 1) := by
  have partCases {other : Reference} {part : Display} (isPart : (other, part) ∈ next.parts) :
      (other, part) ∈ display.parts ∨ other = reference ∧ part ∈ related := by
    rw [moreParts, List.mem_append, List.mem_map] at isPart
    refine isPart.imp_right ?_
    rintro ⟨_, inRelated, isSame⟩
    obtain ⟨rfl, rfl⟩ := Prod.mk.inj isSame
    exact ⟨rfl, inRelated⟩
  obtain ⟨faithful, -, -⟩ := within 0 display .self
  intro level inner shows
  cases shows with
  | self =>
      refine ⟨⟨fun field unrelated => ?_, fun other part isPart => ?_⟩, Nat.zero_le _, by simp⟩
      · rw [sameCollection] at unrelated
        have differs : reference.field ≠ field := fun same => unrelated _ (same ▸ declared)
        rw [record_eq, Fields.get?_put_of_ne differs, sameSource, faithful.keeps field unrelated]
      · rw [sameCollection]
        rcases partCases isPart with before | ⟨rfl, inRelated⟩
        · exact faithful.leads other part before
        · exact ⟨declared, leads part inRelated⟩
  | part isPart deeper =>
      rcases partCases isPart with before | ⟨-, inRelated⟩
      · exact within _ inner (.part before deeper)
      · obtain ⟨isFaithful, levelLe, verbatim⟩ := relatedWithin _ inRelated _ inner deeper
        exact ⟨isFaithful, by omega, fun isDepth => verbatim (by omega)⟩

end Display

namespace ReferenceGraph

open Display

variable {collections : Collections}

/-- A record that a relation leads to is stored in the collection that it points at, and
stands alone or among others in the place of the field. -/
theorem related?_cases {record : Record} {reference : Reference} {embed : Record → Json}
    {value : Json} (leads : related? collections record reference embed = some value) :
    (∃ related ∈ collections.records reference.relation.collection, value = embed related) ∨
      ∃ related : List Record, value = .array (related.map embed) ∧
        ∀ other ∈ related, other ∈ collections.records reference.relation.collection := by
  have one (led : (do
      let linked ← record.linked? reference.field
      let related ← (collections.holding reference.relation.collection
        reference.relation.field linked).head?
      return embed related) = some value) :
      ∃ related ∈ collections.records reference.relation.collection, value = embed related := by
    obtain ⟨linked, -, led⟩ := Option.bind_eq_some_iff.1 led
    obtain ⟨related, isHead, isValue⟩ := Option.bind_eq_some_iff.1 led
    have member := (Collections.mem_holding.1 (List.mem_of_mem_head? isHead)).1
    exact ⟨related, member, (Option.some.inj isValue).symm⟩
  unfold related? at leads
  cases kind : reference.relation.kind with
  | oneToOne =>
      simp only [kind] at leads
      exact .inl (one leads)
  | manyToOne =>
      simp only [kind] at leads
      exact .inl (one leads)
  | oneToMany =>
      simp only [kind] at leads
      obtain ⟨id, -, isValue⟩ := Option.bind_eq_some_iff.1 leads
      refine .inr ⟨_, (Option.some.inj isValue).symm, fun other isRelated => ?_⟩
      exact (Collections.mem_holding.1 isRelated).1
  | manyToMany =>
      simp only [kind] at leads
      obtain ⟨id, -, leads⟩ := Option.bind_eq_some_iff.1 leads
      obtain ⟨foreignField, -, leads⟩ := Option.bind_eq_some_iff.1 leads
      obtain ⟨_, -, isValue⟩ := Option.bind_eq_some_iff.1 leads
      refine .inr ⟨_, (Option.some.inj isValue).symm, fun other isRelated => ?_⟩
      obtain ⟨relatedId, -, isFound⟩ := List.mem_filterMap.1 isRelated
      exact (Collections.mem_of_find? isFound).1

variable {registry : Registry} {depth : Nat} {view : String → Record → Display}
  {collection : String} {record : Record}

/-- One turn of an expansion: what a relation leads to is put into a record that is shown,
each related record in its view. -/
theorem exists_display_turn {reference : Reference} {value : Json} {display : Display}
    (isCollection : ∀ target related, (view target related).collection = target)
    (isSource : ∀ target related, (view target related).source = related)
    (viewWithin : ∀ target related, (view target related).Within registry collections depth)
    (declared : registry.Declares display.collection reference.field reference.relation)
    (within : display.Within registry collections (depth + 1))
    (leads : related? collections record reference (fun related =>
      .object (view reference.relation.collection related).record) = some value) :
    ∃ next : Display, next.collection = display.collection ∧ next.source = display.source ∧
      next.record = Fields.put reference.field value display.record ∧
      next.Within registry collections (depth + 1) := by
  let target := reference.relation.collection
  have isStored {related : List Record} (members : ∀ other ∈ related,
      other ∈ collections.records target) :
      ∀ part ∈ related.map (view target), part.collection = target ∧
        part.source ∈ collections.records part.collection := by
    intro part isPart
    obtain ⟨other, isRelated, rfl⟩ := List.mem_map.1 isPart
    rw [isCollection, isSource]
    exact ⟨rfl, members other isRelated⟩
  have isWithin (related : List Record) :
      ∀ part ∈ related.map (view target), part.Within registry collections depth := by
    intro part isPart
    obtain ⟨other, -, rfl⟩ := List.mem_map.1 isPart
    exact viewWithin target other
  rcases related?_cases leads with ⟨related, member, rfl⟩ | ⟨related, rfl, members⟩
  · refine ⟨.one display reference (view target related), rfl, rfl, rfl, ?_⟩
    have members : ∀ other ∈ [related], other ∈ collections.records target :=
      List.forall_mem_singleton.2 member
    exact within.put declared (isWithin [related]) (isStored members) rfl rfl rfl rfl
  · refine ⟨.many display reference (related.map (view target)), rfl, rfl, ?_, ?_⟩
    · rw [Display.record, objects_eq_map, List.map_map]
      rfl
    · exact within.put declared (isWithin related) (isStored members) rfl rfl rfl rfl

/-- The turns of an expansion, one for each relation: what is shown before them is shown
with all that the relations lead to. -/
theorem exists_display_filled {references : List Reference} {display : Display}
    (isCollection : ∀ target related, (view target related).collection = target)
    (isSource : ∀ target related, (view target related).source = related)
    (viewWithin : ∀ target related, (view target related).Within registry collections depth)
    (declared : ∀ reference ∈ references,
      registry.Declares display.collection reference.field reference.relation)
    (within : display.Within registry collections (depth + 1)) :
    ∃ next : Display, next.collection = display.collection ∧ next.source = display.source ∧
      next.record = filled (fun reference => related? collections record reference fun related =>
        .object (view reference.relation.collection related).record) references display.record ∧
      next.Within registry collections (depth + 1) := by
  induction references generalizing display with
  | nil => exact ⟨display, rfl, rfl, rfl, within⟩
  | cons reference rest ih =>
      obtain ⟨declaredHere, declaredLater⟩ := List.forall_mem_cons.1 declared
      rw [filled, List.foldl_cons, ← filled]
      cases leads : related? collections record reference fun related =>
          .object (view reference.relation.collection related).record with
      | none => exact ih declaredLater within
      | some value =>
          obtain ⟨turned, sameCollection, sameSource, turned_eq, turnedWithin⟩ :=
            exists_display_turn isCollection isSource viewWithin declaredHere within leads
          obtain ⟨next, nextCollection, nextSource, next_eq, nextWithin⟩ :=
            ih (fun other inRest => sameCollection ▸ declaredLater other inRest) turnedWithin
          exact ⟨next, nextCollection.trans sameCollection, nextSource.trans sameSource,
            next_eq.trans (by rw [turned_eq]), nextWithin⟩

/-- An expanded record shows its source, and stored records in the place of fields with
relations, to the depth of the expansion and no deeper. -/
theorem expand_shows (registry : Registry) (collections : Collections) (depth : Nat)
    (collection : String) (record : Record) :
    ∃ display : Display, display.collection = collection ∧ display.source = record ∧
      display.record = (ofRegistry registry).expand collections depth collection record ∧
      display.Within registry collections depth := by
  induction depth generalizing collection record with
  | zero => exact ⟨.plain collection record, rfl, rfl, rfl, within_plain collection record⟩
  | succ depth ih =>
      choose view isCollection isSource isRecord within using ih
      rw [expand_succ]
      simp only [← isRecord]
      exact exists_display_filled isCollection isSource within
        (fun reference member => (Registry.mem_relationsOf.1 member).2)
        (within_plain collection record)

end ReferenceGraph

end DocStore
