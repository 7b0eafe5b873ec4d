import DocStore.Query.Codec
import DocStore.Proofs.NodeReading

/-!
# Query options are read back

Written options are read as the options that they were written from.  A group and a
condition both have an operator, but no name of an operator is the name of a connective,
so each is refused by the reader of the other, however deep it stands in a filter.
-/

namespace DocStore

theorem Operator.ofSymbol?_symbol (operator : Operator) :
    ofSymbol? operator.symbol = some operator := by
  cases operator <;> rfl

theorem Connective.ofSymbol?_symbol (connective : Connective) :
    ofSymbol? connective.symbol = some connective := by
  cases connective <;> rfl

theorem Direction.ofSymbol?_symbol (direction : Direction) :
    ofSymbol? direction.symbol = some direction := by
  cases direction <;> rfl

namespace Filter

/-! ### Filters -/

mutual

/-- The conditions of a filter, from left to right. -/
def conditions : Filter → List Condition
  | .condition c => [c]
  | .group _ members => conditionsOfEach members
termination_by structural filter => filter

/-- The conditions of all members. -/
def conditionsOfEach : List Filter → List Condition
  | [] => []
  | member :: rest => conditions member ++ conditionsOfEach rest
termination_by structural members => members

end

theorem mem_conditionsOfEach {members : List Filter} {c : Condition} :
    c ∈ conditionsOfEach members ↔ ∃ member ∈ members, c ∈ member.conditions := by
  induction members with
  | nil => simp [conditionsOfEach]
  | cons member rest ih => simp [conditionsOfEach, ih]

theorem toJsonEach_eq (members : List Filter) : toJsonEach members = members.map toJson := by
  induction members with
  | nil => rfl
  | cons member rest ih => rw [toJsonEach, ih, List.map_cons]

/-- Induction over the members of groups. -/
theorem members_induction {motive : Filter → Prop} (condition : ∀ c, motive (.condition c))
    (group : ∀ connective members, (∀ member ∈ members, motive member) →
      motive (.group connective members)) : ∀ filter, motive filter
  | .condition c => condition c
  | .group connective members => group connective members fun member _ =>
      members_induction condition group member
termination_by filter => sizeOf filter
decreasing_by
  have := List.sizeOf_lt_of_mem ‹member ∈ members›
  simp only [Filter.group.sizeOf_spec]
  omega

theorem conditionOfNode_toJson {c : Condition} (distinct : c.value.DistinctNames) :
    conditionOfNode (.ofJson (toJson (.condition c))) = .ok c := by
  rw [conditionOfNode, toJson]
  refine (Node.readParts_bind (some c.field, some c.operator, some c.value) ?_ _).trans rfl
  exact .cons (.part (·.1) (fun draft field => (field, draft.2)) Node.text
      (fun _ _ => rfl) rfl (Node.text_ofJson _))
    (.cons (.part (·.2.1) (fun draft operator => (draft.1, operator, draft.2.2))
        (Node.oneOf Operator.ofSymbol?) (fun _ _ => rfl) rfl
        (Node.oneOf_ofJson c.operator.ofSymbol?_symbol))
      (.part (·.2.2) (fun draft value => (draft.1, draft.2.1, value)) Node.json
        (fun _ _ => rfl) rfl (Node.json_ofJson distinct)))

theorem groupOfNode_toJson (connective : Connective) (members : List Filter) :
    groupOfNode (.ofJson (toJson (.group connective members))) =
      .ok (connective, .ofJson (.array (members.map toJson))) := by
  rw [groupOfNode, toJson, toJsonEach_eq]
  refine (Node.readParts_bind
    (some connective, some (.ofJson (.array (members.map toJson)))) ?_ _).trans rfl
  exact .cons (.part (·.1) (fun draft connective => (connective, draft.2))
      (Node.oneOf Connective.ofSymbol?) (fun _ _ => rfl) rfl
      (Node.oneOf_ofJson connective.ofSymbol?_symbol))
    (.part (·.2) (fun draft members => (draft.1, members)) (fun node => .ok node)
      (fun _ _ => rfl) rfl rfl)

/-- The name of an operator is not that of a connective. -/
theorem groupOfNode_condition (c : Condition) :
    groupOfNode (.ofJson (toJson (.condition c))) = .error .shape := by
  obtain ⟨field, operator, value⟩ := c
  cases operator <;> rfl

/-- The name of a connective is not that of an operator. -/
theorem conditionOfNode_group (connective : Connective) (members : List Filter) :
    conditionOfNode (.ofJson (toJson (.group connective members))) = .error .shape := by
  cases connective <;> rfl

theorem nesting_toJson_member (connective : Connective) {members : List Filter}
    {member : Filter} (isMember : member ∈ members) :
    member.toJson.nesting + 2 ≤ (toJson (.group connective members)).nesting := by
  have below : member.toJson.nesting ≤ Json.nestingItems (members.map toJson) :=
    Json.nestingItems_le.1 le_rfl _ (List.mem_map_of_mem isMember)
  rw [toJson, toJsonEach_eq]
  simp only [Json.nesting, Json.nestingFields]
  omega

theorem numbersIn_toJson {filter : Filter} {allowed : Number → Prop}
    (numbers : ∀ c ∈ filter.conditions, c.value.NumbersIn allowed) :
    filter.toJson.NumbersIn allowed := by
  induction filter using members_induction with
  | condition c =>
      have ofValue := numbers c (by simp [conditions])
      simpa [toJson, Json.NumbersIn, Json.NumbersIn.NumbersInFields] using ofValue
  | group connective members ih =>
      have each : (Json.array (members.map toJson)).NumbersIn allowed :=
        Json.numbersIn_list fun member isMember => ih member isMember fun c inMember =>
          numbers c (mem_conditionsOfEach.2 ⟨member, isMember, inMember⟩)
      simpa [toJson, toJsonEach_eq, Json.NumbersIn, Json.NumbersIn.NumbersInFields] using each

/-- A filter is read as it was written: first as a group, and only where it is none as a
condition. -/
theorem ofNode_toJson {filter : Filter}
    (distinct : ∀ c ∈ filter.conditions, c.value.DistinctNames) {fuel : Nat}
    (enough : filter.toJson.nesting < fuel) :
    ofNode (.ofJson filter.toJson) fuel = .ok filter := by
  induction filter using members_induction generalizing fuel with
  | condition c =>
      obtain ⟨fuel, rfl⟩ := Nat.exists_eq_succ_of_ne_zero (by omega : fuel ≠ 0)
      have isCondition := conditionOfNode_toJson (distinct c (by simp [conditions]))
      rw [ofNode, groupOfNode_condition, isCondition]
      rfl
  | group connective members ih =>
      obtain ⟨fuel, rfl⟩ := Nat.exists_eq_succ_of_ne_zero (by omega : fuel ≠ 0)
      have each : ∀ member ∈ members, ofNode (.ofJson member.toJson) fuel = .ok member := by
        intro member isMember
        have below := nesting_toJson_member connective isMember
        exact ih member isMember
          (fun c inMember => distinct c (mem_conditionsOfEach.2 ⟨member, isMember, inMember⟩))
          (by omega)
      have isRead : (Node.ofJson (.array (members.map toJson))).listOf (ofNode · fuel) =
          .ok members :=
        Node.listOf_ofJson each
      rw [ofNode, groupOfNode_toJson]
      simp only [bind, Except.bind, isRead]
      rfl

end Filter

/-! ### The other options -/

theorem SortKey.ofNode_toJson (key : SortKey) : ofNode (.ofJson key.toJson) = .ok key := by
  rw [ofNode, toJson]
  refine (Node.readParts_bind (some key.field, some key.direction) ?_ _).trans rfl
  exact .cons (.part (·.1) (fun draft field => (field, draft.2)) Node.text
      (fun _ _ => rfl) rfl (Node.text_ofJson _))
    (.part (·.2) (fun draft direction => (draft.1, direction))
      (Node.oneOf Direction.ofSymbol?) (fun _ _ => rfl) rfl
      (Node.oneOf_ofJson key.direction.ofSymbol?_symbol))

namespace Paging

/-- The kind is taken out of the fields, wherever it stands. -/
theorem splitKind_ofJson (kind : String) {fields : List (String × Json)}
    (others : ∀ field ∈ fields, field.1 ≠ "type") :
    splitKind (.ofJson (.object (("type", .string kind) :: fields))) =
      .ok (.ofJson (.string kind), .ofJson (.object fields)) := by
  have kept : (Node.ofFields fields).filter (·.1 ≠ some "type") = Node.ofFields fields := by
    refine List.filter_eq_self.2 fun entry isEntry => ?_
    rw [Node.ofFields_eq] at isEntry
    obtain ⟨field, isField, rfl⟩ := List.mem_map.1 isEntry
    simpa using others field isField
  change Except.ok (Node.ofJson (.string kind),
    Node.map none ((Node.ofFields fields).filter (·.1 ≠ some "type"))) = _
  rw [kept]
  rfl

theorem pageOfNode_ofJson (number limit : UInt64) :
    pageOfNode (.ofJson (.object [("page", .number (.int (.ofUInt64 number))),
      ("limit", .number (.int (.ofUInt64 limit)))])) = .ok (.page number limit) := by
  rw [pageOfNode]
  refine (Node.readParts_bind (some number, some limit) ?_ _).trans rfl
  exact .cons (.part (·.1) (fun draft number => (number, draft.2)) Node.word
      (fun _ _ => rfl) rfl (Node.word_ofJson number))
    (.part (·.2) (fun draft limit => (draft.1, limit)) Node.word
      (fun _ _ => rfl) rfl (Node.word_ofJson limit))

theorem cursorOfNode_ofJson (mark : Option String) (limit : UInt64) :
    cursorOfNode (.ofJson (.object (optionalField "cursor" (mark.map .string) ++
      [("limit", .number (.int (.ofUInt64 limit)))]))) = .ok (.cursor mark limit) := by
  rw [cursorOfNode]
  refine (Node.readParts_bind (mark.map some, some limit) ?_ _).trans ?_
  · exact .append (.option (·.1) (fun draft mark => (mark, draft.2)) Node.text
        (fun _ _ => rfl) rfl rfl fun text _ => ⟨by simp, Node.text_ofJson text⟩)
      (.part (·.2) (fun draft limit => (draft.1, limit)) Node.word
        (fun _ _ => rfl) rfl (Node.word_ofJson limit))
  · simp only [Node.getD_map_some]
    rfl

theorem ofNode_toJson (paging : Paging) : ofNode (.ofJson paging.toJson) = .ok paging := by
  cases paging with
  | page number limit =>
      rw [ofNode, toJson, splitKind_ofJson "offset" (by simp)]
      exact pageOfNode_ofJson number limit
  | cursor mark limit =>
      have others : ∀ field ∈ optionalField "cursor" (mark.map .string) ++
          [("limit", Json.number (.int (.ofUInt64 limit)))], field.1 ≠ "type" := by
        cases mark <;> simp [optionalField]
      rw [ofNode, toJson, List.cons_append, splitKind_ofJson "cursor" others]
      exact cursorOfNode_ofJson mark limit

end Paging

theorem Search.ofNode_toJson (search : Search) : ofNode (.ofJson search.toJson) = .ok search := by
  rw [ofNode, toJson]
  refine (Node.readParts_bind (some search.text, search.fields.map some) ?_ _).trans ?_
  · exact .cons (.part (·.1) (fun draft text => (text, draft.2)) Node.text
        (fun _ _ => rfl) rfl (Node.text_ofJson _))
      (.option (·.2) (fun draft fields => (draft.1, fields)) (Node.listOf Node.text)
        (fun _ _ => rfl) rfl rfl fun texts _ => ⟨by simp [Json.strings], Node.listOf_text texts⟩)
  · simp only [Node.getD_map_some]
    rfl

/-! ### All options -/

namespace QueryOptions

/-- The conditions of the options' filter, from left to right. -/
def conditions (options : QueryOptions) : List Condition :=
  (options.filter.map Filter.conditions).getD []

theorem nesting_filter_toJson {options : QueryOptions} {filter : Filter}
    (found : options.filter = some filter) : filter.toJson.nesting < options.toJson.nesting := by
  simp only [toJson, found, Option.map_some, optionalField, List.cons_append, Json.nesting,
    Json.nestingFields]
  omega

theorem ofJson_toJson {options : QueryOptions}
    (distinct : ∀ c ∈ options.conditions, c.value.DistinctNames) :
    ofJson options.toJson = .ok options := by
  have filterBack : ∀ filter, options.filter = some filter → filter.toJson ≠ .null ∧
      Filter.ofNode (.ofJson filter.toJson) (options.toJson.nesting + 1) = .ok filter := by
    intro filter found
    refine ⟨?_, Filter.ofNode_toJson (fun c isCondition => distinct c ?_) ?_⟩
    · cases filter <;> simp [Filter.toJson]
    · simpa [conditions, found] using isCondition
    · exact Nat.lt_succ_of_lt (nesting_filter_toJson found)
  have pagingBack : ∀ paging, options.paging = some paging → paging.toJson ≠ .null ∧
      Paging.ofNode (.ofJson paging.toJson) = .ok paging := by
    intro paging _
    exact ⟨by cases paging <;> simp [Paging.toJson], paging.ofNode_toJson⟩
  rw [ofJson]
  generalize options.toJson.nesting + 1 = depth at filterBack ⊢
  rw [toJson]
  refine (Node.readParts_bind
    ⟨options.filter.map some, options.sort.map some, options.paging.map some,
      options.search.map some⟩ ?_ _).trans ?_
  · exact (((Node.Fills.option Draft.filter (fun draft filter => { draft with filter })
        (Filter.ofNode · depth) (fun _ _ => rfl) rfl rfl filterBack).append
      (.option Draft.sort (fun draft sort => { draft with sort })
        (Node.listOf SortKey.ofNode) (fun _ _ => rfl) rfl rfl fun keys _ =>
          ⟨by simp, Node.listOf_ofJson fun key _ => key.ofNode_toJson⟩)).append
      (.option Draft.paging (fun draft paging => { draft with paging })
        Paging.ofNode (fun _ _ => rfl) rfl rfl pagingBack)).append
      (.option Draft.search (fun draft search => { draft with search })
        Search.ofNode (fun _ _ => rfl) rfl rfl fun search _ =>
          ⟨by simp [Search.toJson], search.ofNode_toJson⟩)
  · simp only [Node.getD_map_some]
    rfl

theorem numbersIn_toJson {options : QueryOptions}
    (integers : ∀ c ∈ options.conditions, c.value.NumbersIn Number.IsInteger) :
    options.toJson.NumbersIn Number.IsInteger := by
  have ofFilter : ∀ filter, options.filter = some filter →
      filter.toJson.NumbersIn Number.IsInteger := by
    intro filter found
    refine Filter.numbersIn_toJson fun c isCondition => integers c ?_
    simpa [conditions, found] using isCondition
  have ofKeys (keys : List SortKey) :
      (Json.array (keys.map SortKey.toJson)).NumbersIn Number.IsInteger :=
    Json.numbersIn_list fun key _ => by
      simp [SortKey.toJson, Json.NumbersIn, Json.NumbersIn.NumbersInFields]
  have ofPaging (paging : Paging) : paging.toJson.NumbersIn Number.IsInteger := by
    rcases paging with _ | ⟨_ | _, _⟩ <;>
      simp [Paging.toJson, optionalField, Json.NumbersIn, Json.NumbersIn.NumbersInFields,
        Number.IsInteger]
  have ofSearch (search : Search) : search.toJson.NumbersIn Number.IsInteger :=
    ⟨trivial, Json.numbersIn_optional fun _ _ => Json.numbersIn_list fun _ _ => trivial⟩
  exact Json.numbersIn_append.2 ⟨Json.numbersIn_append.2 ⟨Json.numbersIn_append.2
    ⟨Json.numbersIn_optional ofFilter, Json.numbersIn_optional fun keys _ => ofKeys keys⟩,
    Json.numbersIn_optional fun paging _ => ofPaging paging⟩,
    Json.numbersIn_optional fun search _ => ofSearch search⟩

/-- Written options are read as the options that they were written from, however deep the
filter and whatever is absent or empty.  No condition can be read as a group, and no group
as a condition.  Of their text this is said with two limits more: its numbers are integers,
and it nests no deeper than the 127 levels that the reader of texts goes down. -/
theorem reads_as_written (options : QueryOptions)
    (distinct : ∀ c ∈ options.conditions, c.value.DistinctNames) :
    ofJson options.toJson = .ok options ∧
      ((∀ c ∈ options.conditions, c.value.NumbersIn Number.IsInteger) →
        options.toJson.nesting ≤ Json.maxNesting →
          (Json.readTree? options.toJson.compact).map ofJson = some (.ok options)) ∧
      (∀ c : Condition,
        Filter.groupOfNode (.ofJson (Filter.condition c).toJson) = .error .shape) ∧
      ∀ connective members, Filter.conditionOfNode
        (.ofJson (Filter.group connective members).toJson) = .error .shape := by
  have back := ofJson_toJson distinct
  refine ⟨back, fun integers shallow => ?_, Filter.groupOfNode_condition,
    Filter.conditionOfNode_group⟩
  have tree := Json.readTree?_compact (numbersIn_toJson integers) shallow
  rw [tree, Option.map_some, back]

/-- A group in a group, an empty group, a condition whose value looks like a group, and
parts that are there but empty. -/
def disguisedOptions : QueryOptions where
  filter := some (.group .not [
    .group .or [],
    .group .and [
      .condition ⟨"conditions", .isIn, .object
        [("operator", .string "and"), ("conditions", .array [])]⟩,
      .condition ⟨"", .like, .null⟩]])
  sort := some []
  paging := some (.cursor none 18446744073709551615)
  search := some ⟨"", some []⟩

theorem reads_disguisedOptions :
    (∀ c ∈ disguisedOptions.conditions, c.value.DistinctNames) ∧
      (∀ c ∈ disguisedOptions.conditions, c.value.NumbersIn Number.IsInteger) ∧
      disguisedOptions.toJson.nesting ≤ Json.maxNesting ∧
      ofJson disguisedOptions.toJson = .ok disguisedOptions ∧
      (Json.readTree? disguisedOptions.toJson.compact).map ofJson =
        some (.ok disguisedOptions) := by
  have distinct : ∀ c ∈ disguisedOptions.conditions, c.value.DistinctNames := by
    simp [disguisedOptions, conditions, Filter.conditions, Filter.conditionsOfEach,
      Json.DistinctNames, Json.DistinctNames.DistinctNamesFields,
      Json.DistinctNames.DistinctNamesItems]
  have integers : ∀ c ∈ disguisedOptions.conditions, c.value.NumbersIn Number.IsInteger := by
    simp [disguisedOptions, conditions, Filter.conditions, Filter.conditionsOfEach,
      Json.NumbersIn, Json.NumbersIn.NumbersInFields, Json.NumbersIn.NumbersInItems]
  have shallow : disguisedOptions.toJson.nesting ≤ Json.maxNesting := by decide
  obtain ⟨back, backFromText, -, -⟩ := reads_as_written disguisedOptions distinct
  exact ⟨distinct, integers, shallow, back, backFromText integers shallow⟩

end QueryOptions

end DocStore
