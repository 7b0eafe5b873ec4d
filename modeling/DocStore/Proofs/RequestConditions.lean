import DocStore.Query.Params
import DocStore.Proofs.CollectionLookup
import DocStore.Proofs.CursorCodec
import DocStore.Proofs.NearestDouble
import DocStore.Proofs.TextParts

/-!
# Conditions of a request read back

A condition is written as a request parameter: its field and the ending of its operator
joined by an underscore, or the field alone for an equality, and a text for its value.
The field may hold underscores and names of operators itself.  Such parameters are read
as the conditions they were written for, in the order of their names, whatever reserved
parameters stand beside them.
-/

namespace DocStore

/-! ### Lists -/

/-- A text that can be an element of a comma-separated list. -/
structure IsListed (element : String) : Prop where
  nonempty : element ≠ ""
  trimmed : trim element = element
  noComma : ',' ∉ element.toList

theorem splitEntries_intercalate {elements : List String}
    (listed : ∀ element ∈ elements, IsListed element) :
    splitEntries (",".intercalate elements) = elements := by
  have pieces : splitAtChar ',' (",".intercalate elements).toList =
      if elements = [] then [[]] else elements.map String.toList := by
    rw [String.toList_intercalate]
    split_ifs with empty
    · rw [empty]
      rfl
    · refine splitAtChar_intercalate (by simpa using empty) fun piece isPiece => ?_
      obtain ⟨element, among, rfl⟩ := List.mem_map.1 isPiece
      exact (listed element among).noComma
  rw [splitEntries, pieces]
  split_ifs with empty
  · rw [empty]
    rfl
  · have trimmed : (elements.map String.toList).map trimBlanks = elements.map String.toList := by
      rw [List.map_map]
      refine List.map_congr_left fun element among => ?_
      have trimmed := congrArg String.toList (listed element among).trimmed
      rwa [trim, String.toList_ofList] at trimmed
    have kept : (elements.map String.toList).filter (!·.isEmpty) =
        elements.map String.toList := by
      refine List.filter_eq_self.2 fun piece isPiece => ?_
      obtain ⟨element, among, rfl⟩ := List.mem_map.1 isPiece
      simpa using (listed element among).nonempty
    rw [trimmed, kept, List.map_map]
    exact List.map_id'' (fun element => String.ofList_toList) elements

/-! ### Integers -/

/-- An integer of at most 15 digits as it is written: a sign, minus or plus, or none, and
decimal digits, zeros among the first of them or not. -/
structure IntegerText where
  /-- Whether the sign is a minus, if there is one. -/
  sign : Option Bool
  digits : List Char
  areDigits : ∀ c ∈ digits, '0' ≤ c ∧ c ≤ '9'
  length : 0 < digits.length ∧ digits.length ≤ 15

namespace IntegerText

variable (n : IntegerText)

/-- The sign as it is written. -/
def lead : List Char :=
  match n.sign with
  | none => []
  | some true => ['-']
  | some false => ['+']

/-- The integer as it is written. -/
def text : String :=
  String.ofList (n.lead ++ n.digits)

/-- The natural that the digits denote. -/
def magnitude : Nat :=
  Nat.ofDigitChars 10 n.digits 0

/-- The integer that is written. -/
def value : Int :=
  if n.sign = some true then -n.magnitude else n.magnitude

theorem ofDigitChars_lt {digits : List Char} (areDigits : ∀ c ∈ digits, '0' ≤ c ∧ c ≤ '9')
    (acc : Nat) : Nat.ofDigitChars 10 digits acc < (acc + 1) * 10 ^ digits.length := by
  induction digits generalizing acc with
  | nil => simp [Nat.ofDigitChars]
  | cons c rest ih =>
      obtain ⟨ofHead, ofRest⟩ := List.forall_mem_cons.1 areDigits
      have small : c.toNat - '0'.toNat ≤ 9 := by
        have : c.toNat ≤ 57 := ofHead.2
        have : '0'.toNat = 48 := rfl
        omega
      calc Nat.ofDigitChars 10 (c :: rest) acc
          = Nat.ofDigitChars 10 rest (10 * acc + (c.toNat - '0'.toNat)) := rfl
        _ < (10 * acc + (c.toNat - '0'.toNat) + 1) * 10 ^ rest.length := ih ofRest _
        _ ≤ ((acc + 1) * 10) * 10 ^ rest.length := Nat.mul_le_mul_right _ (by omega)
        _ = (acc + 1) * 10 ^ (c :: rest).length := by
          rw [List.length_cons, pow_succ]
          ring

theorem magnitude_lt : n.magnitude < 10 ^ 15 := by
  have below := ofDigitChars_lt n.areDigits 0
  rw [Nat.zero_add, Nat.one_mul] at below
  exact below.trans_le (Nat.pow_le_pow_right (by decide) n.length.2)

theorem isSign_of_mem {c : Char} (member : c ∈ n.lead) : c = '-' ∨ c = '+' := by
  unfold lead at member
  split at member <;> simp_all

theorem isDigit_of_mem {c : Char} (member : c ∈ n.digits) : isDigit c = true := by
  simp [isDigit, digitValue?, n.areDigits c member]

theorem splitSign_text : splitSign (n.lead ++ n.digits) = (n.sign == some true, n.digits) := by
  obtain ⟨sign, digits, areDigits, length⟩ := n
  cases sign with
  | some minus => cases minus <;> rfl
  | none =>
      cases digits with
      | nil => simp at length
      | cons c rest =>
          have isDigit := areDigits c List.mem_cons_self
          simp only [lead, List.nil_append]
          unfold splitSign
          split
          · rename_i same
            obtain rfl := (List.cons.inj same).1
            exact absurd isDigit (by decide)
          · rename_i same
            obtain rfl := (List.cons.inj same).1
            exact absurd isDigit (by decide)
          · rfl

/-- Digits are not one of the names that a double can have. -/
theorem named?_digits (negative : Bool) :
    Binary64.named? negative (String.ofList (n.digits.map Char.toLower)) = none := by
  have unchanged : n.digits.map Char.toLower = n.digits :=
    (List.map_congr_left fun c member => toLower_digit (n.areDigits c member)).trans
      (List.map_id' n.digits)
  have noName {name : String} (letter : ∃ c ∈ name.toList, ¬ ('0' ≤ c ∧ c ≤ '9')) :
      String.ofList n.digits ≠ name := by
    rintro rfl
    obtain ⟨c, member, notDigit⟩ := letter
    exact notDigit (n.areDigits c (by simpa using member))
  rw [unchanged, Binary64.named?, if_neg (not_or.2 ⟨?_, ?_⟩), if_neg]
  · exact noName ⟨'n', by decide, by decide⟩
  · exact noName ⟨'i', by decide, by decide⟩
  · exact noName ⟨'i', by decide, by decide⟩

theorem ofDecimal_magnitude (negative : Bool) :
    ∃ x : Double, Binary64.ofDecimal negative n.magnitude 0 = .finite x ∧
      x.negative = negative ∧ x.magnitude = n.magnitude * Double.unitsPerOne := by
  have below := n.magnitude_lt
  obtain ⟨x, found, sign, units⟩ := Binary64.ofDecimal_whole negative (below.trans (by decide))
  refine ⟨x, found, sign, ?_⟩
  rw [units, Binary64.roundedUnits_of_small (below.trans (by decide))]

/-- An integer as it is written is read as the double that is equal to it. -/
theorem numberOrNull_text :
    ∃ x : Double, Params.numberOrNull n.text = .number (.double x) ∧
      x.units = n.value * Double.unitsPerOne := by
  obtain ⟨x, found, sign, magnitude⟩ := n.ofDecimal_magnitude (n.sign == some true)
  have dark : ∀ c ∈ n.lead ++ n.digits, isBlank c = false := by
    intro c member
    rcases List.mem_append.1 member with inLead | inDigits
    · obtain rfl | rfl := n.isSign_of_mem inLead <;> decide
    · exact isBlank_digit (n.areDigits c inDigits)
  have allDigits : ∀ c ∈ n.digits, isDigit c = true := fun c => n.isDigit_of_mem
  have whole : n.digits.takeWhile isDigit = n.digits := List.takeWhile_eq_self_iff.2 allDigits
  have noRest : n.digits.dropWhile isDigit = [] := List.dropWhile_eq_nil_iff.2 allDigits
  have nonempty : n.digits.isEmpty = false := by
    cases isDigits : n.digits with
    | nil => simpa [isDigits] using n.length.1
    | cons c rest => rfl
  have read : Binary64.read? (n.lead ++ n.digits) = some (.finite x) := by
    have isMagnitude : naturalOfDigits 0 n.digits = n.magnitude :=
      naturalOfDigits_eq n.areDigits 0
    simp only [Binary64.read?, n.splitSign_text, n.named?_digits, whole, noRest, nonempty,
      List.append_nil, isMagnitude]
    simpa using found
  refine ⟨x, ?_, ?_⟩
  · rw [Params.numberOrNull, text, String.toList_ofList, trimBlanks_eq_self dark, read]
  · rw [Double.units, sign, magnitude, value]
    by_cases minus : n.sign = some true <;> simp [minus]

end IntegerText

namespace Operator

theorem ofSuffix?_suffix (operator : Operator) : ofSuffix? operator.suffix = some operator := by
  cases operator <;> decide

theorem suffix_of_ofSuffix? {suffix : String} {operator : Operator}
    (found : ofSuffix? suffix = some operator) : operator.suffix = suffix := by
  simpa using List.find?_some found

theorem separator_not_mem_suffix (operator : Operator) : '_' ∉ operator.suffix.toList := by
  cases operator <;> decide

end Operator

/-! ### Conditions -/

/-- The value of a condition as it is written. -/
inductive Operand where
  | text (raw : String)
  | list (elements : List String) (listed : ∀ element ∈ elements, IsListed element)
  | integer (n : IntegerText)

namespace Operand

/-- The text of a value: of a list, its elements joined by commas. -/
def toText : Operand → String
  | text raw => raw
  | list elements _ => ",".intercalate elements
  | integer n => n.text

/-- Whether a value is of the kind that an operator compares with. -/
def Suits (operator : Operator) : Operand → Prop
  | text _ => operator = .eq ∨ operator = .ne ∨ operator = .like
  | list _ _ => operator = .isIn ∨ operator = .notIn
  | integer _ => operator = .gt ∨ operator = .ge ∨ operator = .lt ∨ operator = .le

/-- The values that stand for a written one: the text itself, the list of the elements,
and for an integer a double that is equal to it. -/
inductive IsReadAs : Operand → Json → Prop where
  | text (raw : String) : IsReadAs (.text raw) (.string raw)
  | list (elements : List String) (listed : ∀ element ∈ elements, IsListed element) :
      IsReadAs (.list elements listed) (.array (elements.map .string))
  | integer (n : IntegerText) (x : Double) (equal : x.units = n.value * Double.unitsPerOne) :
      IsReadAs (.integer n) (.number (.double x))

theorem isReadAs_conditionValue {operator : Operator} {operand : Operand}
    (suits : operand.Suits operator) :
    operand.IsReadAs (Params.conditionValue operator operand.toText) := by
  cases operand with
  | text raw => obtain rfl | rfl | rfl := suits <;> exact .text raw
  | list elements listed =>
      have value : Params.conditionValue operator (",".intercalate elements) =
          Json.strings elements := by
        obtain rfl | rfl := suits <;>
          rw [Params.conditionValue, splitEntries_intercalate listed]
      rw [toText, value]
      exact .list elements listed
  | integer n =>
      obtain ⟨x, found, equal⟩ := n.numberOrNull_text
      have value : Params.conditionValue operator n.text = .number (.double x) := by
        obtain rfl | rfl | rfl | rfl := suits <;> exact found
      rw [toText, value]
      exact .integer n x equal

end Operand

/-- A condition as it is written in a request. -/
structure WrittenCondition where
  field : String
  operator : Operator
  operand : Operand
  /-- Whether the field stands alone, without the ending of an operator. -/
  bare : Bool
  named : field ≠ ""
  suits : operand.Suits operator
  /-- Only an equality is written so, and only where the field does not end like the name
  of another condition. -/
  alone : bare = true →
    operator = .eq ∧ ∀ before (other : Operator), field ≠ before ++ "_" ++ other.suffix

namespace WrittenCondition

/-- The name of the parameter. -/
def name (written : WrittenCondition) : String :=
  if written.bare then written.field else written.field ++ "_" ++ written.operator.suffix

/-- The name and the text of the parameter. -/
def entry (written : WrittenCondition) : String × String :=
  (written.name, written.operand.toText)

/-- The conditions that stand for a written one. -/
structure IsReadAs (written : WrittenCondition) (condition : Condition) : Prop where
  field : condition.field = written.field
  operator : condition.operator = written.operator
  value : written.operand.IsReadAs condition.value

theorem splitName_name (written : WrittenCondition) :
    Params.splitName written.name = (written.field, written.operator) := by
  obtain ⟨field, operator, operand, bare, named, suits, alone⟩ := written
  cases bare with
  | false =>
      -- The field may hold underscores, but the ending has none, so the last one is ours.
      have chars : (field ++ "_" ++ operator.suffix).toList =
          field.toList ++ '_' :: operator.suffix.toList := by
        simp
      simp only [name, Bool.false_eq_true, if_false, Params.splitName, chars,
        splitAtLast?_append operator.separator_not_mem_suffix, String.ofList_toList,
        operator.ofSuffix?_suffix]
  | true =>
      obtain ⟨rfl, notEnding⟩ := alone rfl
      simp only [name, if_true, Params.splitName]
      cases split : splitAtLast? '_' field.toList with
      | none => rfl
      | some parts =>
          obtain ⟨before, after⟩ := parts
          cases found : Operator.ofSuffix? (String.ofList after) with
          | none => simp only [found]
          | some other =>
              refine absurd ?_ (notEnding (String.ofList before) other)
              rw [Operator.suffix_of_ofSuffix? found, ← String.toList_inj]
              simpa using eq_append_of_splitAtLast? split

theorem condition?_entry (written : WrittenCondition) :
    ∃ condition, Params.condition? written.name written.operand.toText = some condition ∧
      written.IsReadAs condition := by
  refine ⟨⟨written.field, written.operator,
    Params.conditionValue written.operator written.operand.toText⟩, ?_, rfl, rfl,
    Operand.isReadAs_conditionValue written.suits⟩
  have notEmpty : written.field.isEmpty = false := by simpa using written.named
  simp [Params.condition?, splitName_name, notEmpty]

theorem filterMap_condition? (written : List WrittenCondition) :
    ∃ conditions, List.Forall₂ IsReadAs written conditions ∧
      (written.map entry).filterMap (fun (name, text) => Params.condition? name text) =
        conditions := by
  induction written with
  | nil => exact ⟨[], .nil, rfl⟩
  | cons first rest ih =>
      obtain ⟨condition, found, isRead⟩ := first.condition?_entry
      obtain ⟨conditions, allRead, others⟩ := ih
      refine ⟨condition :: conditions, .cons isRead allRead, ?_⟩
      simp only [List.map_cons, entry, List.filterMap_cons, found, others]

/-- Written conditions in the order of their names. -/
def inOrder (written : List WrittenCondition) : List WrittenCondition :=
  written.mergeSort fun first second => first.name ≤ second.name

theorem perm_inOrder (written : List WrittenCondition) : (inOrder written).Perm written :=
  List.mergeSort_perm ..

theorem increasing_inOrder {written : List WrittenCondition}
    (distinct : (written.map name).Nodup) :
    ((inOrder written).map entry).Pairwise (fun a b => a.1 < b.1) := by
  have ordered : (inOrder written).Pairwise fun first second => first.name ≤ second.name := by
    refine (List.pairwise_mergeSort (fun a b c first second => ?_) (fun a b => ?_) written).imp
      of_decide_eq_true
    · simp only [decide_eq_true_eq] at first second ⊢
      exact String.le_trans first second
    · simpa using String.le_total a.name b.name
  have differ : (inOrder written).Pairwise fun first second => first.name ≠ second.name :=
    List.pairwise_map.1 (((perm_inOrder written).map name).nodup_iff.2 distinct)
  refine List.pairwise_map.2 ((ordered.and differ).imp ?_)
  rintro first second ⟨le, different⟩
  exact String.not_le.1 fun ge => different (String.le_antisymm le ge)

end WrittenCondition

/-- Parameters that hold written conditions under names of their own, none of them
reserved, and nothing else but reserved parameters. -/
structure SortedMap.Asks (params : SortedMap String) (written : List WrittenCondition) : Prop where
  distinct : (written.map WrittenCondition.name).Nodup
  free : ∀ condition ∈ written, condition.name ∉ Params.reserved
  entries : ∀ name text, name ∉ Params.reserved →
    (params.get? name = some text ↔ (name, text) ∈ written.map WrittenCondition.entry)

/-- Every set of conditions can be asked for, with any reserved parameters. -/
theorem SortedMap.asks_ofList {written : List WrittenCondition} {reserved : List (String × String)}
    (distinct : (written.map WrittenCondition.name).Nodup)
    (free : ∀ condition ∈ written, condition.name ∉ Params.reserved)
    (allReserved : ∀ entry ∈ reserved, entry.1 ∈ Params.reserved) :
    (ofList (reserved ++ written.map WrittenCondition.entry)).Asks written := by
  refine ⟨distinct, free, fun name text notReserved => ?_⟩
  have names : (written.map WrittenCondition.entry).map Prod.fst =
      written.map WrittenCondition.name := by
    rw [List.map_map]
    rfl
  have absent : name ∉ reserved.map Prod.fst := by
    rintro member
    obtain ⟨entry, among, rfl⟩ := List.mem_map.1 member
    exact notReserved (allReserved entry among)
  rw [ofList, List.foldl_append, get?_insertions (names ▸ distinct),
    get?_insertions_of_not_mem _ absent]
  exact or_iff_left fun ⟨_, inEmpty⟩ => nomatch inEmpty

namespace QueryOptions

open WrittenCondition

theorem conditionEntries_of_asks {params : SortedMap String} {written : List WrittenCondition}
    (asks : params.Asks written) :
    (params.entries.filter fun (name, _) => !Params.reserved.contains name) =
      (inOrder written).map entry := by
  refine SortedMap.eq_of_increasing (params.increasing.filter _) (increasing_inOrder asks.distinct)
    fun (name, text) => ?_
  have among : (name, text) ∈ (inOrder written).map entry ↔ (name, text) ∈ written.map entry :=
    ((perm_inOrder written).map entry).mem_iff
  rw [List.mem_filter, among, ← SortedMap.get?_eq_some_iff]
  constructor
  · rintro ⟨held, notReserved⟩
    exact (asks.entries name text (by simpa using notReserved)).1 held
  · intro isWritten
    obtain ⟨condition, member, same⟩ := List.mem_map.1 isWritten
    have notReserved : name ∉ Params.reserved := (Prod.mk.inj same).1 ▸ asks.free condition member
    exact ⟨(asks.entries name text notReserved).2 isWritten, by simpa using notReserved⟩

/-- Conditions that were written as parameters are the filter that the parameters are
read as, all of them in one group that holds when they all do, in the order of their
names; there is no filter where there are none. -/
theorem ofParams_filter {params : SortedMap String} {written : List WrittenCondition}
    (asks : params.Asks written) :
    ∃ conditions, List.Forall₂ IsReadAs (inOrder written) conditions ∧
      (ofParams params).filter =
        if conditions = [] then none else some (.group .and (conditions.map .condition)) := by
  obtain ⟨conditions, allRead, found⟩ := filterMap_condition? (inOrder written)
  refine ⟨conditions, allRead, ?_⟩
  rw [ofParams, Params.conditions, conditionEntries_of_asks asks, found]
  cases conditions <;> rfl

/-- Conditions on fields that look like reserved names, like names of conditions, or like
nothing but a separator. -/
def oddConditions : List WrittenCondition := [
  ⟨"stock_gt", .le, .integer ⟨some true, ['0', '4', '2'], by simp, by simp⟩, false,
    by decide, by simp [Operand.Suits], by simp⟩,
  ⟨"stock", .gt, .integer ⟨none, ['4', '2'], by simp, by simp⟩, false, by decide,
    by simp [Operand.Suits], by simp⟩,
  ⟨"_sort", .isIn, .list ["a b", "c"] (by
    rintro element (_ | ⟨_, _ | ⟨_, ⟨⟩⟩⟩)
    · exact ⟨by decide, by decide, by decide⟩
    · exact ⟨by decide, by decide, by decide⟩), false, by decide, by simp [Operand.Suits],
    by simp⟩,
  ⟨"_", .notIn, .list [] (by simp), false, by decide, by simp [Operand.Suits], by simp⟩,
  ⟨"gt_total", .eq, .text " ,_", true, by decide, by simp [Operand.Suits], fun _ =>
    ⟨rfl, by
      intro before other same
      have cut : splitAtLast? '_' (before.toList ++ '_' :: other.suffix.toList) =
          some (before.toList, other.suffix.toList) :=
        splitAtLast?_append other.separator_not_mem_suffix
      have split : splitAtLast? '_' "gt_total".toList = some (['g', 't'], "total".toList) := by
        decide
      rw [same, String.toList_append, String.toList_append, List.append_assoc] at split
      have ending := (Prod.mk.inj (Option.some.inj (cut.symm.trans split))).2
      exact absurd (String.toList_inj.1 ending) (by cases other <;> decide)⟩⟩]

theorem ofParams_oddConditions :
    (SortedMap.ofList ([("_sort", "gt"), ("_q", "stock_gt")] ++ oddConditions.map entry)).Asks
        oddConditions ∧
      ∃ conditions, List.Forall₂ IsReadAs (inOrder oddConditions) conditions ∧
        (ofParams (.ofList
          ([("_sort", "gt"), ("_q", "stock_gt")] ++ oddConditions.map entry))).filter =
          if conditions = [] then none else some (.group .and (conditions.map .condition)) := by
  have asks : (SortedMap.ofList
      ([("_sort", "gt"), ("_q", "stock_gt")] ++ oddConditions.map entry)).Asks oddConditions :=
    SortedMap.asks_ofList (by decide) (by decide) (by decide)
  exact ⟨asks, ofParams_filter asks⟩

end QueryOptions

end DocStore
