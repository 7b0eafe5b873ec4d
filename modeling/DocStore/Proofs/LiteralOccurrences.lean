import DocStore.Proofs.FieldLookup
import DocStore.Proofs.TextParts
import DocStore.Query.Evaluate

/-!
# Literal occurrences

Searches and `like` conditions compare texts in lower case, each as a whole.  The lower case
of a character is its own, whatever stands around it, but for the capital sigma, which has
another one at the end of a word.  So a text that stands literally in another one is found
when its capital sigmas end words in both alike (`EndsAlike`), and a text with a sigma for
which this may fail is missed next to some letter.
-/

namespace DocStore

/-- The ways to cut a list at an item, by its first item. -/
theorem forall_cut_cons {α : Type} {item first : α} {items : List α}
    {holds : List α → List α → Prop} :
    (∀ front back, first :: items = front ++ item :: back → holds front back) ↔
      (first = item → holds [] items) ∧
        ∀ front back, items = front ++ item :: back → holds (first :: front) back := by
  constructor
  · intro all
    refine ⟨?_, ?_⟩
    · rintro rfl
      exact all [] items rfl
    · rintro front back rfl
      exact all (first :: front) back rfl
  · rintro ⟨atFirst, later⟩ front back cut
    cases front with
    | nil =>
        obtain ⟨rfl, rfl⟩ := List.cons.inj cut
        exact atFirst rfl
    | cons other front =>
        obtain ⟨rfl, rest⟩ := List.cons.inj cut
        exact later front back rest

namespace LetterCase

/-! ### Lower case between other characters -/

/-- Whether a capital sigma ends a word between `before`, the nearest character first, and
`after`. -/
def endsWord (before after : List Char) : Bool :=
  meetsCased before && !meetsCased after

/-- The lower case of a capital sigma. -/
def lowerSigma (ends : Bool) : Char :=
  if ends then 'ς' else 'σ'

/-- The lower case of a character between others. -/
def lowerAmid (before after : List Char) (c : Char) : List Char :=
  if c = 'Σ' then [lowerSigma (endsWord before after)] else lowerChar c

/-- The lower case of characters between others. -/
def lowerBetween (before after : List Char) : List Char → List Char
  | [] => []
  | c :: rest => lowerAmid before (rest ++ after) c ++ lowerBetween (c :: before) after rest

theorem lowerAfter_eq (before cs : List Char) :
    lowerAfter before cs = lowerBetween before [] cs := by
  induction cs generalizing before with
  | nil => rfl
  | cons c rest ih =>
      rw [lowerAfter, lowerBetween, ih, List.append_nil, lowerAmid, lowerSigma, endsWord]
      split_ifs <;> rfl

theorem toList_lowerCase (text : String) :
    (lowerCase text).toList = lowerBetween [] [] text.toList := by
  rw [lowerCase, String.toList_ofList, lowerAfter_eq]

theorem lowerBetween_append (before after first second : List Char) :
    lowerBetween before after (first ++ second) =
      lowerBetween before (second ++ after) first ++
        lowerBetween (first.reverse ++ before) after second := by
  induction first generalizing before with
  | nil => rfl
  | cons c first ih =>
      rw [List.cons_append, lowerBetween, ih, lowerBetween, List.append_assoc, List.append_assoc,
        List.reverse_cons, List.append_assoc, List.singleton_append]

variable {before after before' after' cs : List Char}

/-- In other surroundings only the lower cases of the capital sigmas are others. -/
theorem lowerBetween_related {R : List Char → List Char → Prop} (refl : ∀ image, R image image)
    (append : ∀ {a b c d}, R a b → R c d → R (a ++ c) (b ++ d))
    (sigmas : ∀ front back, cs = front ++ 'Σ' :: back →
      R [lowerSigma (endsWord (front.reverse ++ before) (back ++ after))]
        [lowerSigma (endsWord (front.reverse ++ before') (back ++ after'))]) :
    R (lowerBetween before after cs) (lowerBetween before' after' cs) := by
  induction cs generalizing before before' with
  | nil => exact refl []
  | cons c rest ih =>
      obtain ⟨atFirst, later⟩ := forall_cut_cons.1 sigmas
      have first : R (lowerAmid before (rest ++ after) c)
          (lowerAmid before' (rest ++ after') c) := by
        rw [lowerAmid, lowerAmid]
        split_ifs with isSigma
        · exact atFirst isSigma
        · exact refl _
      apply append first
      apply ih
      intro front back cut
      simpa using later front back cut

/-- No character comes more often in the lower case where no more sigmas become it. -/
theorem count_lowerBetween_le {x : Char}
    (fewer : ∀ front back, cs = front ++ 'Σ' :: back →
      lowerSigma (endsWord (front.reverse ++ before) (back ++ after)) = x →
        lowerSigma (endsWord (front.reverse ++ before') (back ++ after')) = x) :
    (lowerBetween before after cs).count x ≤ (lowerBetween before' after' cs).count x := by
  apply lowerBetween_related (R := fun a b => a.count x ≤ b.count x)
  · exact fun _ => le_rfl
  · intro a b c d first second
    rw [List.count_append, List.count_append]
    exact Nat.add_le_add first second
  · intro front back cut
    have imp := fewer front back cut
    rw [List.count_singleton, List.count_singleton]
    split_ifs <;> simp_all

theorem count_lowerBetween_lt {x : Char} {front back : List Char}
    (fewer : ∀ front back, cs = front ++ 'Σ' :: back →
      lowerSigma (endsWord (front.reverse ++ before) (back ++ after)) = x →
        lowerSigma (endsWord (front.reverse ++ before') (back ++ after')) = x)
    (cut : cs = front ++ 'Σ' :: back)
    (notHere : lowerSigma (endsWord (front.reverse ++ before) (back ++ after)) ≠ x)
    (there : lowerSigma (endsWord (front.reverse ++ before') (back ++ after')) = x) :
    (lowerBetween before after cs).count x < (lowerBetween before' after' cs).count x := by
  subst cut
  have inFront : (lowerBetween before ('Σ' :: back ++ after) front).count x ≤
      (lowerBetween before' ('Σ' :: back ++ after') front).count x := by
    apply count_lowerBetween_le
    intro first second cut
    simpa using fewer first (second ++ 'Σ' :: back) (by simp [cut])
  have inBack : (lowerBetween ('Σ' :: (front.reverse ++ before)) after back).count x ≤
      (lowerBetween ('Σ' :: (front.reverse ++ before')) after' back).count x := by
    apply count_lowerBetween_le
    intro first second cut
    simpa using fewer (front ++ 'Σ' :: first) second (by simp [cut])
  simp only [lowerBetween_append, lowerBetween, lowerAmid, if_true, there, List.count_append,
    List.count_singleton_self, List.count_singleton, beq_iff_eq, notHere, if_false]
  omega

/-! ### Texts that surroundings leave alone -/

/-- Whether the capital sigmas of a text end words between `before` and `after` as they do in
the text alone. -/
def EndsAlike (before text after : List Char) : Prop :=
  ∀ front back, text = front ++ 'Σ' :: back →
    endsWord front.reverse back = endsWord (front.reverse ++ before.reverse) (back ++ after)

theorem endsAlike_of_not_mem (noSigma : 'Σ' ∉ cs) : EndsAlike before cs after := by
  rintro front back rfl
  simp at noSigma

theorem lowerBetween_of_endsAlike (alike : EndsAlike before cs after) :
    lowerBetween before.reverse after cs = lowerBetween [] [] cs := by
  apply lowerBetween_related (R := (· = ·)) (fun _ => rfl)
  · rintro a b c d rfl rfl
    rfl
  · intro front back cut
    rw [List.append_nil, List.append_nil, alike front back cut]

theorem meetsCased_append (first second : List Char) :
    meetsCased (first ++ second) =
      if first.all isIgnorable then meetsCased second else meetsCased first := by
  induction first with
  | nil => rfl
  | cons c first ih =>
      by_cases ignorable : isIgnorable c = true
      · simpa [meetsCased, ignorable] using ih
      · simp [meetsCased, ignorable]

theorem meetsCased_append_of_meetsCased {first : List Char} (second : List Char)
    (meets : meetsCased first = true) : meetsCased (first ++ second) = true := by
  have notAll := meetsCased_append first []
  rw [List.append_nil, meets] at notAll
  rw [meetsCased_append]
  split_ifs with all
  · rw [if_pos all] at notAll
    cases notAll
  · exact meets

/-- What can be given a case from behind, a letter gives it. -/
theorem meetsCased_append_letter {first second : List Char}
    (alone : meetsCased first = false) (together : meetsCased (first ++ second) = true) :
    meetsCased (first ++ ['a']) = true := by
  rw [meetsCased_append] at together ⊢
  split_ifs with all
  · decide +kernel
  · rw [if_neg all, alone] at together
    cases together

theorem endsWord_iff :
    endsWord before after = true ↔ meetsCased before = true ∧ meetsCased after = false := by
  simp [endsWord]

theorem lowerSigma_eq_final {ends : Bool} : lowerSigma ends = 'ς' ↔ ends = true := by
  cases ends <;> decide

theorem lowerSigma_eq_medial {ends : Bool} : lowerSigma ends = 'σ' ↔ ends = false := by
  cases ends <;> decide

theorem endsWord_of_append (more : List Char)
    (ends : endsWord before (after ++ more) = true) : endsWord before after = true := by
  obtain ⟨begun, ended⟩ := endsWord_iff.1 ends
  refine endsWord_iff.2 ⟨begun, Bool.eq_false_iff.2 fun meets => ?_⟩
  rw [meetsCased_append_of_meetsCased more meets] at ended
  cases ended

theorem not_endsWord_of_append (more : List Char)
    (notEnds : endsWord (before ++ more) after = false) : endsWord before after = false := by
  refine Bool.eq_false_iff.2 fun ends => ?_
  obtain ⟨begun, ended⟩ := endsWord_iff.1 ends
  rw [endsWord_iff.2 ⟨meetsCased_append_of_meetsCased more begun, ended⟩] at notEnds
  cases notEnds

/-- A sigma that no more ends its word before some text does not end it before a letter. -/
theorem endsWord_letter_behind {more : List Char}
    (ends : endsWord before after = true) (notMore : endsWord before (after ++ more) = false) :
    endsWord before (after ++ ['a']) = false := by
  obtain ⟨begun, ended⟩ := endsWord_iff.1 ends
  have goesOn : meetsCased (after ++ more) = true := by
    simpa [endsWord, begun] using notMore
  rw [endsWord, meetsCased_append_letter ended goesOn, Bool.not_true, Bool.and_false]

/-- A sigma that ends a word behind some text ends it behind a letter. -/
theorem endsWord_letter_before {more : List Char}
    (notEnds : endsWord before after = false) (endsMore : endsWord (before ++ more) after = true) :
    endsWord (before ++ ['a']) after = true := by
  obtain ⟨begun, ended⟩ := endsWord_iff.1 endsMore
  have notBegun : meetsCased before = false := by
    simpa [endsWord, ended] using notEnds
  exact endsWord_iff.2 ⟨meetsCased_append_letter notBegun begun, ended⟩

theorem lowerBetween_letter (before after : List Char) : lowerBetween before after ['a'] = ['a'] :=
  rfl

variable {front back : List Char}

/-- With a letter behind it, such a text has a final sigma less. -/
theorem not_infix_letter_behind (cut : cs = front ++ 'Σ' :: back)
    (ends : endsWord front.reverse back = true)
    (notBefore : endsWord front.reverse (back ++ ['a']) = false) :
    ¬ lowerBetween [] [] cs <:+: lowerBetween [] [] (cs ++ ['a']) := by
  intro found
  have less : (lowerBetween [] ['a'] cs).count 'ς' < (lowerBetween [] [] cs).count 'ς' := by
    refine count_lowerBetween_lt ?_ cut ?_ ?_
    · intro front back _
      rw [lowerSigma_eq_final, lowerSigma_eq_final, List.append_nil back]
      exact endsWord_of_append ['a']
    · rw [ne_eq, lowerSigma_eq_final, List.append_nil, notBefore]
      decide
    · rwa [lowerSigma_eq_final, List.append_nil, List.append_nil]
  have count := found.sublist.count_le 'ς'
  have noSigma : List.count 'ς' ['a'] = 0 := by decide
  rw [lowerBetween_append, lowerBetween_letter, List.append_nil, List.count_append, noSigma] at count
  omega

/-- With a letter in front of it, such a text has a sigma less that is not final. -/
theorem not_infix_letter_before (cut : cs = front ++ 'Σ' :: back)
    (notEnds : endsWord front.reverse back = false)
    (behind : endsWord (front.reverse ++ ['a']) back = true) :
    ¬ lowerBetween [] [] cs <:+: lowerBetween [] [] (['a'] ++ cs) := by
  intro found
  have less : (lowerBetween ['a'] [] cs).count 'σ' < (lowerBetween [] [] cs).count 'σ' := by
    refine count_lowerBetween_lt ?_ cut ?_ ?_
    · intro front back _
      rw [lowerSigma_eq_medial, lowerSigma_eq_medial, List.append_nil front.reverse]
      exact not_endsWord_of_append ['a']
    · rw [ne_eq, lowerSigma_eq_medial, List.append_nil, behind]
      decide
    · rwa [lowerSigma_eq_medial, List.append_nil, List.append_nil]
  have count := found.sublist.count_le 'σ'
  have noSigma : List.count 'σ' ['a'] = 0 := by decide
  rw [lowerBetween_append, lowerBetween_letter, List.count_append, noSigma, List.reverse_singleton,
    List.singleton_append] at count
  omega

/-- A text whose sigmas do not end words alike everywhere is not found next to some letter. -/
theorem exists_missed (unlike : ¬ EndsAlike before cs after) :
    ∃ value, cs <:+: value ∧ ¬ lowerBetween [] [] cs <:+: lowerBetween [] [] value := by
  simp only [EndsAlike, not_forall] at unlike
  obtain ⟨front, back, cut, differ⟩ := unlike
  cases alone : endsWord front.reverse back with
  | true =>
      rw [alone, eq_comm, Bool.not_eq_true] at differ
      have notBefore : endsWord front.reverse (back ++ ['a']) = false :=
        endsWord_letter_behind alone (not_endsWord_of_append before.reverse differ)
      exact ⟨cs ++ ['a'], (List.prefix_append ..).isInfix,
        not_infix_letter_behind cut alone notBefore⟩
  | false =>
      rw [alone, eq_comm, Bool.not_eq_false] at differ
      have behind : endsWord (front.reverse ++ ['a']) back = true :=
        endsWord_letter_before alone (endsWord_of_append after differ)
      exact ⟨['a'] ++ cs, (List.suffix_append ..).isInfix,
        not_infix_letter_before cut alone behind⟩

end LetterCase

open LetterCase

/-! ### Searches and conditions -/

/-- Whether a text is found in a field of a record: by a search of all fields, by a search of
any fields with that one among them, and by a condition. -/
structure FoundIn (text field : String) (record : Record) : Prop where
  anywhere : (Search.mk text none).finds record = true
  among : ∀ fields, field ∈ fields → (Search.mk text (some fields)).finds record = true
  like : (Condition.mk field .like (.string text)).holds record = true

variable {record : Record} {field value : String}

theorem isHit_string {needle : List Char} (value : String) :
    (Json.string value).isHit needle = occursIn needle (lowerCase value).toList :=
  rfl

theorem like_iff (holding : Fields.get? field record = some (.string value)) (text : String) :
    (Condition.mk field .like (.string text)).holds record = true ↔
      lowerBetween [] [] text.toList <:+: lowerBetween [] [] value.toList := by
  rw [← toList_lowerCase, ← toList_lowerCase, ← occursIn_iff, Condition.holds, holding]
  rfl

theorem foundIn_of_infix {text : String}
    (holding : Fields.get? field record = some (.string value))
    (contained : lowerBetween [] [] text.toList <:+: lowerBetween [] [] value.toList) :
    FoundIn text field record := by
  have hit : (Json.string value).isHit (lowerCase text).toList = true := by
    rw [isHit_string, occursIn_iff, toList_lowerCase, toList_lowerCase]
    exact contained
  constructor
  case anywhere =>
    rw [Search.finds, Bool.or_eq_true]
    right
    exact List.any_eq_true.2 ⟨_, Fields.mem_of_get? holding, hit⟩
  case among =>
    intro fields member
    rw [Search.finds, Bool.or_eq_true]
    right
    exact List.any_eq_true.2 ⟨_, List.mem_filterMap.2 ⟨field, member, holding⟩, hit⟩
  case like => exact (like_iff holding text).2 contained

/-- A text that stands literally in a field is found when its capital sigmas end words there
as they do in the text alone.  The texts of which this is true in all surroundings, such as
those without a capital sigma, are the ones that are found wherever they stand. -/
theorem literal_found (text : String) :
    (∀ record field value before after, Fields.get? field record = some (.string value) →
      value.toList = before ++ text.toList ++ after → EndsAlike before text.toList after →
      FoundIn text field record) ∧
    ((∀ record field value, Fields.get? field record = some (.string value) →
      text.toList <:+: value.toList → FoundIn text field record) ↔
        ∀ before after, EndsAlike before text.toList after) ∧
    ('Σ' ∉ text.toList → ∀ before after, EndsAlike before text.toList after) := by
  have alike {record : Record} {field value : String} {before after : List Char}
      (holding : Fields.get? field record = some (.string value))
      (stands : value.toList = before ++ text.toList ++ after)
      (alike : EndsAlike before text.toList after) : FoundIn text field record := by
    apply foundIn_of_infix holding
    rw [stands, lowerBetween_append, lowerBetween_append, List.append_nil, List.append_nil,
      lowerBetween_of_endsAlike alike]
    exact List.infix_append ..
  refine ⟨fun _ _ _ _ _ => alike, ⟨fun found before after => ?_, fun everywhere => ?_⟩,
    fun noSigma _ _ => endsAlike_of_not_mem noSigma⟩
  · by_contra unlike
    obtain ⟨missed, contained, notFound⟩ := exists_missed unlike
    have holding : Fields.get? "text" [("text", Json.string (String.ofList missed))] =
        some (.string (String.ofList missed)) := rfl
    have foundIn := found _ _ _ holding (by rwa [String.toList_ofList])
    have inLowerCase := (like_iff holding text).1 foundIn.like
    rw [String.toList_ofList] at inLowerCase
    exact notFound inLowerCase
  · rintro record field value holding ⟨before, after, stands⟩
    exact alike holding stands.symm (everywhere before after)

/-- A record of one word. -/
def wordRecord (word : String) : Record :=
  [("word", .string word)]

/-- The sigma at the end of the word ends the text too. -/
theorem literal_found_odos : FoundIn "ΔΟΣ" "word" (wordRecord "ΟΔΟΣ") := by
  refine (literal_found "ΔΟΣ").1 _ _ "ΟΔΟΣ" ['Ο'] [] rfl (by decide) ?_
  refine forall_cut_cons.2 ⟨by decide, forall_cut_cons.2 ⟨by decide, forall_cut_cons.2 ⟨?_, ?_⟩⟩⟩
  · intro _
    decide +kernel
  · simp

/-- By itself a sigma ends no word, so it is not found at the end of one. -/
theorem literal_missed_odos :
    "Σ".toList <:+: "ΟΔΟΣ".toList ∧
      (Search.mk "Σ" none).finds (wordRecord "ΟΔΟΣ") = false ∧
      (Search.mk "Σ" (some ["word"])).finds (wordRecord "ΟΔΟΣ") = false ∧
      (Condition.mk "word" .like (.string "Σ")).holds (wordRecord "ΟΔΟΣ") = false := by
  decide +kernel

end DocStore
