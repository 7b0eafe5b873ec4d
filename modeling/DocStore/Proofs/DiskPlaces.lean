import DocStore.Storage.Disk
import DocStore.Proofs.CollectionLookup
import DocStore.Proofs.TextParts

/-!
# Places on a disk

What stands at a path is told by the entries along its steps.  A path below a folder has
one step more than the folder, and no other path has the same plain form, so a file that
is written or removed there leaves the folder and everything else in it as they were.
-/

namespace DocStore

namespace SortedMap

variable {α : Type}

theorem get?_erase (m : SortedMap α) (name other : String) :
    (m.erase other).get? name = if other = name then none else m.get? name := by
  refine Option.ext fun value => ?_
  rw [get?_eq_some_iff, erase]
  by_cases same : other = name
  · simp [same]
  · simp [same, Ne.symm same, get?_eq_some_iff]

end SortedMap

namespace Disk

variable {disk other : Disk} {entry : Entry}

/-! ### Steps -/

/-- A name that is a step of its own: it is not empty, has no slash, and is neither of
the points that stand for folders. -/
structure IsStep (name : String) : Prop where
  nonempty : name ≠ ""
  noSlash : '/' ∉ name.toList
  notHere : name ≠ "."
  notAbove : name ≠ ".."

theorem resolve_append_empty (taken path : List String) :
    resolve taken (path ++ [""]) = resolve taken path := by
  induction path generalizing taken with
  | nil => simp [resolve]
  | cons step rest ih =>
      simp only [List.cons_append, resolve]
      split_ifs
      · exact ih taken
      · split <;> exact ih _
      · exact ih _

theorem resolve_append {name : String} (isStep : IsStep name) (taken path : List String) :
    resolve taken (path ++ [name]) = resolve taken path ++ [name] := by
  induction path generalizing taken with
  | nil => simp [resolve, isStep.nonempty, isStep.notHere, isStep.notAbove]
  | cons step rest ih =>
      simp only [List.cons_append, resolve]
      split_ifs
      · exact ih taken
      · split <;> exact ih _
      · exact ih _

theorem head?_ne_slash {name : String} (noSlash : '/' ∉ name.toList) :
    name.toList.head? ≠ some '/' :=
  fun isHead => noSlash (List.mem_of_mem_head? isHead)

theorem splitAtChar_slash (front back : String) :
    splitAtChar '/' (front ++ "/" ++ back).toList =
      splitAtChar '/' front.toList ++ splitAtChar '/' back.toList := by
  have chars : (front ++ "/" ++ back).toList = front.toList ++ '/' :: back.toList := by simp
  rw [chars, splitAtChar_append]

/-- A slash at the end of a path is no step. -/
theorem steps_slash {front : String} (nonempty : front ≠ "") :
    steps (front ++ "/") = steps front := by
  have head : (front ++ "/").toList.head? = front.toList.head? := by
    rw [String.toList_append, List.head?_append_of_ne_nil _ (by simpa using nonempty)]
  have pieces := splitAtChar_slash front ""
  rw [String.append_empty] at pieces
  rw [steps, steps, head, pieces, List.map_append]
  exact resolve_append_empty ..

theorem steps_slash_append {name : String} (isStep : IsStep name) (front : String) :
    steps (front ++ "/" ++ name) = steps (front ++ "/") ++ [name] := by
  have head : (front ++ "/" ++ name).toList.head? = (front ++ "/").toList.head? := by
    rw [String.toList_append, List.head?_append_of_ne_nil _ (by simp)]
  have pieces := splitAtChar_slash front ""
  rw [String.append_empty] at pieces
  rw [steps, steps, head, splitAtChar_slash, splitAtChar_of_not_mem isStep.noSlash, pieces,
    List.map_append, List.map_append, List.map_singleton, String.ofList_toList,
    resolve_append isStep]
  exact congrArg (· ++ [name]) (resolve_append_empty ..).symm

theorem steps_join {name : String} (isStep : IsStep name) (path : String) :
    steps (join path name) = steps path ++ [name] := by
  have notHead := head?_ne_slash isStep.noSlash
  rw [join, if_neg notHead]
  by_cases empty : path = ""
  · subst empty
    have joined : "" ++ name = name := String.empty_append
    rw [if_pos (.inl rfl), joined, steps, if_neg notHead, splitAtChar_of_not_mem isStep.noSlash]
    simpa [steps, splitAtChar, resolve] using resolve_append isStep [] []
  · split_ifs with ends
    · obtain isEmpty | endsSlash := ends
      · exact absurd (by simpa using isEmpty) empty
      · obtain ⟨front, cut⟩ := List.getLast?_eq_some_iff.1 endsSlash
        have ending : path = String.ofList front ++ "/" := by
          rw [← String.toList_inj, cut]
          simp
        rw [ending, steps_slash_append isStep]
    · rw [steps_slash_append isStep, steps_slash empty]

/-! ### Plain forms -/

theorem plain_append {above below : List String} (nonempty : above ≠ [])
    (belowNonempty : below ≠ []) :
    plain (above ++ below) = plain above ++ "/" ++ plain below :=
  String.intercalate_append_of_ne_nil nonempty belowNonempty

/-- What the plain forms of all that is directly in a folder begin with. -/
def start (above : List String) : String :=
  plain (above ++ [""])

theorem plain_concat (above : List String) (name : String) :
    plain (above ++ [name]) = start above ++ name := by
  rw [start]
  by_cases top : above = []
  · simp [top, plain]
  · rw [plain_append top (by simp), plain_append top (by simp)]
    simp [plain]

theorem plain_concat_inj {above : List String} {name other : String} :
    plain (above ++ [name]) = plain (above ++ [other]) ↔ name = other := by
  rw [plain_concat, plain_concat, ← String.toList_inj, String.toList_append,
    String.toList_append, List.append_cancel_left_eq, String.toList_inj]

/-- A path has a longer plain form than the folders above it. -/
theorem plain_ne_of_append {above below : List String} (nonempty : above ≠ [])
    (belowNonempty : below ≠ []) : plain above ≠ plain (above ++ below) := by
  intro same
  have length := congrArg String.length same
  rw [plain_append nonempty belowNonempty, String.length_append, String.length_append] at length
  have slash : "/".length = 1 := rfl
  omega

/-! ### What stands at a path -/

/-- What stands at a name in a folder with some steps, told by the entry there. -/
def child (disk : Disk) (above : List String) (name : String) : Except FileProblem Entry :=
  match nameProblem? name, disk.get? (plain (above ++ [name])) with
  | some problem, _ => .error problem
  | none, none => .error .notFound
  | none, some entry => .ok entry

theorem follow_singleton (disk : Disk) (above : List String) (name : String) :
    disk.follow above [name] = disk.child above name := by
  rw [follow.eq_def]
  dsimp only [child]
  generalize nameProblem? name = problem
  generalize SortedMap.get? disk (plain (above ++ [name])) = found
  cases problem <;> cases found <;> rfl

theorem follow_cons (disk : Disk) (above : List String) (step : String) {rest : List String}
    (nonempty : rest ≠ []) :
    disk.follow above (step :: rest) =
      match disk.child above step with
      | .ok .folder => disk.follow (above ++ [step]) rest
      | .ok _ => .error .notDirectory
      | .error problem => .error problem := by
  obtain ⟨next, more, rfl⟩ := List.exists_cons_of_ne_nil nonempty
  rw [follow.eq_def]
  dsimp only [child]
  generalize nameProblem? step = problem
  generalize SortedMap.get? disk (plain (above ++ [step])) = found
  rcases problem with _ | _ <;> rcases found with _ | (_ | _ | _) <;> rfl

/-- The last step of a path is taken in the folder that the others lead to. -/
theorem follow_concat (disk : Disk) (above path : List String) (name : String) :
    disk.follow above (path ++ [name]) =
      match disk.follow above path with
      | .ok .folder => disk.child (above ++ path) name
      | .ok _ => .error .notDirectory
      | .error problem => .error problem := by
  induction path generalizing above with
  | nil => rw [List.nil_append, follow_singleton, follow, List.append_nil]
  | cons step rest ih =>
      rw [List.cons_append, follow_cons disk above step (by simp), ih, List.append_assoc,
        List.singleton_append]
      -- The last step of a path may lead to anything, the steps before it only to folders.
      by_cases last : rest = []
      · subst last
        rw [follow_singleton, follow]
      · rw [follow_cons disk above step last]
        rcases disk.child above step with _ | (_ | _ | _) <;> rfl

theorem follow_congr {above path : List String}
    (same : ∀ front back, path = front ++ back → front ≠ [] →
      disk.get? (plain (above ++ front)) = other.get? (plain (above ++ front))) :
    disk.follow above path = other.follow above path := by
  induction path using List.reverseRecOn with
  | nil => rfl
  | append_singleton path name ih =>
      have ofFront := ih fun front back joined =>
        same front (back ++ [name]) (by rw [joined, List.append_assoc])
      have ofAll : disk.child (above ++ path) name = other.child (above ++ path) name := by
        rw [child, child, List.append_assoc, same (path ++ [name]) [] (by simp) (by simp)]
      rw [follow_concat, follow_concat, ofFront, ofAll]

/-- Nothing that changes directly in a folder changes what stands at the folder. -/
theorem follow_of_frame {path : List String}
    (frame : ∀ place, (∀ name, place ≠ plain (path ++ [name])) →
      disk.get? place = other.get? place) :
    disk.follow [] path = other.follow [] path := by
  refine follow_congr fun front back joined nonempty => frame _ fun name => ?_
  rw [List.nil_append, joined, List.append_assoc]
  exact plain_ne_of_append nonempty (by simp)

theorem find_join {name : String} (isStep : IsStep name) (disk : Disk) (path : String) :
    disk.find (join path name) =
      match disk.find path with
      | .ok .folder => disk.child (steps path) name
      | .ok _ => .error .notDirectory
      | .error problem => .error problem := by
  rw [find, steps_join isStep, follow_concat, List.nil_append]
  rfl

theorem isFolder_iff {path : String} :
    disk.isFolder path = true ↔ disk.find path = .ok .folder := by
  unfold isFolder
  split <;> simp_all

theorem nameProblem?_ne_notFound {name : String} : nameProblem? name ≠ some .notFound := by
  unfold nameProblem?
  split_ifs <;> simp

theorem child_of_fits {name : String} (fits : nameProblem? name = none) (disk : Disk)
    (above : List String) :
    disk.child above name =
      match disk.get? (plain (above ++ [name])) with
      | some entry => .ok entry
      | none => .error .notFound := by
  rw [child, fits]
  cases SortedMap.get? disk (plain (above ++ [name])) <;> rfl

/-- A name that something stands at, or nothing for no other reason than that it is not
there, is one that the disk can hold. -/
theorem fits_of_child {above : List String} {name : String}
    (free : disk.child above name = .error .notFound ∨
      ∃ entry, disk.child above name = .ok entry) :
    nameProblem? name = none := by
  cases isProblem : nameProblem? name with
  | none => rfl
  | some problem =>
      rw [child, isProblem] at free
      obtain same | ⟨entry, same⟩ := free
      · cases same
        exact absurd isProblem nameProblem?_ne_notFound
      · cases same

/-! ### Files -/

theorem place_of_find {path : String} {old : Entry} (found : disk.find path = .ok old)
    (notFolder : old ≠ .folder) :
    disk.place path entry = .ok (disk.insert (plain (steps path)) entry) := by
  cases old with
  | folder => exact absurd rfl notFolder
  | _ =>
      simp only [place, found]
      rfl

theorem place_join {path name : String} (isStep : IsStep name)
    (isFolder : disk.find path = .ok .folder) (fits : nameProblem? name = none)
    (notFolder : disk.get? (plain (steps path ++ [name])) ≠ some .folder) :
    disk.place (join path name) entry =
      .ok (disk.insert (plain (steps path ++ [name])) entry) := by
  have above : (steps (join path name)).dropLast = steps path := by
    rw [steps_join isStep, List.dropLast_concat]
  have found : disk.find (join path name) = disk.child (steps path) name := by
    rw [find_join isStep, isFolder]
  rw [← steps_join isStep]
  cases held : disk.get? (plain (steps path ++ [name])) with
  | some old =>
      have isOld : disk.find (join path name) = .ok old := by
        rw [found, child_of_fits fits, held]
      refine place_of_find isOld ?_
      rintro rfl
      exact notFolder held
  | none =>
      have notFound : disk.find (join path name) = .error .notFound := by
        rw [found, child_of_fits fits, held]
      rw [find] at isFolder
      simp only [place, notFound, above, isFolder]
      rfl

/-- What is removed is no longer there, and nothing else is touched. -/
theorem remove_ok {path : String} {removed : Disk} (isRemoved : disk.remove path = .ok removed) :
    removed = disk.erase (plain (steps path)) := by
  unfold remove at isRemoved
  cases found : disk.find path with
  | error problem => simp [found, bind, Except.bind] at isRemoved
  | ok entry =>
      simp only [found, bind, Except.bind] at isRemoved
      split at isRemoved
      · cases isRemoved
      · exact (Except.ok.inj isRemoved).symm

theorem remove_of_find {path : String} (found : disk.find path = .ok entry)
    (notFolder : entry ≠ .folder) : disk.remove path = .ok (disk.erase (plain (steps path))) := by
  cases entry with
  | folder => exact absurd rfl notFolder
  | _ =>
      simp only [remove, found]
      rfl

/-! ### Folders -/

theorem follow_of_child {above : List String} {step : String}
    (isFolder : disk.child above step = .ok .folder) (rest : List String) :
    disk.follow above (step :: rest) = disk.follow (above ++ [step]) rest := by
  by_cases last : rest = []
  · rw [last, follow_singleton, follow, isFolder]
  · rw [follow_cons disk above step last, isFolder]

theorem child_of_follow {above rest : List String} {step : String}
    (isFolder : disk.follow above (step :: rest) = .ok .folder) :
    disk.child above step = .ok .folder := by
  by_cases last : rest = []
  · rwa [last, follow_singleton] at isFolder
  · rw [follow_cons disk above step last] at isFolder
    split at isFolder
    · assumption
    · cases isFolder
    · cases isFolder

theorem makeFoldersFrom_cons {above rest : List String} {step : String} {made : Disk}
    (isMade : disk.makeFoldersFrom above (step :: rest) = .ok made) :
    disk.child above step = .ok .folder ∧
        disk.makeFoldersFrom (above ++ [step]) rest = .ok made ∨
      disk.child above step = .error .notFound ∧
        makeFoldersFrom (disk.insert (plain (above ++ [step])) .folder) (above ++ [step]) rest =
          .ok made := by
  simp only [makeFoldersFrom] at isMade
  split at isMade
  · cases isMade
  · rename_i fits missing
    exact .inr ⟨by rw [child_of_fits fits, missing], isMade⟩
  · rename_i fits found
    exact .inl ⟨by rw [child_of_fits fits, found], isMade⟩
  · cases isMade

/-- Folders are made where they are not there already, and nothing else is touched. -/
theorem makeFoldersFrom_ok {above path : List String} {made : Disk}
    (isMade : disk.makeFoldersFrom above path = .ok made) :
    made.follow above path = .ok .folder ∧
      ∀ place, (∀ front back, path = front ++ back → front ≠ [] →
        place ≠ plain (above ++ front)) → made.get? place = disk.get? place := by
  induction path generalizing disk above with
  | nil =>
      cases isMade
      exact ⟨rfl, fun _ _ => rfl⟩
  | cons step rest ih =>
      -- Folders further down have longer places, so what is made here stays.
      have later {place : String} (differs : ∀ front back, step :: rest = front ++ back →
          front ≠ [] → place ≠ plain (above ++ front)) (front back : List String)
          (joined : rest = front ++ back) (_ : front ≠ []) :
          place ≠ plain (above ++ [step] ++ front) := by
        have differs := differs (step :: front) back (by rw [joined, List.cons_append]) (by simp)
        rwa [List.append_assoc, List.singleton_append]
      have here (front back : List String) (_ : rest = front ++ back) (nonempty : front ≠ []) :
          plain (above ++ [step]) ≠ plain (above ++ [step] ++ front) :=
        plain_ne_of_append (by simp) nonempty
      obtain ⟨isFolder, isMade⟩ | ⟨isMissing, isMade⟩ := makeFoldersFrom_cons isMade
      · obtain ⟨restFolder, frame⟩ := ih isMade
        have fits := fits_of_child (.inr ⟨_, isFolder⟩)
        have stays : made.child above step = .ok .folder := by
          rw [← isFolder, child, child, frame _ here]
        rw [follow_of_child stays]
        exact ⟨restFolder, fun place differs => frame place (later differs)⟩
      · obtain ⟨restFolder, frame⟩ := ih isMade
        have fits := fits_of_child (.inl isMissing)
        have stays : made.child above step = .ok .folder := by
          rw [child_of_fits fits, frame _ here, SortedMap.get?_insert, if_pos rfl]
        rw [follow_of_child stays]
        refine ⟨restFolder, fun place differs => ?_⟩
        have notHere : place ≠ plain (above ++ [step]) := differs [step] rest rfl (by simp)
        rw [frame place (later differs), SortedMap.get?_insert, if_neg (Ne.symm notHere)]

theorem makeFoldersFrom_of_folder {above path : List String}
    (isFolder : disk.follow above path = .ok .folder) :
    disk.makeFoldersFrom above path = .ok disk := by
  induction path generalizing above with
  | nil => rfl
  | cons step rest ih =>
      have child := child_of_follow isFolder
      have fits := fits_of_child (.inr ⟨_, child⟩)
      have held : disk.get? (plain (above ++ [step])) = some .folder := by
        rw [child_of_fits fits] at child
        split at child
        · rename_i found
          rw [found, Except.ok.inj child]
        · cases child
      simp only [makeFoldersFrom, fits, held]
      exact ih (follow_of_child child rest ▸ isFolder)

theorem names_eq (disk : Disk) (path : String) :
    disk.names path = ((disk.entries.map Prod.fst).filterMap
      (afterStart? (start (steps path)))).filter fun name => !name.toList.contains '/' := by
  have direct : (disk.below path).map Prod.fst =
      (disk.entries.map Prod.fst).filterMap (afterStart? (start (steps path))) := by
    rw [below, List.map_filterMap, List.filterMap_map]
    congr 1
    funext ⟨place, entry⟩
    simp [start, Function.comp_def]
  rw [names, direct]

theorem mem_names {path name : String} :
    name ∈ disk.names path ↔
      '/' ∉ name.toList ∧ ∃ entry, disk.get? (plain (steps path ++ [name])) = some entry := by
  simp only [names_eq, List.mem_filter, List.mem_filterMap, List.mem_map, afterStart?_eq_some,
    SortedMap.get?_eq_some_iff, plain_concat]
  constructor
  · rintro ⟨⟨place, ⟨⟨_, entry⟩, member, rfl⟩, rfl⟩, noSlash⟩
    exact ⟨by simpa using noSlash, entry, member⟩
  · rintro ⟨noSlash, entry, member⟩
    exact ⟨⟨_, ⟨_, member, rfl⟩, rfl⟩, by simpa using noSlash⟩

theorem nodup_names (disk : Disk) (path : String) : (disk.names path).Nodup := by
  rw [names_eq]
  have distinct : (disk.entries.map Prod.fst).Nodup :=
    List.pairwise_map.2 (disk.increasing.imp fun less => String.ne_of_lt less)
  refine List.Nodup.filter _ (List.Nodup.filterMap ?_ distinct)
  intro place other name isName otherIs
  rw [afterStart?_eq_some.1 isName, afterStart?_eq_some.1 otherIs]

end Disk

end DocStore
