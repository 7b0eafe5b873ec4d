import DocStore.Proofs.FilePatterns
import DocStore.Proofs.StorageCalls

/-!
# Storage in step with its calls

Every kind of storage that starts empty answers calls as the calls before them tell.  A
folder does so file by file: the file of a key has the text of what was saved last under
it, and there is no other JSON file in the folder.  Before the first save the folder may
be missing as a whole.  A name that the disk cannot hold is refused, and so is a path that
is not text when the folder is to be cleared.
-/

namespace DocStore

open StorageCall

namespace FolderStorage

variable {folder : FolderStorage} {history : List StorageCall} {key : String}
  {collections : Collections}

/-! ### Files of keys -/

theorem isStep_of_ending {name : String} (noSlash : '/' ∉ name.toList)
    (isJson : ending.toList <:+ name.toList) : Disk.IsStep name := by
  have long {other : String} (short : other.length < 5) : name ≠ other := by
    rintro rfl
    have length := isJson.length_le
    rw [String.length_toList, String.length_toList] at length
    exact absurd length (Nat.not_le.2 short)
  exact ⟨long (by decide), noSlash, long (by decide), long (by decide)⟩

theorem isStep_fileName (valid : isKey key = true) : Disk.IsStep (key ++ ending) := by
  simp only [isKey, Bool.and_eq_true, Bool.not_eq_true', List.contains_eq_mem,
    decide_eq_false_iff_not] at valid
  obtain ⟨⟨⟨-, noSlash⟩, -⟩, -⟩ := valid
  refine isStep_of_ending ?_ ?_
  · rw [String.toList_append, List.mem_append]
    exact not_or.2 ⟨noSlash, by decide⟩
  · rw [String.toList_append]
    exact List.suffix_append ..

theorem filePath_eq (valid : isKey key = true) (folder : FolderStorage) :
    folder.filePath key = .ok (Disk.join folder.path (key ++ ending)) :=
  if_pos valid

/-- The text of a key's file is read back as what was saved. -/
theorem readJson?_fileText (exchangeable : collections.Exchangeable) :
    Collections.readJson? (fileText collections) = some collections := by
  have tree : Json.readTree? (fileText collections) = some collections.toJson :=
    Json.readTree?_pretty_line (Collections.numbersIn_toJson exchangeable)
      ((Collections.nesting_toJson exchangeable).trans (by decide))
  have unchanged := Json.mergedFields_eq_self fun name value member =>
    Json.merged_eq_self (Collections.distinctNames_toJson exchangeable name value member)
  rw [Collections.readJson?, tree, Collections.toJson, Option.bind_eq_bind, Option.bind_some]
  simp only [unchanged]
  exact Collections.ofJson?_toJson collections

/-- Where the entry of a name in the folder is kept. -/
def place (folder : FolderStorage) (name : String) : String :=
  Disk.plain (Disk.steps folder.path ++ [name])

/-- Whether a name is that of a JSON file. -/
def IsJsonName (name : String) : Prop :=
  ending.toList.isSuffixOf name.toList = true

/-- A folder that is there and has the files that a history tells, and no other JSON
file. -/
structure Keeps (folder : FolderStorage) (history : List StorageCall) : Prop where
  isFolder : folder.disk.find folder.path = .ok .folder
  files : ∀ key, isKey key = true → folder.disk.get? (folder.place (key ++ ending)) =
    (lastSaved key history).map fun collections => .text (fileText collections)
  only : ∀ name ∈ folder.disk.names folder.path, IsJsonName name →
    ∃ key, isKey key = true ∧ name = key ++ ending
  saved : ∀ key collections, isKey key = true → lastSaved key history = some collections →
    collections.Exchangeable ∧ Disk.nameProblem? (key ++ ending) = none

/-- A folder that can be made, and without JSON files in it if it is there. -/
structure IsEmpty (folder : FolderStorage) : Prop where
  makeable : ∃ made, folder.disk.makeFolders folder.path = .ok made
  noFile : ∀ name ∈ folder.disk.names folder.path, ¬ IsJsonName name

/-- A folder that is not there, when nothing is saved. -/
structure IsMissing (folder : FolderStorage) (history : List StorageCall) : Prop
    extends folder.IsEmpty where
  missing : folder.disk.find folder.path = .error .notFound
  nothing : ∀ key, lastSaved key history = none

/-- Whether a folder holds what a history tells. -/
def Holds (folder : FolderStorage) (history : List StorageCall) : Prop :=
  folder.Keeps history ∨ folder.IsMissing history

theorem isJsonName_append (key : String) : IsJsonName (key ++ ending) := by
  rw [IsJsonName, List.isSuffixOf_iff_suffix, String.toList_append]
  exact List.suffix_append ..

theorem mem_names_iff {name : String} :
    name ∈ folder.disk.names folder.path ↔
      '/' ∉ name.toList ∧ ∃ entry, folder.disk.get? (folder.place name) = some entry :=
  Disk.mem_names

/-- A folder that is there and empty keeps what a history without saves tells. -/
theorem keeps_of_noFile (isFolder : folder.disk.find folder.path = .ok .folder)
    (noFile : ∀ name ∈ folder.disk.names folder.path, ¬ IsJsonName name)
    (nothing : ∀ key, lastSaved key history = none) : folder.Keeps history := by
  refine ⟨isFolder, fun key valid => ?_, fun name among isJson => ?_,
    fun key collections _ found => ?_⟩
  · rw [nothing, Option.map_none]
    refine Option.eq_none_iff_forall_ne_some.2 fun entry found => ?_
    have isStep := isStep_fileName valid
    exact noFile _ (mem_names_iff.2 ⟨isStep.noSlash, entry, found⟩) (isJsonName_append key)
  · exact absurd isJson (noFile name among)
  · cases (nothing key).symm.trans found

namespace Holds

theorem congr (held : folder.Holds history) {other : List StorageCall}
    (same : ∀ key, lastSaved key other = lastSaved key history) : folder.Holds other := by
  obtain keeps | missing := held
  · exact .inl ⟨keeps.isFolder, by simpa only [same] using keeps.files, keeps.only,
      by simpa only [same] using keeps.saved⟩
  · exact .inr ⟨missing.toIsEmpty, missing.missing, by simpa only [same] using missing.nothing⟩

theorem find_of_saved (held : folder.Holds history) (valid : isKey key = true)
    (saved : lastSaved key history = some collections) :
    folder.disk.find (Disk.join folder.path (key ++ ending)) =
      .ok (.text (fileText collections)) := by
  obtain keeps | missing := held
  · obtain ⟨-, fits⟩ := keeps.saved key collections valid saved
    have file := keeps.files key valid
    rw [place] at file
    rw [Disk.find_join (isStep_fileName valid), keeps.isFolder]
    simp only [Disk.child_of_fits fits, file, saved, Option.map_some]
  · cases (missing.nothing key).symm.trans saved

theorem holds_of_not_saved (held : folder.Holds history) (valid : isKey key = true)
    (unsaved : lastSaved key history = none) :
    folder.disk.holds (Disk.join folder.path (key ++ ending)) = false := by
  rw [Disk.holds, Disk.find_join (isStep_fileName valid)]
  obtain keeps | missing := held
  · have file := keeps.files key valid
    rw [place, unsaved, Option.map_none] at file
    rw [keeps.isFolder]
    cases problem : Disk.nameProblem? (key ++ ending) with
    | none => simp only [Disk.child_of_fits problem, file]; rfl
    | some problem => simp only [Disk.child, problem]; rfl
  · rw [missing.missing]
    rfl

theorem has_eq (held : folder.Holds history) (valid : isKey key = true) :
    Adapter.has folder key = .ok (lastSaved key history).isSome := by
  have opened : Adapter.has folder key =
      (do return folder.disk.holds (← folder.filePath key)) := rfl
  rw [opened, filePath_eq valid]
  refine congrArg Except.ok ?_
  cases saved : lastSaved key history with
  | none => exact held.holds_of_not_saved valid saved
  | some collections =>
      rw [Disk.holds, held.find_of_saved valid saved]
      rfl

theorem load_eq (held : folder.Holds history) (valid : isKey key = true) :
    folder.load key = .ok (lastSaved key history) := by
  simp only [FolderStorage.load, filePath_eq valid, bind, Except.bind]
  cases saved : lastSaved key history with
  | none =>
      rw [held.holds_of_not_saved valid saved]
      rfl
  | some collections =>
      have found := held.find_of_saved valid saved
      have exchangeable : collections.Exchangeable := by
        obtain keeps | missing := held
        · exact (keeps.saved key collections valid saved).1
        · cases (missing.nothing key).symm.trans saved
      simp only [Disk.holds, Disk.read, found, bind, Except.bind, Except.mapError, pure,
        Except.pure, readJson?_fileText exchangeable]
      rfl

end Holds

/-! ### Changes of a folder -/

theorem place_inj {name other : String} :
    folder.place name = folder.place other ↔ name = other :=
  Disk.plain_concat_inj

theorem fileName_inj {other : String} : key ++ ending = other ++ ending ↔ key = other := by
  rw [← String.toList_inj, String.toList_append, String.toList_append,
    List.append_cancel_right_eq, String.toList_inj]

/-- A call about one key brings the folder in step if it brings the key's file in step
and leaves the rest of the disk alone. -/
theorem Keeps.change (keeps : folder.Keeps history) {call : StorageCall} {changed : Disk}
    (others : ∀ other ≠ key, lastSaved other (call :: history) = lastSaved other history)
    (frame : ∀ place, place ≠ folder.place (key ++ ending) →
      changed.get? place = folder.disk.get? place)
    (file : changed.get? (folder.place (key ++ ending)) =
      (lastSaved key (call :: history)).map fun collections => .text (fileText collections))
    (valid : isKey key = true)
    (saved : ∀ collections, lastSaved key (call :: history) = some collections →
      collections.Exchangeable ∧ Disk.nameProblem? (key ++ ending) = none) :
    Keeps { folder with disk := changed } (call :: history) := by
  refine ⟨?_, fun other otherValid => ?_, fun name among isJson => ?_,
    fun other collections otherValid found => ?_⟩
  · refine Eq.trans ?_ keeps.isFolder
    exact Disk.follow_of_frame fun place differs => frame place (differs _)
  · by_cases same : other = key
    · exact same ▸ file
    · rw [others other same, ← keeps.files other otherValid]
      exact frame _ fun samePlace => same (fileName_inj.1 (place_inj.1 samePlace))
  · by_cases same : name = key ++ ending
    · exact ⟨key, valid, same⟩
    · obtain ⟨noSlash, entry, found⟩ := mem_names_iff.1 among
      have before := (frame _ fun samePlace => same (place_inj.1 samePlace)).symm.trans found
      exact keeps.only name (mem_names_iff.2 ⟨noSlash, entry, before⟩) isJson
  · by_cases same : other = key
    · subst same
      exact saved collections found
    · rw [others other same] at found
      exact keeps.saved other collections otherValid found

/-- Saving makes the folder if it is not there. -/
theorem Holds.ready (held : folder.Holds history) :
    ∃ made, folder.disk.makeFolders folder.path = .ok made ∧
      Keeps { folder with disk := made } history := by
  obtain keeps | missing := held
  · exact ⟨folder.disk, Disk.makeFoldersFrom_of_folder keeps.isFolder, keeps⟩
  · obtain ⟨made, isMade⟩ := missing.makeable
    obtain ⟨isFolder, frame⟩ := Disk.makeFoldersFrom_ok isMade
    -- Only folders above the files come into being, so there is still no file.
    refine ⟨made, isMade, keeps_of_noFile isFolder (fun name among => ?_) missing.nothing⟩
    obtain ⟨noSlash, entry, found⟩ := mem_names_iff.1 among
    have before : folder.disk.get? (folder.place name) = some entry := by
      refine (frame _ fun front back joined nonempty => ?_).symm.trans found
      rw [place, joined, List.nil_append, List.append_assoc]
      exact (Disk.plain_ne_of_append nonempty (by simp)).symm
    exact missing.noFile name (mem_names_iff.2 ⟨noSlash, entry, before⟩)

theorem Holds.save (held : folder.Holds history) (valid : isKey key = true)
    (exchangeable : collections.Exchangeable) (fits : Disk.nameProblem? (key ++ ending) = none) :
    ∃ disk, folder.save key collections = .ok { folder with disk } ∧
      Holds { folder with disk } (.save key collections :: history) := by
  obtain ⟨made, isMade, keeps⟩ := held.ready
  have notFolder : made.get? (folder.place (key ++ ending)) ≠ some .folder := by
    intro isFolder
    obtain ⟨_, -, other⟩ := Option.map_eq_some_iff.1 ((keeps.files key valid).symm.trans isFolder)
    cases other
  have written : made.write (Disk.join folder.path (key ++ ending)) (fileText collections) =
      .ok (made.insert (folder.place (key ++ ending)) (.text (fileText collections))) :=
    Disk.place_join (isStep_fileName valid) keeps.isFolder fits notFolder
  refine ⟨made.insert (folder.place (key ++ ending)) (.text (fileText collections)), ?_,
    .inl (keeps.change ?_ ?_ ?_ valid ?_)⟩
  · simp only [FolderStorage.save, filePath_eq valid, isMade, written, bind, Except.bind,
      Except.mapError]
    rfl
  · exact fun other differs => if_neg (Ne.symm differs)
  · exact fun place differs => (SortedMap.get?_insert ..).trans (if_neg (Ne.symm differs))
  · rw [lastSaved, if_pos rfl]
    exact (SortedMap.get?_insert ..).trans (if_pos rfl)
  · intro found isFound
    rw [lastSaved, if_pos rfl, Option.some.injEq] at isFound
    exact ⟨isFound ▸ exchangeable, fits⟩

theorem removeFile_ok {path : String} {disk : Disk} (removed : folder.disk.remove path = .ok disk) :
    removeFile path folder = .ok { folder with disk } := by
  rw [removeFile, removed]
  rfl

theorem Holds.remove (held : folder.Holds history) (valid : isKey key = true) :
    ∃ disk, folder.remove key = .ok { folder with disk } ∧
      Holds { folder with disk } (.remove key :: history) := by
  cases saved : lastSaved key history with
  | none =>
      have notHeld := held.holds_of_not_saved valid saved
      refine ⟨folder.disk, ?_, ?_⟩
      · simp only [FolderStorage.remove, filePath_eq valid, bind, Except.bind, notHeld]
        rfl
      · have same (other : String) :
            lastSaved other (.remove key :: history) = lastSaved other history := by
          rw [lastSaved]
          split_ifs with isKey
          · rw [← isKey, saved]
          · rfl
        exact held.congr same
  | some collections =>
      have found := held.find_of_saved valid saved
      have isHeld : folder.disk.holds (Disk.join folder.path (key ++ ending)) = true := by
        rw [Disk.holds, found]
        rfl
      have removed : folder.disk.remove (Disk.join folder.path (key ++ ending)) =
          .ok (folder.disk.erase (folder.place (key ++ ending))) := by
        rw [place, ← Disk.steps_join (isStep_fileName valid)]
        exact Disk.remove_of_find found (by simp)
      obtain keeps | missing := held
      · refine ⟨folder.disk.erase (folder.place (key ++ ending)), ?_,
          .inl (keeps.change ?_ ?_ ?_ valid ?_)⟩
        · simp only [FolderStorage.remove, filePath_eq valid, bind, Except.bind, isHeld, if_true]
          exact removeFile_ok removed
        · exact fun other differs => if_neg (Ne.symm differs)
        · exact fun place differs => (SortedMap.get?_erase ..).trans (if_neg (Ne.symm differs))
        · rw [lastSaved, if_pos rfl]
          exact (SortedMap.get?_erase ..).trans (if_pos rfl)
        · intro found isFound
          rw [lastSaved, if_pos rfl] at isFound
          cases isFound
      · cases (missing.nothing key).symm.trans saved

/-- Files that are there can be removed one after the other, and nothing else is touched. -/
theorem removeAll_ok {names : List String}
    (isFolder : folder.disk.find folder.path = .ok .folder) (distinct : names.Nodup)
    (files : ∀ name ∈ names, Disk.IsStep name ∧ Disk.nameProblem? name = none ∧
      ∃ content, folder.disk.get? (folder.place name) = some (.text content)) :
    ∃ disk : Disk,
      (removeAll (names.map (Disk.join folder.path))).outcome folder =
        (.ok (), { folder with disk }) ∧
      (∀ name ∈ names, disk.get? (folder.place name) = none) ∧
      ∀ place, (∀ name ∈ names, place ≠ folder.place name) →
        disk.get? place = folder.disk.get? place := by
  induction names generalizing folder with
  | nil => exact ⟨folder.disk, rfl, by simp, fun _ _ => rfl⟩
  | cons name rest ih =>
      obtain ⟨fresh, restDistinct⟩ := List.nodup_cons.1 distinct
      obtain ⟨⟨isStep, fits, content, held⟩, restFiles⟩ := List.forall_mem_cons.1 files
      have found : folder.disk.find (Disk.join folder.path name) = .ok (.text content) := by
        rw [place] at held
        rw [Disk.find_join isStep, isFolder]
        simp only [Disk.child_of_fits fits, held]
      have removed : folder.disk.remove (Disk.join folder.path name) =
          .ok (folder.disk.erase (folder.place name)) := by
        rw [place, ← Disk.steps_join isStep]
        exact Disk.remove_of_find found (by simp)
      -- The folder without the first file still has the others, whose names differ.
      let next : FolderStorage := { folder with disk := folder.disk.erase (folder.place name) }
      have stays {place : String} (differs : place ≠ folder.place name) :
          next.disk.get? place = folder.disk.get? place :=
        (SortedMap.get?_erase ..).trans (if_neg (Ne.symm differs))
      have nextFolder : next.disk.find next.path = .ok .folder :=
        (Disk.follow_of_frame fun place differs => stays (differs name)).trans isFolder
      have nextFiles : ∀ other ∈ rest, Disk.IsStep other ∧ Disk.nameProblem? other = none ∧
          ∃ content, next.disk.get? (next.place other) = some (.text content) := by
        intro other among
        obtain ⟨isStep, fits, content, held⟩ := restFiles other among
        refine ⟨isStep, fits, content, (stays fun same => fresh ?_).trans held⟩
        exact place_inj.1 same ▸ among
      obtain ⟨disk, ran, gone, frame⟩ := ih nextFolder restDistinct nextFiles
      refine ⟨disk, ?_, ?_, fun place differs => ?_⟩
      · rw [List.map_cons, removeAll, Attempt.bind_outcome,
          Attempt.step_outcome (removeFile_ok removed)]
        exact ran
      · refine List.forall_mem_cons.2 ⟨?_, gone⟩
        refine (frame _ fun other among same => fresh ?_).trans ?_
        · exact place_inj.1 same ▸ among
        · exact (SortedMap.get?_erase ..).trans (if_pos rfl)
      · obtain ⟨notFirst, notRest⟩ := List.forall_mem_cons.1 differs
        exact (frame place notRest).trans (stays notFirst)

theorem jsonNames_of_folder (isFolder : folder.disk.find folder.path = .ok .folder) :
    jsonNames folder.disk folder.path = (folder.disk.names folder.path).filter fun name =>
      ending.toList.isSuffixOf name.toList :=
  if_pos (Disk.isFolder_iff.2 isFolder)

/-- Every JSON file of a folder that keeps a history can be removed. -/
theorem Keeps.files_of_jsonNames (keeps : folder.Keeps history) {name : String}
    (among : name ∈ jsonNames folder.disk folder.path) :
    Disk.IsStep name ∧ Disk.nameProblem? name = none ∧
      ∃ content, folder.disk.get? (folder.place name) = some (.text content) := by
  rw [jsonNames_of_folder keeps.isFolder] at among
  obtain ⟨isName, isJson⟩ := List.mem_filter.1 among
  obtain ⟨key, valid, rfl⟩ := keeps.only name isName isJson
  obtain ⟨-, entry, found⟩ := mem_names_iff.1 isName
  obtain ⟨collections, saved, rfl⟩ :=
    Option.map_eq_some_iff.1 ((keeps.files key valid).symm.trans found)
  exact ⟨isStep_fileName valid, (keeps.saved key collections valid saved).2, _, found⟩

/-- Whether clearing is about the folder itself: its path is text and not empty. -/
structure IsClearable (folder : FolderStorage) : Prop where
  isText : folder.isText = true
  nonempty : folder.path ≠ ""

/-- Clearing removes the files that it finds, if it can look for them. -/
theorem outcome_clear (folder : FolderStorage) :
    (Adapter.clear : Attempt FolderStorage Unit).outcome folder =
      match folder.files with
      | .ok paths => (removeAll paths).outcome folder
      | .error failure => (.error failure, folder) := by
  have opened : (Adapter.clear : Attempt FolderStorage Unit).outcome folder =
      (Attempt.ofResult folder.files >>= removeAll).outcome folder := rfl
  rw [opened, Attempt.bind_outcome]
  cases folder.files <;> rfl

theorem IsClearable.files_eq (clearable : folder.IsClearable) :
    folder.files = .ok ((jsonNames folder.disk folder.path).map (Disk.join folder.path)) := by
  have found := FolderStorage.files_eq clearable.isText
  rwa [clearedPath, if_neg clearable.nonempty] at found

theorem Holds.clear (held : folder.Holds history) (clearable : folder.IsClearable) :
    ∃ disk, (Adapter.clear : Attempt FolderStorage Unit).outcome folder =
        (.ok (), { folder with disk }) ∧
      Holds { folder with disk } (.clear :: history) := by
  rw [outcome_clear, clearable.files_eq]
  obtain keeps | missing := held
  · have isName {name : String} : name ∈ jsonNames folder.disk folder.path ↔
        name ∈ folder.disk.names folder.path ∧ IsJsonName name := by
      rw [jsonNames_of_folder keeps.isFolder]
      exact List.mem_filter
    have distinct : (jsonNames folder.disk folder.path).Nodup := by
      rw [jsonNames_of_folder keeps.isFolder]
      exact (Disk.nodup_names ..).filter _
    obtain ⟨disk, ran, gone, frame⟩ :=
      removeAll_ok keeps.isFolder distinct fun name => keeps.files_of_jsonNames
    refine ⟨disk, ran, .inl (keeps_of_noFile ?_ (fun name among isJson => ?_) fun _ => rfl)⟩
    · refine (Disk.follow_of_frame fun place differs => ?_).trans keeps.isFolder
      exact frame place fun name _ => differs name
    · obtain ⟨noSlash, entry, found⟩ := mem_names_iff.1 among
      by_cases removed : name ∈ jsonNames folder.disk folder.path
      · cases (gone name removed).symm.trans found
      · have untouched (other : String)
            (isOther : other ∈ jsonNames folder.disk folder.path) :
            folder.place name ≠ folder.place other := by
          intro same
          obtain rfl : name = other := place_inj.1 same
          exact removed isOther
        have before := (frame _ untouched).symm.trans found
        exact removed (isName.2 ⟨mem_names_iff.2 ⟨noSlash, entry, before⟩, isJson⟩)
  · have noNames : jsonNames folder.disk folder.path = [] := by
      rw [jsonNames, if_neg]
      rw [Disk.isFolder_iff, missing.missing]
      simp
    rw [noNames]
    exact ⟨folder.disk, rfl, .inr ⟨missing.toIsEmpty, missing.missing, fun _ => rfl⟩⟩

/-- Whatever comes of it, removing files leaves the places alone that none of them is at. -/
theorem removeAll_frame (folder : FolderStorage) {paths : List String} {place : String}
    (elsewhere : ∀ path ∈ paths, place ≠ Disk.plain (Disk.steps path)) :
    ((removeAll paths).outcome folder).2.path = folder.path ∧
      ((removeAll paths).outcome folder).2.disk.get? place = folder.disk.get? place := by
  induction paths generalizing folder with
  | nil => exact ⟨rfl, rfl⟩
  | cons path rest ih =>
      obtain ⟨notHere, notRest⟩ := List.forall_mem_cons.1 elsewhere
      rw [removeAll, Attempt.bind_outcome]
      cases found : folder.disk.remove path with
      | error problem =>
          have failed : (Attempt.step (removeFile path)).outcome folder =
              (.error (.file problem), folder) := by
            simp only [Attempt.outcome, Attempt.step, removeFile, found, Except.mapError, bind,
              Except.bind]
          rw [failed]
          exact ⟨rfl, rfl⟩
      | ok disk =>
          rw [Attempt.step_outcome (removeFile_ok found)]
          obtain ⟨samePath, stays⟩ := ih { folder with disk } notRest
          refine ⟨samePath, stays.trans ?_⟩
          rw [Disk.remove_ok found]
          exact (SortedMap.get?_erase ..).trans (if_neg (Ne.symm notHere))

/-- In the folder of the empty path, the file of a key stands where no JSON file of the
folder `/` does. -/
theorem plain_fileName_ne (valid : isKey key = true) {path : String}
    (among : path ∈ (jsonNames folder.disk "/").map (Disk.join "/")) :
    Disk.plain [key ++ ending] ≠ Disk.plain (Disk.steps path) := by
  obtain ⟨name, isName, rfl⟩ := List.mem_map.1 among
  rw [jsonNames] at isName
  split_ifs at isName
  · obtain ⟨listed, isJson⟩ := List.mem_filter.1 isName
    have isStep :=
      isStep_of_ending (Disk.mem_names.1 listed).1 (List.isSuffixOf_iff_suffix.1 isJson)
    have root : Disk.steps "/" = ["/"] := by decide
    rw [Disk.steps_join isStep, root]
    intro same
    have slash : '/' ∈ (Disk.plain [key ++ ending]).toList := by
      rw [same]
      simp [Disk.plain]
    exact (isStep_fileName valid).noSlash (by simpa [Disk.plain] using slash)
  · cases isName

theorem has_of_emptyPath (empty : folder.path = "") (valid : isKey key = true) :
    Adapter.has folder key = .ok (folder.disk.child [] (key ++ ending)).isOk := by
  have opened : Adapter.has folder key =
      (do return folder.disk.holds (← folder.filePath key)) := rfl
  have top : Disk.steps "" = [] := by decide
  rw [opened, filePath_eq valid, empty]
  simp only [bind, Except.bind, pure, Except.pure, Disk.holds, Disk.find,
    Disk.steps_join (isStep_fileName valid), top, List.nil_append, Disk.follow_singleton]

/-- The folder of the empty path is not cleared: its pattern is that of the folder `/`, and
every key that was there before is there afterwards. -/
theorem has_clear_of_emptyPath (empty : folder.path = "") (isText : folder.isText = true)
    (valid : isKey key = true) :
    Adapter.has ((Adapter.clear : Attempt FolderStorage Unit).outcome folder).2 key =
      Adapter.has folder key := by
  have found := files_eq isText
  rw [clearedPath, if_pos empty] at found
  obtain ⟨samePath, stays⟩ := removeAll_frame folder fun _ => plain_fileName_ne valid
  rw [outcome_clear, found, has_of_emptyPath empty valid,
    has_of_emptyPath (samePath.trans empty) valid]
  simp only [Disk.child, List.nil_append, stays]

end FolderStorage

/-- A book, and a collection without records. -/
def shelf : Collections where
  entries := [("books", [[("title", .string "a\n"), ("id", .number (.int ⟨1, by decide⟩))]]),
    ("films", [])]
  increasing := by decide

end DocStore
