import DocStore.Storage.Folder
import DocStore.Proofs.DiskPlaces

/-!
# Files found by patterns

A text whose special characters stand in brackets spells itself and matches nothing else,
so the pattern that a folder is cleared by finds the JSON files directly in the folder,
whatever characters its path has.  The empty path is the exception: its pattern is that of
the folder `/`.
-/

namespace DocStore

namespace FilePattern

variable {c : Char} {text name suffix : List Char}

theorem tokens_char (plain : c ∉ special) (rest : List Char) :
    tokens (c :: rest) = .char c :: tokens rest := by
  have differs {d : Char} (isSpecial : d ∈ special) : c ≠ d := fun same => plain (same ▸ isSpecial)
  rw [tokens]
  · exact fun _ _ isOpen _ => differs (by decide) isOpen
  · exact differs (by decide)
  · exact differs (by decide)

/-- An escaped text is read as its own characters. -/
theorem tokens_escape (text : List Char) : tokens (escape text) = text.map .char := by
  induction text with
  | nil => rfl
  | cons c rest ih =>
      rw [escape, List.flatMap_cons, List.map_cons, ← ih]
      split_ifs with isSpecial
      · rfl
      · exact tokens_char (by simpa using isSpecial) _

theorem spelled?_chars (text : List Char) : spelled? (text.map .char) = some text := by
  induction text with
  | nil => rfl
  | cons c rest ih => rw [List.map_cons, spelled?, ih, Option.map_some]

theorem fits_chars : fits (text.map .char) name = true ↔ name = text := by
  induction text generalizing name with
  | nil => simp [fits]
  | cons c rest ih =>
      cases name with
      | nil => simp [fits]
      | cons d name => simp [fits, ih]

/-- A star before a text leaves the names that end in it. -/
theorem fits_many : fits (.many :: suffix.map .char) name = true ↔ suffix <:+ name := by
  simp only [fits, List.any_eq_true, List.mem_range, fits_chars]
  constructor
  · rintro ⟨k, -, ends⟩
    exact ends ▸ List.drop_suffix k name
  · rintro ⟨before, rfl⟩
    exact ⟨before.length, by simp, List.drop_left⟩

end FilePattern

namespace FolderStorage

open FilePattern

/-- The names of the JSON files directly in a folder of a disk. -/
def jsonNames (disk : Disk) (path : String) : List String :=
  if disk.isFolder path then
    (disk.names path).filter fun name => ending.toList.isSuffixOf name.toList
  else []

/-- The folder that is cleared in the place of the one with a path. -/
def clearedPath (path : String) : String :=
  if path = "" then "/" else path

theorem parts?_pattern (folder : FolderStorage) :
    parts? folder.pattern = some (clearedPath folder.path, .many :: ending.toList.map .char) := by
  have cut : splitAtLast? '/' folder.pattern.toList =
      some (escape folder.path.toList, '*' :: ending.toList) := by
    have chars : folder.pattern.toList =
        escape folder.path.toList ++ '/' :: '*' :: ending.toList := by
      simp [pattern]
    rw [chars, splitAtLast?_append (by decide)]
  have last : tokens ('*' :: ending.toList) = .many :: ending.toList.map .char := by decide
  rw [parts?, cut]
  simp only [tokens_escape, spelled?_chars, last, Option.map_some, String.ofList_toList,
    clearedPath, List.isEmpty_iff, String.toList_eq_nil_iff]

/-- Clearing finds the JSON files in the folder, or in the folder `/` for the empty path. -/
theorem files_eq {folder : FolderStorage} (isText : folder.isText = true) :
    folder.files = .ok ((jsonNames folder.disk (clearedPath folder.path)).map
      (Disk.join (clearedPath folder.path))) := by
  have fitting (name : String) : fits (.many :: ending.toList.map .char) name.toList =
      ending.toList.isSuffixOf name.toList := by
    rw [Bool.eq_iff_iff, fits_many, List.isSuffixOf_iff_suffix]
  rw [files, if_pos isText, Disk.matching, parts?_pattern]
  simp only [fitting, jsonNames]
  split_ifs <;> rfl

end FolderStorage

end DocStore
