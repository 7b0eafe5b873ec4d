import DocStore.Interchange.Rows
import Mathlib.Data.List.Basic

/-!
# Rows come back from their lines

The reader passes through a written cell and stands where only a comma or a line break
can end it.  A row without cells has the line of a row with one empty cell, and is read
back as that one; every other row is read back as it was.
-/

namespace DocStore.Rows

variable {position : Position} {row : List Cell} {cell rest : List Char}

/-! ### One cell -/

theorem move_of_plain {c : Char} (plain : forcesQuotes c = false)
    (unquoted : position = .row ∨ position = .cell ∨ position = .plain) :
    move position c = .keep .plain := by
  simp only [forcesQuotes, Bool.or_eq_false_iff, beq_eq_false_iff_ne] at plain
  rcases unquoted with rfl | rfl | rfl <;> simp [move, moveOutside, plain]

theorem readFrom_plain {cs : List Char} (plain : ∀ c ∈ cs, forcesQuotes c = false) :
    readFrom .plain row cell (cs ++ rest) = readFrom .plain row (cs.reverse ++ cell) rest := by
  induction cs generalizing cell with
  | nil => rfl
  | cons c more ih =>
      have moved := move_of_plain (plain c List.mem_cons_self) (.inr (.inr rfl))
      rw [List.cons_append, readFrom, moved]
      simpa using @ih (c :: cell) fun d member => plain d (List.mem_cons_of_mem _ member)

theorem readFrom_quoted (cs : List Char) :
    readFrom .quoted row cell
        ((cs.flatMap fun c => if c = '"' then ['"', '"'] else [c]) ++ '"' :: rest) =
      readFrom .quote row (cs.reverse ++ cell) rest := by
  induction cs generalizing cell with
  | nil => rfl
  | cons c more ih =>
      by_cases isQuote : c = '"'
      · subst isQuote
        simpa [readFrom, move] using @ih ('"' :: cell)
      · simpa [readFrom, move, isQuote] using @ih (c :: cell)

/-- Behind a written cell a comma ends it.  So does a line break, unless nothing of the
row has been written. -/
theorem exists_behind_writeCell (start : position = .row ∨ position = .cell)
    (row : List Cell) (cell : Cell) :
    ∃ behind, move behind ',' = .endCell ∧
      ((position = .row → writeCell cell ≠ []) → move behind '\n' = .endRow) ∧
      ∀ rest, readFrom position row [] (writeCell cell ++ rest) =
        readFrom behind row cell.reverse rest := by
  by_cases quoted : cell.any forcesQuotes
  · have opened : move position '"' = .skip .quoted := by
      rcases start with rfl | rfl <;> rfl
    refine ⟨.quote, rfl, fun _ => rfl, fun rest => ?_⟩
    simpa [writeCell, quoted, readFrom, opened] using @readFrom_quoted row [] rest cell
  · have same : writeCell cell = cell := if_neg quoted
    have plain : ∀ c ∈ cell, forcesQuotes c = false := by
      simpa using quoted
    cases cell with
    | nil =>
        rcases start with rfl | rfl
        · exact ⟨.row, rfl, fun written => absurd same (written rfl), fun _ => rfl⟩
        · exact ⟨.cell, rfl, fun _ => rfl, fun _ => rfl⟩
    | cons c more =>
        refine ⟨.plain, rfl, fun _ => rfl, fun rest => ?_⟩
        have moved := move_of_plain (plain c List.mem_cons_self)
          (start.imp id .inl : position = .row ∨ position = .cell ∨ position = .plain)
        rw [same, List.cons_append, readFrom, moved]
        simpa using @readFrom_plain row [c] rest more fun d member =>
          plain d (List.mem_cons_of_mem _ member)

/-! ### Rows -/

/-- The cells of a row in one line, separated by commas. -/
def line (row : List Cell) : List Char :=
  ((row.map writeCell).intersperse [',']).flatten

theorem line_cons_cons (cell next : Cell) (more : List Cell) :
    line (cell :: next :: more) = writeCell cell ++ ',' :: line (next :: more) := by
  simp [line, List.intersperse_cons_cons]

theorem readFrom_line (start : position = .row ∨ position = .cell) (done : List Cell)
    (cell : Cell) (cells : List Cell)
    (written : position = .row → line (cell :: cells) ≠ []) :
    readFrom position done [] (line (cell :: cells) ++ '\n' :: rest) =
      (done.reverse ++ cell :: cells) :: readFrom .row [] [] rest := by
  induction cells generalizing position done cell with
  | nil =>
      obtain ⟨behind, -, ends, passes⟩ := exists_behind_writeCell start done cell
      have single : line [cell] = writeCell cell := by simp [line]
      rw [single] at written ⊢
      rw [passes, readFrom, ends written]
      simp
  | cons next more ih =>
      obtain ⟨behind, ends, -, passes⟩ := exists_behind_writeCell start done cell
      have others := ih (.inr rfl) (cell :: done) next (by simp)
      rw [line_cons_cons, List.append_assoc, passes, List.cons_append, readFrom, ends]
      simpa using others

/-- The row that is read back: one without cells comes back with an empty one. -/
def completed (row : List Cell) : List Cell :=
  if row.isEmpty then [[]] else row

theorem completed_of_line_eq_nil {row : List Cell} (blank : line row = []) :
    completed row = [[]] := by
  match row with
  | [] => rfl
  | [cell] =>
      have unwritten : writeCell cell = [] := by simpa [line] using blank
      have same : writeCell cell = cell := by
        by_cases quoted : cell.any forcesQuotes <;> simp_all [writeCell]
      rw [← same, unwritten]
      rfl
  | cell :: next :: more => simp [line_cons_cons] at blank

theorem readFrom_writeRow (row : List Cell) (rest : List Char) :
    readFrom .row [] [] (writeRow row ++ rest) =
      completed row :: readFrom .row [] [] rest := by
  by_cases blank : line row = []
  · rw [completed_of_line_eq_nil blank, writeRow, ← line, blank]
    rfl
  · have written : writeRow row = line row ++ ['\n'] := by
      rw [writeRow, ← line]
      split
      · exact absurd ‹_› blank
      · rfl
    cases row with
    | nil => exact absurd rfl blank
    | cons cell cells =>
        rw [written, List.append_assoc, List.singleton_append,
          readFrom_line (.inl rfl) [] cell cells fun _ => blank]
        rfl

theorem readFrom_write (rows : List (List Cell)) :
    readFrom .row [] [] (write rows) = rows.map completed := by
  induction rows with
  | nil => rfl
  | cons row rest ih =>
      rw [write, List.flatMap_cons, readFrom_writeRow, ← write, ih, List.map_cons]

theorem head?_writeRow (c : Char) (more : List Char) :
    (writeRow [c :: more]).head? = some c ∨ (writeRow [c :: more]).head? = some '"' := by
  by_cases quoted : (c :: more).any forcesQuotes
  · right
    simp [writeRow, writeCell, quoted]
  · left
    simp [writeRow, writeCell, quoted]

/-- Without a byte order mark in front, every row is read back. -/
theorem read_write {rows : List (List Cell)} (unmarked : (write rows).head? ≠ some '\uFEFF') :
    read (write rows) = rows.map completed := by
  unfold read
  split
  · rename_i opened
    exact absurd (by rw [opened]; rfl) unmarked
  · exact readFrom_write rows

end DocStore.Rows
