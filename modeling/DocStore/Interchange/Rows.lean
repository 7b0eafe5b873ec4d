/-!
# Comma-separated rows

Rows of cells as text, a line for each row.  A cell with a comma, a quote or a line
break is written in quotes, a quote inside it twice.  The reader takes any line
break, skips empty lines, and never fails: a quote counts only at the start of a
cell, and an open one lasts to the end of the text.
-/

namespace DocStore.Rows

abbrev Cell := List Char

def isLineBreak (c : Char) : Bool :=
  c == '\n' || c == '\r'

/-- Whether a cell with this character must be quoted. -/
def forcesQuotes (c : Char) : Bool :=
  c == ',' || c == '"' || isLineBreak c

def writeCell (cell : Cell) : List Char :=
  if cell.any forcesQuotes then
    '"' :: (cell.flatMap fun c => if c = '"' then ['"', '"'] else [c]) ++ ['"']
  else cell

/-- A row as a line.  A line that would have no character holds an empty cell in
quotes, so that it is not skipped. -/
def writeRow (row : List Cell) : List Char :=
  match (row.map writeCell).intersperse [','] |>.flatten with
  | [] => ['"', '"', '\n']
  | line => line ++ ['\n']

def write (rows : List (List Cell)) : List Char :=
  rows.flatMap writeRow

inductive Position where
  /-- Before the first cell of a row. -/
  | row
  | cell
  /-- In a cell without quotes, or behind the closing quote. -/
  | plain
  | quoted
  /-- Behind a quote inside quotes, which may be the closing one. -/
  | quote
  deriving DecidableEq

inductive Move where
  | keep (next : Position)
  | skip (next : Position)
  | endCell
  | endRow

/-- What a character does that ends a cell, or belongs to it. -/
def moveOutside (c : Char) : Move :=
  if c = ',' then .endCell else if isLineBreak c then .endRow else .keep .plain

/-- What a character does where the reader stands. -/
def move (position : Position) (c : Char) : Move :=
  match position with
  | .row =>
    if isLineBreak c then .skip .row else if c = '"' then .skip .quoted else moveOutside c
  | .cell => if c = '"' then .skip .quoted else moveOutside c
  | .plain => moveOutside c
  | .quoted => if c = '"' then .skip .quote else .keep .quoted
  | .quote => if c = '"' then .keep .quoted else moveOutside c

/-- Reads rows; `row` and `cell` hold what has been read of the present ones, the
last read first. -/
def readFrom (position : Position) (row : List Cell) (cell : Cell) :
    List Char → List (List Cell)
  | [] => if position = .row then [] else [(cell.reverse :: row).reverse]
  | c :: rest =>
    match move position c with
    | .keep next => readFrom next row (c :: cell) rest
    | .skip next => readFrom next row cell rest
    | .endCell => readFrom .cell (cell.reverse :: row) [] rest
    | .endRow => (cell.reverse :: row).reverse :: readFrom .row [] [] rest

/-- The rows of a text; a byte order mark in front of it does not count. -/
def read (text : List Char) : List (List Cell) :=
  match text with
  | '\uFEFF' :: rest => readFrom .row [] [] rest
  | text => readFrom .row [] [] text

end DocStore.Rows
