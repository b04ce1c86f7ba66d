import MembershipGrid.Grid.Basic
import MembershipGrid.GridError
import MembershipGrid.Text.Lines

/-!
# Reading a grid

The lines are read from the top. On each line the length is checked before the characters, so the
first defect of the text decides the error.
-/

namespace MembershipGrid.Grid

/-- Reads the characters of a line from a column on. -/
def readCells (line : Nat) : (column : Nat) → List Char → Except GridError (List Symbol)
  | _, [] => .ok []
  | column, c :: rest =>
    match Symbol.ofChar? c with
    | none => .error (.unknownSymbol c line column)
    | some symbol => do return symbol :: (← readCells line (column + 1) rest)

/-- Reads a line that should have `width` characters. -/
def readRow (width line : Nat) (text : List Char) : Except GridError (List Symbol) :=
  if text.length = width then readCells line 1 text
  else .error (.unevenRow line width text.length)

/-- Reads the lines of a text from a line on. -/
def readRows (width : Nat) : (line : Nat) → List (List Char) → Except GridError (List Symbol)
  | _, [] => .ok []
  | line, row :: rest => do
    let cells ← readRow width line row
    return cells ++ (← readRows width (line + 1) rest)

/-! ## Lengths -/

theorem length_of_readCells {line column : Nat} {text : List Char} {cells : List Symbol}
    (h : readCells line column text = .ok cells) : cells.length = text.length := by
  induction text generalizing column cells with
  | nil => cases h; rfl
  | cons c rest ih =>
    simp only [readCells] at h
    split at h
    · cases h
    · cases more : readCells line (column + 1) rest with
      | error e => simp [more, bind, Except.bind] at h
      | ok tail =>
        simp only [more, bind, Except.bind, pure, Except.pure, Except.ok.injEq] at h
        subst h
        simp [ih more]

theorem length_of_readRow {width line : Nat} {text : List Char} {cells : List Symbol}
    (h : readRow width line text = .ok cells) : cells.length = width := by
  simp only [readRow] at h
  split at h
  · rename_i width_eq
    rw [length_of_readCells h, width_eq]
  · cases h

theorem length_of_readRows {width line : Nat} {text : List (List Char)} {cells : List Symbol}
    (h : readRows width line text = .ok cells) : cells.length = width * text.length := by
  induction text generalizing line cells with
  | nil => cases h; rfl
  | cons row rest ih =>
    simp only [readRows] at h
    cases first : readRow width line row with
    | error e => simp [first, bind, Except.bind] at h
    | ok head =>
      cases more : readRows width (line + 1) rest with
      | error e => simp [first, more, bind, Except.bind] at h
      | ok tail =>
        simp only [first, more, bind, Except.bind, pure, Except.pure, Except.ok.injEq] at h
        subst h
        simp [length_of_readRow first, ih more, Nat.mul_succ, Nat.add_comm]

/-! ## The whole text -/

/-- The grid that a text describes, one row on each line. -/
def ofText (text : String) : Except GridError Grid :=
  match Text.lines text.toList with
  | [] => .error .noRows
  | first :: rest =>
    match read : readRows first.length 1 (first :: rest) with
    | .error e => .error e
    | .ok cells =>
      if width_pos : 0 < first.length then
        .ok
          { width := first.length
            height := rest.length + 1
            cells
            width_pos
            height_pos := Nat.succ_pos _
            length_cells := length_of_readRows read }
      else .error .noColumns

end MembershipGrid.Grid
