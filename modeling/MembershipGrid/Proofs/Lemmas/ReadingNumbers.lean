import MembershipGrid.Proofs.FirstDefects
import MembershipGrid.Proofs.Lemmas.Reckoning
import Mathlib.Data.String.Basic

/-!
# Numbers while a text is read

No number that is worked out while a text is read is larger than the text is long in bytes, whether or not the
text is a grid (`gives_reckonText`). The same holds of the numbers in an error.
-/

namespace MembershipGrid

open Reckoning (Gives)

/-! ## Lengths of texts -/

namespace Text

variable {text line : List Char} {ls : List (List Char)}

theorem length_le_utf8ByteSize (text : String) : text.toList.length ≤ text.utf8ByteSize := by
  rw [← String.utf8Len_toList]
  induction text.toList with
  | nil => exact Nat.le_refl 0
  | cons c rest ih =>
      rw [String.utf8Len_cons, List.length_cons]
      exact Nat.add_le_add ih c.utf8Size_pos

theorem FallsInto.length_le (h : FallsInto text ls) : ls.length ≤ text.length := by
  induction h with
  | nothing => exact Nat.le_refl 0
  | unended hne _ => exact List.length_pos_iff.mpr hne
  | newline _ _ _ ih | returnNewline _ _ ih =>
      simp only [List.length_cons, List.length_append]
      omega

theorem FallsInto.length_flatten_le (h : FallsInto text ls) : ls.flatten.length ≤ text.length := by
  induction h with
  | nothing => exact Nat.le_refl 0
  | unended _ _ => simp
  | newline _ _ _ ih | returnNewline _ _ ih =>
      simp only [List.flatten_cons, List.length_cons, List.length_append]
      omega

theorem length_lines_le (text : String) : (lines text.toList).length ≤ text.utf8ByteSize :=
  (fallsInto_lines _).length_le.trans (length_le_utf8ByteSize text)

theorem length_flatten_lines_le (text : String) : (lines text.toList).flatten.length ≤ text.utf8ByteSize :=
  (fallsInto_lines _).length_flatten_le.trans (length_le_utf8ByteSize text)

theorem length_le_of_mem_lines {text : String} (hl : line ∈ lines text.toList) :
    line.length ≤ text.utf8ByteSize :=
  (List.sublist_flatten_of_mem hl).length_le.trans (length_flatten_lines_le text)

end Text

/-- The lines, columns and lengths that an error tells of. -/
def GridError.numbers : GridError → List Nat
  | .unevenRow line expected found => [line, expected, found]
  | .unknownSymbol _ line column => [line, column]
  | .wrongSize width height expected found => [width, height, expected, found]
  | .empty _ | .differentShapes _ | .storage _ _ => []

/-- The sides and the cells of a table. -/
def Table.parts {α : Type} (t : Table α) : Nat × Nat × List α := (t.width, t.height, t.cells)

/-! ## Reading -/

namespace Grid

variable {bound : Nat}

/-- Reads the characters of a line that follow the first `before`. -/
def reckonCells (line : Nat) : (before : Nat) → List Char → ExceptT GridError Reckoning (List Symbol)
  | _, [] => return []
  | before, c :: rest => do
    let column ← Reckoning.add before 1
    match Symbol.ofChar? c with
    | none => throw (.unknownSymbol c line column)
    | some symbol => return symbol :: (← reckonCells line column rest)

/-- Reads a line whose characters have been counted. -/
def reckonRow (width line length : Nat) (row : List Char) : ExceptT GridError Reckoning (List Symbol) :=
  if length = width then reckonCells line 0 row else throw (.unevenRow line width length)

/-- Reads the lines that follow the first `before`. The first line of all settles the width. -/
def reckonRows : (before height : Nat) → (width : Option Nat) → List (List Char) →
    ExceptT GridError Reckoning (Option Nat × Nat × List Symbol)
  | _, height, width, [] => return (width, height, [])
  | before, height, width, row :: rest => do
    let line ← Reckoning.add before 1
    let length ← Reckoning.countFrom 0 row
    let expected := width.getD length
    let cells ← reckonRow expected line length row
    let height ← Reckoning.add height 1
    let (width, height, more) ← reckonRows line height (some expected) rest
    return (width, height, cells ++ more)

/-- The sides and the cells of the grid that a text describes. -/
def reckonText (text : String) : ExceptT GridError Reckoning (Nat × Nat × List Symbol) := do
  let (width, height, cells) ← reckonRows 0 0 none (Text.lines text.toList)
  match width with
  | none => throw .noRows
  | some width => if width = 0 then throw .noColumns else return (width, height, cells)

theorem gives_reckonCells {line before : Nat} {row : List Char} (fits : before + row.length ≤ bound) :
    Gives bound (reckonCells line before row).run (readCells line (before + 1) row) := by
  induction row generalizing before with
  | nil => exact Reckoning.gives_pure _ _
  | cons c rest ih =>
      rw [List.length_cons] at fits
      rw [reckonCells, readCells]
      refine (Reckoning.gives_add (by omega)).lift ?_
      cases Symbol.ofChar? c with
      | none => exact Reckoning.gives_pure _ _
      | some symbol => exact (ih (by omega)).bindExcept fun _ _ => Reckoning.gives_pure _ _

theorem gives_reckonRow {width line : Nat} {row : List Char} (fits : row.length ≤ bound) :
    Gives bound (reckonRow width line row.length row).run (readRow width line row) := by
  rw [reckonRow, readRow]
  split
  · exact gives_reckonCells (by omega)
  · exact Reckoning.gives_pure _ _

/-- The sides after some rows, and the cells in them. -/
def sides (width height : Nat) (cells : List Symbol) : Option Nat × Nat × List Symbol :=
  (some width, height, cells)

theorem gives_reckonRows_cons {before height : Nat} {width : Option Nat} {row : List Char}
    {rest : List (List Char)} (line : before + 1 ≤ bound) (column : row.length ≤ bound)
    (counted : height + 1 ≤ bound)
    (below : Gives bound (reckonRows (before + 1) (height + 1) (some (width.getD row.length)) rest).run
      ((readRows (width.getD row.length) (before + 2) rest).map
        (sides (width.getD row.length) (height + 1 + rest.length)))) :
    Gives bound (reckonRows before height width (row :: rest)).run
      ((readRows (width.getD row.length) (before + 1) (row :: rest)).map
        (sides (width.getD row.length) (height + (row :: rest).length))) := by
  rw [reckonRows]
  refine (Reckoning.gives_add line).lift ((Reckoning.gives_count column).lift ?_)
  generalize width.getD row.length = expected at below ⊢
  have count : height + (row :: rest).length = height + 1 + rest.length := by
    rw [List.length_cons]
    omega
  have split : (readRows expected (before + 1) (row :: rest)).map (sides expected (height + (row :: rest).length)) =
      readRow expected (before + 1) row >>= fun cells =>
        (readRows expected (before + 2) rest).map (sides expected (height + 1 + rest.length)) >>=
          fun more => .ok (more.1, more.2.1, cells ++ more.2.2) := by
    rw [readRows, count]
    cases readRow expected (before + 1) row with
    | error e => rfl
    | ok cells => cases readRows expected (before + 2) rest <;> rfl
  rw [split]
  refine (gives_reckonRow column).bindExcept fun cells _ => (Reckoning.gives_add counted).lift ?_
  exact below.bindExcept fun _ _ => Reckoning.gives_pure _ _

theorem gives_reckonRows {before height width : Nat} {rows : List (List Char)}
    (lines : before + rows.length ≤ bound) (heights : height + rows.length ≤ bound)
    (columns : ∀ row ∈ rows, row.length ≤ bound) :
    Gives bound (reckonRows before height (some width) rows).run
      ((readRows width (before + 1) rows).map (sides width (height + rows.length))) := by
  induction rows generalizing before height with
  | nil => exact Reckoning.gives_pure _ _
  | cons row rest ih =>
      rw [List.length_cons] at lines heights
      obtain ⟨column, columns⟩ := List.forall_mem_cons.mp columns
      exact gives_reckonRows_cons (by omega) column (by omega) (ih (by omega) (by omega) columns)

/-- What reading comes to once the rows are read. -/
theorem map_parts_ofText {text : String} {first : List Char} {rest : List (List Char)}
    (hl : Text.lines text.toList = first :: rest) :
    (ofText text).map Table.parts = readRows first.length 1 (first :: rest) >>= fun cells =>
      if first.length = 0 then .error .noColumns else .ok (first.length, rest.length + 1, cells) := by
  unfold ofText
  split
  · rename_i none
    cases none.symm.trans hl
  · rename_i first' rest' hl'
    cases hl'.symm.trans hl
    split
    · rename_i e he
      rw [he]
      rfl
    · rename_i cells hc
      split
      · rename_i width_pos
        change Except.ok (first.length, rest.length + 1, cells) = _
        rw [hc]
        exact (if_neg (Nat.ne_of_gt width_pos)).symm
      · rename_i none
        rw [hc]
        exact (if_pos (Nat.eq_zero_of_not_pos none)).symm

theorem gives_reckonText (text : String) :
    Gives text.utf8ByteSize (reckonText text).run ((ofText text).map Table.parts) := by
  have lines := Text.length_lines_le text
  have columns := fun row (hr : row ∈ Text.lines text.toList) => Text.length_le_of_mem_lines hr
  rw [reckonText]
  cases hl : Text.lines text.toList with
  | nil =>
      rw [ofText_of_no_line hl]
      exact Reckoning.gives_pure _ _
  | cons first rest =>
      rw [hl, List.length_cons] at lines
      rw [hl] at columns
      obtain ⟨column, columns⟩ := List.forall_mem_cons.mp columns
      have rows : Gives text.utf8ByteSize (reckonRows 0 0 none (first :: rest)).run
          ((readRows first.length 1 (first :: rest)).map (sides first.length (0 + (first :: rest).length))) :=
        gives_reckonRows_cons (by omega) column (by omega) (gives_reckonRows (by omega) (by omega) columns)
      rw [Nat.zero_add] at rows
      rw [map_parts_ofText hl]
      cases read : readRows first.length 1 (first :: rest) with
      | error e =>
          rw [read] at rows
          exact rows.bind (Reckoning.gives_pure _ (Except.error e))
      | ok cells =>
          rw [read] at rows
          refine rows.bind ?_
          change Gives _ (if first.length = 0 then throw GridError.noColumns
              else pure (first.length, (first :: rest).length, cells) : ExceptT GridError Reckoning _).run
            (if first.length = 0 then .error .noColumns else .ok (first.length, rest.length + 1, cells))
          split <;> exact Reckoning.gives_pure _ _

theorem Defect.numbers_le {first line : List Char} {number : Nat} {e : GridError} (h : Defect first number line e)
    (hn : number ≤ bound) (hf : first.length ≤ bound) (hl : line.length ≤ bound) : ∀ n ∈ e.numbers, n ≤ bound := by
  cases h with
  | uneven _ =>
      simp only [GridError.numbers, List.forall_mem_cons]
      exact ⟨hn, hf, hl, nofun⟩
  | unknown _ _ _ _ =>
      rw [List.length_append, List.length_cons] at hl
      simp only [GridError.numbers, List.forall_mem_cons]
      exact ⟨hn, by omega, nofun⟩

theorem numbers_le_of_ofText {text : String} {e : GridError} (h : ofText text = .error e) :
    ∀ n ∈ e.numbers, n ≤ text.utf8ByteSize := by
  by_cases bad : ∃ first ∈ (Text.lines text.toList).head?, ∃ line ∈ Text.lines text.toList, Defective first line
  · obtain ⟨first, top, line, hl, bad⟩ := bad
    obtain ⟨k, at_k⟩ := Text.exists_firstAt hl bad
    obtain ⟨above, line, below, cut, -, bad, sound⟩ := Text.firstAt_iff.mp at_k
    obtain ⟨e', defect⟩ := bad.exists_defect (above.length + 1)
    have above_le : above.length + 1 ≤ (Text.lines text.toList).length := by simp [cut]
    have line_mem : line ∈ Text.lines text.toList := by simp [cut]
    have first_mem := List.mem_of_mem_head? top
    rw [cut, List.append_cons, List.head?_append_of_ne_nil _ (by simp)] at top
    cases h.symm.trans (ofText_of_defect cut top sound defect)
    exact defect.numbers_le (above_le.trans (Text.length_lines_le text)) (Text.length_le_of_mem_lines first_mem)
      (Text.length_le_of_mem_lines line_mem)
  · have outcome : Outcome text (ofText text) :=
      outcome_of_sound fun first top line hl hd => bad ⟨first, top, line, hl, hd⟩
    rw [h] at outcome
    cases outcome <;> exact nofun

theorem area_le_of_ofText {text : String} {g : Grid} (h : ofText text = .ok g) :
    g.width * g.height ≤ text.utf8ByteSize := by
  have chars : (rowTexts g).flatten.length = g.width * g.height := by
    rw [rowTexts, ← List.map_flatten, List.length_map, g.flatten_rows, g.length_cells]
  rw [← chars, ← rowTexts_of_ofText h]
  exact Text.length_flatten_lines_le text

end Grid

end MembershipGrid
