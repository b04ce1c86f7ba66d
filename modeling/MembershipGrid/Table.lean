import MembershipGrid.RowMajor

/-!
# Tables of cells

A table is a rectangle with at least one row and one column. Its cells are kept row after row.
-/

namespace MembershipGrid

/-- A rectangle of cells, stored row by row. -/
structure Table (α : Type) where
  width : Nat
  height : Nat
  cells : List α
  width_pos : 0 < width
  height_pos : 0 < height
  length_cells : cells.length = width * height
  deriving DecidableEq

namespace Table

variable {α : Type}

def rows (t : Table α) : List (List α) := RowMajor.rows t.width t.height t.cells

/-- The cell in a row and a column, both counted from zero. -/
def cell? (t : Table α) (row column : Nat) : Option α :=
  if column < t.width then t.cells[row * t.width + column]? else none

theorem flatten_rows (t : Table α) : t.rows.flatten = t.cells := by
  rw [rows, RowMajor.flatten_rows, ← t.length_cells, List.take_length]

theorem length_rows (t : Table α) : t.rows.length = t.height := RowMajor.length_rows _ _ _

theorem length_of_mem_rows {t : Table α} {row : List α} (h : row ∈ t.rows) :
    row.length = t.width :=
  RowMajor.length_of_mem_full_rows t.length_cells h

theorem eq_of_cells {t u : Table α} (width : t.width = u.width) (height : t.height = u.height)
    (cells : t.cells = u.cells) : t = u := by
  cases t
  cases u
  simp_all

theorem eq_of_rows {t u : Table α} (same : t.rows = u.rows) : t = u := by
  have height : t.height = u.height := by rw [← t.length_rows, same, u.length_rows]
  have cells : t.cells = u.cells := by rw [← t.flatten_rows, same, u.flatten_rows]
  have width : t.width = u.width := by
    obtain ⟨row, row_mem⟩ := List.exists_mem_of_length_pos (t.length_rows ▸ t.height_pos)
    rw [← length_of_mem_rows row_mem, length_of_mem_rows (same ▸ row_mem)]
  exact eq_of_cells width height cells

theorem exists_rows_eq {lists : List (List α)} {width : Nat} (nonempty : lists ≠ [])
    (even : ∀ row ∈ lists, row.length = width) (width_pos : 0 < width) :
    ∃ t : Table α, t.rows = lists :=
  ⟨⟨width, lists.length, lists.flatten, width_pos, List.length_pos_iff.2 nonempty,
    RowMajor.length_flatten even⟩, RowMajor.rows_flatten even⟩

theorem cell?_eq_getElem?_rows (t : Table α) (row column : Nat) :
    t.cell? row column = t.rows[row]?.bind (·[column]?) := by
  by_cases inside : row < t.height
  · rw [cell?, rows, RowMajor.getElem?_rows inside, Option.bind_some]
    split
    · rename_i column_lt
      rw [List.getElem?_take_of_lt column_lt, List.getElem?_drop]
    · rename_i column_ge
      rw [List.getElem?_eq_none]
      exact Nat.le_trans (List.length_take_le _ _) (Nat.not_lt.1 column_ge)
  · have no_row : t.rows[row]? = none := by
      rw [List.getElem?_eq_none_iff, length_rows]
      exact Nat.not_lt.1 inside
    have no_cell : t.cells.length ≤ row * t.width + column := by
      rw [t.length_cells, Nat.mul_comm]
      exact Nat.le_add_right_of_le (Nat.mul_le_mul_right _ (Nat.not_lt.1 inside))
    rw [cell?, no_row, List.getElem?_eq_none no_cell, ite_self, Option.bind_none]

theorem exists_cell? {t : Table α} {row column : Nat} (row_lt : row < t.height)
    (column_lt : column < t.width) : ∃ cell, t.cell? row column = some cell := by
  have inside : row * t.width + column < t.cells.length := by
    have last := Nat.mul_le_mul_right t.width (Nat.succ_le_of_lt row_lt)
    rw [t.length_cells, Nat.mul_comm t.width]
    rw [Nat.succ_mul] at last
    omega
  exact ⟨_, (if_pos column_lt).trans (List.getElem?_eq_getElem inside)⟩

end Table

end MembershipGrid
