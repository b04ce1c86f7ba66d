import MembershipGrid.CellClass
import MembershipGrid.Grid.Basic
import MembershipGrid.GridError

/-!
# Comparing two grids

Two grids of one shape are compared cell by cell. The number of rows is checked before their length.
-/

namespace MembershipGrid

/-- The class of every cell of a grid against a reference grid. -/
abbrev Comparison := Table CellClass

def Comparison.ofGrids (left right : Grid) : Except GridError Comparison :=
  if height_eq : left.height = right.height then
    if width_eq : left.width = right.width then
      .ok
        { width := left.width
          height := left.height
          cells := List.zipWith CellClass.ofSymbols left.cells right.cells
          width_pos := left.width_pos
          height_pos := left.height_pos
          length_cells := by
            rw [List.length_zipWith, left.length_cells, right.length_cells, height_eq, width_eq,
              Nat.min_self] }
    else .error (.columnMismatch left.width right.width)
  else .error (.rowMismatch left.height right.height)

end MembershipGrid
