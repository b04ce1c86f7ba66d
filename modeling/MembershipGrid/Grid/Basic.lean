import MembershipGrid.Symbol
import MembershipGrid.Table

/-!
# Grids

A grid is a table of symbols. Its text has one line for each row, and every line ends in a newline.
-/

namespace MembershipGrid

abbrev Grid := Table Symbol

def Grid.toText (grid : Grid) : String :=
  String.ofList (grid.rows.flatMap fun row => row.map Symbol.toChar ++ ['\n'])

end MembershipGrid
