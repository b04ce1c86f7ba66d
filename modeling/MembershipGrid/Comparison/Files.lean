import MembershipGrid.Comparison.Basic
import MembershipGrid.Grid.File

/-!
# Comparing files

Both files are read, the left one first, before their grids are compared.
-/

namespace MembershipGrid

def Comparison.ofFiles (left right : String) : ExceptT GridError Script Comparison := do
  let leftGrid ← Grid.ofFile left
  let rightGrid ← Grid.ofFile right
  ExceptT.mk (pure (Comparison.ofGrids leftGrid rightGrid))

end MembershipGrid
