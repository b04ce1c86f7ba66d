import MembershipGrid.Grid.Reader
import MembershipGrid.Script

/-!
# Grids in files

A grid is read from a file that holds its text.
-/

namespace MembershipGrid

def Grid.ofFile (path : String) : ExceptT GridError Script Grid := do
  match ← Script.readText path with
  | .error e => throw (.storage path e)
  | .ok text => ExceptT.mk (pure (Grid.ofText text))

end MembershipGrid
