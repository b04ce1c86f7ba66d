import MembershipGrid.CellClass

/-!
# Colors

Every kind of cell has a color. Where two symbols agree, the class has the color of the symbol.
-/

namespace MembershipGrid

structure Color where
  red : UInt8
  green : UInt8
  blue : UInt8
  deriving DecidableEq

namespace Color

def channels (c : Color) : List UInt8 := [c.red, c.green, c.blue]

def member : Color := ⟨150, 150, 150⟩

def outside : Color := ⟨50, 50, 50⟩

/-- A point that is wrongly taken for a member. -/
def falseMember : Color := ⟨255, 0, 0⟩

/-- A point that is wrongly left outside. -/
def falseOutside : Color := ⟨255, 255, 0⟩

end Color

class Colored (α : Type) where
  /-- The color of a cell. -/
  color : α → Color

instance : Colored Symbol where
  color
    | .member => .member
    | .outside => .outside

instance : Colored CellClass where
  color
    | .agreeMember => .member
    | .agreeOutside => .outside
    | .falseMember => .falseMember
    | .falseOutside => .falseOutside

end MembershipGrid
