import MembershipGrid.Symbol

/-!
# Agreement of two symbols

A cell of a grid is checked against the same cell of a reference grid. The two agree, or the left
one is wrong about the point in one of two ways.
-/

namespace MembershipGrid

/-- How a symbol compares with the reference symbol. -/
inductive CellClass where
  | agreeMember
  | agreeOutside
  /-- A member on the left only. -/
  | falseMember
  /-- A member on the right only. -/
  | falseOutside
  deriving DecidableEq

namespace CellClass

/-- The class of a symbol, given the reference symbol. -/
def ofSymbols : (left right : Symbol) → CellClass
  | .member, .member => .agreeMember
  | .outside, .outside => .agreeOutside
  | .member, .outside => .falseMember
  | .outside, .member => .falseOutside

def isAgreement : CellClass → Bool
  | .agreeMember | .agreeOutside => true
  | .falseMember | .falseOutside => false

theorem isAgreement_ofSymbols {left right : Symbol} :
    (ofSymbols left right).isAgreement = true ↔ left = right := by
  cases left <;> cases right <;> decide

end CellClass

end MembershipGrid
