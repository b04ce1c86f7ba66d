import MembershipGrid.Comparison.Basic

/-!
# Tallies

A tally counts the cells of a comparison by class. It is written as a report, one object of decimal
numbers with a line for each, and as a note on a single line.
-/

namespace MembershipGrid

structure Tally where
  width : Nat
  height : Nat
  agreeMember : Nat
  agreeOutside : Nat
  falseMember : Nat
  falseOutside : Nat
  mismatched : Nat
  deriving DecidableEq

def Comparison.tally (c : Comparison) : Tally where
  width := c.width
  height := c.height
  agreeMember := c.cells.count .agreeMember
  agreeOutside := c.cells.count .agreeOutside
  falseMember := c.cells.count .falseMember
  falseOutside := c.cells.count .falseOutside
  mismatched := c.cells.countP fun cell => !cell.isAgreement

namespace Tally

def fields (t : Tally) : List (String × Nat) :=
  [("width", t.width),
    ("height", t.height),
    ("agree_member", t.agreeMember),
    ("agree_outside", t.agreeOutside),
    ("false_member", t.falseMember),
    ("false_outside", t.falseOutside),
    ("mismatched", t.mismatched)]

/-- One line of the report, without what parts it from the next. -/
def reportLine (field : String × Nat) : String := "  \"" ++ field.1 ++ "\": " ++ field.2.repr

/-- The report: one object with a member for each count, indented by two spaces. -/
def report (t : Tally) : String :=
  "\x7b\n" ++ ",\n".intercalate (t.fields.map reportLine) ++ "\n\x7d"

def note (t : Tally) : String :=
  "Tally \x7b " ++ ", ".intercalate (t.fields.map fun field => field.1 ++ ": " ++ field.2.repr) ++
    " \x7d"

end Tally

end MembershipGrid
