/-!
# Lines of a text

A line ends at a newline, and a carriage return right before that newline belongs to the line's end.
What follows the last newline is a line of its own unless it is empty.
-/

namespace MembershipGrid.Text

/-- Drops one carriage return from the end of a line that is held in reverse. -/
def dropReturn : List Char → List Char
  | '\r' :: line => line
  | line => line

/-- The lines of a text whose first line starts with `line`, held in reverse. -/
def linesFrom (line : List Char) : List Char → List (List Char)
  | [] => if line = [] then [] else [line.reverse]
  | '\n' :: rest => (dropReturn line).reverse :: linesFrom [] rest
  | c :: rest => linesFrom (c :: line) rest

def lines (text : List Char) : List (List Char) := linesFrom [] text

end MembershipGrid.Text
