import MembershipGrid.StorageError
import MembershipGrid.Text.Quoted

/-!
# Errors of grids and images

Everything that can go wrong between a grid's text and its image. Lines and columns count from one.
-/

namespace MembershipGrid

inductive GridError where
  /-- A line is not as long as the first one. -/
  | unevenRow (line expected found : Nat)
  /-- There is no cell at all. -/
  | empty (detail : String)
  /-- Two grids differ in shape. -/
  | differentShapes (detail : String)
  /-- A character is no symbol. -/
  | unknownSymbol (symbol : Char) (line column : Nat)
  /-- A buffer does not have the size of its image. -/
  | wrongSize (width height expected found : Nat)
  /-- A file cannot be read or written. -/
  | storage (path : String) (reason : StorageError)
  deriving DecidableEq

namespace GridError

def noRows : GridError := .empty "input has no rows"

def noColumns : GridError := .empty "rows have no columns"

def rowMismatch (left right : Nat) : GridError :=
  .differentShapes s!"left grid has {left} rows, right grid has {right}"

def columnMismatch (left right : Nat) : GridError :=
  .differentShapes s!"left grid rows have {left} columns, right grid rows have {right}"

def message : GridError → String
  | .unevenRow line expected found =>
    s!"malformed grid: line {line} has {found} columns, expected {expected}"
  | .empty detail => s!"malformed grid: {detail}"
  | .differentShapes detail => s!"dimension mismatch: {detail}"
  | .unknownSymbol symbol line column =>
    s!"unrecognized symbol {Text.quotedChar symbol} at line {line}, column {column}"
  | .wrongSize width height expected found =>
    s!"pixel buffer holds {found} bytes, {width}x{height} RGB needs {expected}"
  | .storage path reason => s!"I/O error on {path}: {reason.message}"

/-- The words for a grid error and for what caused it, outermost first. -/
def chain : GridError → List String
  | .storage path reason => [message (.storage path reason), reason.message]
  | error => [error.message]

end GridError

end MembershipGrid
