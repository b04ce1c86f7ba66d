import MembershipGrid.GridError
import MembershipGrid.Settings

/-!
# Failures

A failure has a cause, and says for each step around it what that step was about. It is reported as
a whole, from the outermost step to the cause.
-/

namespace MembershipGrid

inductive Cause where
  | grid (error : GridError)
  | storage (error : StorageError)
  | settings (defect : Settings.Defect)
  /-- A name does not have the form of an identifier. -/
  | identifier (name : String)
  deriving DecidableEq

/-- The words for a cause, outermost first. -/
def Cause.chain : Cause → List String
  | .grid error => error.chain
  | .storage error => [error.message]
  | .settings defect => [defect.message]
  | .identifier name => [s!"{Text.quoted name} is not a valid C identifier"]

structure Failure where
  /-- What each step was about, outermost first. -/
  steps : List String
  cause : Cause
  deriving DecidableEq

namespace Failure

def ofCause (cause : Cause) : Failure := ⟨[], cause⟩

def within (step : String) (f : Failure) : Failure := ⟨step :: f.steps, f.cause⟩

def message (f : Failure) : String := ": ".intercalate (f.steps ++ f.cause.chain)

end Failure

end MembershipGrid
