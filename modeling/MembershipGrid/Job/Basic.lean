import MembershipGrid.Failure
import MembershipGrid.Script

/-!
# Jobs

A job is a script that may fail. Each of its steps says what it is about, for the report of a
failure.
-/

namespace MembershipGrid

/-- A script that may fail. -/
abbrev Job (α : Type) := ExceptT Failure Script α

namespace Job

variable {α : Type}

def ofExcept (outcome : Except Cause α) : Job α :=
  ExceptT.mk (pure (outcome.mapError Failure.ofCause))

/-- A step on grids or images, with what it is about. -/
def gridStep (about : String) (s : ExceptT GridError Script α) : Job α :=
  s.adapt fun e => (Failure.ofCause (.grid e)).within about

def fileStep (about : String) (s : Script (Except StorageError α)) : Job α :=
  (ExceptT.mk s).adapt fun e => (Failure.ofCause (.storage e)).within about

def readBytes (path : String) : Job Bytes :=
  fileStep s!"Failed to read file: {Text.quoted path}" (Script.readBytes path)

def writeText (path text : String) : Job Unit :=
  fileStep s!"Failed to write file: {Text.quoted path}" (Script.writeText path text)

end Job

end MembershipGrid
