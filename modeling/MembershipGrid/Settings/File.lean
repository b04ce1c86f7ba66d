import MembershipGrid.Job.Basic

/-!
# Settings in files

A settings file that is named has to exist. The default one may be missing.
-/

namespace MembershipGrid.Settings

def defaultFile : String := "griddiff.config"

/-- The settings in a file, which has to exist. -/
def ofFile (path : String) : Job Settings := do
  let text ← Job.fileStep s!"failed to read {path}" (Script.readText path)
  match ofText text with
  | .error defect => throw ((Failure.ofCause (.settings defect)).within s!"invalid config {path}")
  | .ok settings => return settings

/-- The settings in a named file, or those in the default file if it exists. -/
def inForce : Option String → Job Settings
  | some path => ofFile path
  | none => do
    if ← Script.pathExists defaultFile then ofFile defaultFile else return {}

end MembershipGrid.Settings
