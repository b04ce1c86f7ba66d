import MembershipGrid.Script
import MembershipGrid.Text.Blank

/-!
# Logs

There are two log files: one for everything and one for errors only. Both start anew when logging
starts, and stay where the working directory was then. A log that cannot be written is passed over,
and before logging starts nothing is written.
-/

namespace MembershipGrid

/-- Where log entries go. -/
inductive Logger where
  /-- Nowhere: logging has not started. -/
  | silent
  /-- To two files. -/
  | writing (errorLog debugLog : String)
  deriving DecidableEq

namespace Logger

/-! ## Texts -/

def banner (title : String) (m : Moment) : String :=
  "=== " ++ title ++ " Log Started: " ++ m.stamp ++ " ==="

def entry (m : Moment) (level message : String) : String :=
  "[" ++ m.timeOfDay ++ "][" ++ level ++ "] " ++ message

/-- The message of a crash, which may have come without a text. -/
def crashMessage (text : Option String) : String := text.getD "non-string panic payload"

def crashPlace : Option (String × Nat) → String
  | none => ""
  | some (file, line) => " (" ++ file ++ ":" ++ line.repr ++ ")"

def crashCalls (calls : String) : String :=
  let text := Text.trim calls.toList
  if text = [] ∨ "disabled backtrace".toList <+: text then "" else "\n" ++ String.ofList text

def crashReport (m : Moment) (message : String) (place : Option (String × Nat)) (calls : String) :
    String :=
  entry m "PANIC" message ++ crashPlace place ++ crashCalls calls

/-! ## Writing -/

/-- Starts a log anew, if it can be written. -/
def startFile (path title : String) : Script Unit := do
  let m ← Script.now
  let _ ← Script.writeText path (banner title m ++ "\n")

def addLine (path line : String) : Script Unit := do
  let _ ← Script.appendLine path line

def start (errorLog debugLog : String) : Script Logger := do
  let base ← Script.workingPath
  let errorLog := Path.under base errorLog
  let debugLog := Path.under base debugLog
  startFile errorLog "Error"
  startFile debugLog "Debug"
  return .writing errorLog debugLog

/-- The level of the entries that go to both logs. -/
def errorLevel : String := "ERROR"

def log (level message : String) : Logger → Script Unit
  | .silent => return
  | .writing errorLog debugLog => do
    let line := entry (← Script.now) level message
    addLine debugLog line
    if level = errorLevel then addLine errorLog line

def info (message : String) (l : Logger) : Script Unit := l.log "INFO" message

def error (message : String) (l : Logger) : Script Unit := l.log errorLevel message

def debug (message : String) (l : Logger) : Script Unit := l.log "DEBUG" message

def crash (message : String) (place : Option (String × Nat)) (calls : String) :
    Logger → Script Unit
  | .silent => return
  | .writing errorLog debugLog => do
    let report := crashReport (← Script.now) message place calls
    addLine errorLog report
    addLine debugLog report

end Logger

end MembershipGrid
