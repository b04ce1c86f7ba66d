import MembershipGrid.CommandLine.Command
import MembershipGrid.Settings.File
import MembershipGrid.Job.Embed
import MembershipGrid.Job.Images

/-!
# The program

A run reads its arguments, loads the settings, starts the logs and carries out one command. The
first failure ends it: it is logged, shown, and makes the run unsuccessful.
-/

namespace MembershipGrid

structure Outcome where
  exitCode : Nat
  stdout : String
  stderr : String
  deriving DecidableEq

namespace Outcome

def success : Outcome := ⟨0, "", ""⟩

/-- A text was asked for. -/
def shown (text : String) : Outcome := ⟨0, text, ""⟩

def failure (text : String) : Outcome := ⟨1, "", text⟩

end Outcome

namespace Program

open CommandLine

def stopped (advice : String) : Stop → Outcome
  | .help topic => .shown (Help.page topic)
  | .version => .shown versionLine
  | .refusal reason => .failure (reason.text advice)
  | .wrongCount => .failure usage

def failed (l : Logger) (f : Failure) : Script Outcome := do
  l.error f.message
  return .failure ("error: " ++ f.message ++ "\n")

/-- Carries out a command. What the command itself says counts more than the settings. -/
def carryOut (l : Logger) (settings : Settings) : Command → Job Unit
  | .compare left right output report => do
    let _ ← Job.compare l left right output (report <|> settings.report)
  | .render input output => Job.render l input output
  | .embed input output symbol => Job.embed l input output (symbol.getD settings.symbol)

def noteUnknownKeys (l : Logger) : List String → Script Unit
  | [] => return
  | key :: rest => do
    l.debug s!"ignoring unknown config key `{key}`"
    noteUnknownKeys l rest

def perform (settings : Settings) (command : Command) : Script Outcome := do
  let l ← Logger.start settings.errorLog settings.debugLog
  l.info s!"griddiff v{version} starting"
  noteUnknownKeys l settings.unknownKeys
  match ← (carryOut l settings command).run with
  | .error f => failed l f
  | .ok () => return .success

def invoke (i : Invocation) : Script Outcome := do
  match ← (Settings.inForce i.config).run with
  | .error f => failed .silent f
  | .ok settings => perform settings i.command

def run (advice : Advice) (arguments : List String) : Script Outcome :=
  match CommandLine.read arguments with
  | .error stop => return stopped (advice arguments) stop
  | .ok invocation => invoke invocation

end Program

end MembershipGrid
