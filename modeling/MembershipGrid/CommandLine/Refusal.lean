import MembershipGrid.CommandLine.Help
import MembershipGrid.Text.Control

/-!
# Refused arguments

Arguments can be refused, and reading them can end early with a request for help or the version. A
refusal quotes of an argument only what is shown of it, so that no argument controls the terminal. Most
refusals come with advice, which can be any text that depends on the arguments.
-/

namespace MembershipGrid.CommandLine

open Text.Control (shown)

/-- The advice that arguments get if they are refused: what may have been meant, and how a command is used. -/
abbrev Advice := List String → String

def Advice.none : Advice := fun _ => ""

inductive Refusal where
  | unexpectedArgument (argument : String)
  /-- A parameter is left without a value, or a path is empty. -/
  | missingValue (parameter : Parameter)
  | repeated (parameter : Parameter)
  | missingParameters (parameters : List Parameter)
  | unknownCommand (name : String)
  /-- Help is asked for on a topic below the help command. -/
  | unknownTopic (name : String)
  /-- A value is attached to a flag that takes none. -/
  | unexpectedValue (value flag : String)
  deriving DecidableEq

namespace Refusal

def message : Refusal → String
  | .unexpectedArgument argument => "unexpected argument '" ++ shown argument ++ "' found"
  | .missingValue parameter => s!"a value is required for '{parameter.shown}' but none was supplied"
  | .repeated parameter => s!"the argument '{parameter.shown}' cannot be used multiple times"
  | .missingParameters parameters =>
    "the following required arguments were not provided:" ++
      String.join (parameters.map fun parameter => s!"\n  {parameter.shown}")
  | .unknownCommand name | .unknownTopic name => "unrecognized subcommand '" ++ shown name ++ "'"
  | .unexpectedValue value flag =>
    "unexpected value '" ++ shown value ++ "' for '" ++ flag ++ "' found; no more were expected"

def hint : Refusal → String
  | .unknownTopic _ => "Usage: griddiff help [COMMAND]...\n"
  | _ => "For more information, try '--help'.\n"

/-- Whether advice is given. There is none on a value that is missing, and none below the help command. -/
def advised : Refusal → Bool
  | .missingValue _ | .unknownTopic _ => false
  | _ => true

def text (r : Refusal) (advice : String) : String :=
  "error: " ++ r.message ++ (if r.advised then advice else "") ++ "\n\n" ++ r.hint ++ usage

end Refusal

inductive Stop where
  | help (topic : Topic)
  | version
  | refusal (reason : Refusal)
  /-- There is no command, and the files are not three. -/
  | wrongCount
  deriving DecidableEq

end MembershipGrid.CommandLine
