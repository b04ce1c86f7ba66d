import MembershipGrid.CommandLine.Reading

/-!
# Commands

The arguments as a whole stand for a command and a settings file. Three files without the name of a
command stand for a comparison. A settings file that is named after the command counts more than one
named before it.
-/

namespace MembershipGrid.CommandLine

inductive Command where
  | compare (left right output : String) (report : Option String)
  | render (input output : String)
  | embed (input output : String) (symbol : Option String)
  deriving DecidableEq

structure Invocation where
  config : Option String
  command : Command
  deriving DecidableEq

/-- The command that settled parameters stand for, if none is missing. -/
def Reading.command? (r : Reading) : Verb → Option Command
  | .compare => do
    return .compare (← r.value? .input1) (← r.value? .input2) (← r.value? .output)
      (r.value? .report)
  | .render => do return .render (← r.value? .input) (← r.value? .output)
  | .embed => do return .embed (← r.value? .input) (← r.value? .output) (r.value? .symbol)

def readCommand (verb : Verb) (arguments : List String) : Except Stop Invocation := do
  let (r, _) ← (Reading.start (.command verb)).takeAll arguments
  match r.command? verb with
  | none => throw (.refusal (.missingParameters r.places))
  | some command => return ⟨r.value? .config, command⟩

def read (arguments : List String) : Except Stop Invocation := do
  let (r, verb) ← (Reading.start .program).takeAll arguments
  match verb with
  | some (verb, rest) =>
    let inner ← readCommand verb rest
    let r ← r.settle
    return { inner with config := inner.config <|> r.value? .config }
  | none =>
    match r.values .files with
    | [left, right, output] => return ⟨r.value? .config, .compare left right output none⟩
    | _ => throw .wrongCount

end MembershipGrid.CommandLine
