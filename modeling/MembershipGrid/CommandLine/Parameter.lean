/-!
# Parameters

The commands, the parameters that each of them takes, and how a parameter is given: by a long name,
by a letter, or by its place.
-/

namespace MembershipGrid.CommandLine

/-- A command that is chosen by its name. -/
inductive Verb where
  | compare
  | render
  | embed
  deriving DecidableEq

namespace Verb

def name : Verb → String
  | .compare => "compare"
  | .render => "render"
  | .embed => "embed"

def ofName? (name : String) : Option Verb :=
  if name = "compare" then some .compare
  else if name = "render" then some .render
  else if name = "embed" then some .embed
  else none

end Verb

inductive Parameter where
  | config
  | report
  | symbol
  | files
  | input1
  | input2
  | input
  | output
  deriving DecidableEq

namespace Parameter

def shown : Parameter → String
  | .config => "--config <CONFIG>"
  | .report => "--report <REPORT>"
  | .symbol => "--symbol <SYMBOL>"
  | .files => "[FILES]..."
  | .input1 => "<INPUT1>"
  | .input2 => "<INPUT2>"
  | .input => "<INPUT>"
  | .output => "<OUTPUT>"

/-- Whether the values are paths, which cannot be empty. -/
def isPath (p : Parameter) : Bool := p != .symbol

def repeats (p : Parameter) : Bool := p == .files

end Parameter

inductive Flag where
  /-- The next value is for a parameter. -/
  | value (parameter : Parameter)
  | help
  | version
  deriving DecidableEq

/-- Whose parameters are being read: those of the program, or those of a command. -/
inductive Level where
  | program
  | command (verb : Verb)
  deriving DecidableEq

namespace Level

/-- The parameters that are given by their place, in order. -/
def places : Level → List Parameter
  | .program => [.files]
  | .command .compare => [.input1, .input2, .output]
  | .command .render => [.input, .output]
  | .command .embed => [.input, .output]

def long? (l : Level) (name : String) : Option Flag :=
  if name = "help" then some .help
  else if name = "config" then some (.value .config)
  else if name = "version" ∧ l = .program then some .version
  else if name = "report" ∧ l = .command .compare then some (.value .report)
  else if name = "symbol" ∧ l = .command .embed then some (.value .symbol)
  else none

def short? (l : Level) (letter : Char) : Option Flag :=
  if letter = 'h' then some .help
  else if letter = 'V' ∧ l = .program then some .version
  else if letter = 'r' ∧ l = .command .compare then some (.value .report)
  else if letter = 's' ∧ l = .command .embed then some (.value .symbol)
  else none

end Level

end MembershipGrid.CommandLine
