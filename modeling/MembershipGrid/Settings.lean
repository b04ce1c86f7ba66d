import MembershipGrid.Text.Blank
import MembershipGrid.Text.Lines
import MembershipGrid.Text.Quoted

/-!
# Settings

Settings are kept in a file with one assignment on each line. A hash sign starts a comment, and
lines without an assignment are skipped. Of several assignments to one key the last counts; keys
that are not known are collected.
-/

namespace MembershipGrid

/-- What can be set, with the value that holds unless another is given. -/
structure Settings where
  /-- The log of errors. -/
  errorLog : String := "error.log"
  /-- The log of everything. -/
  debugLog : String := "debug.log"
  /-- Where the report of a comparison goes. -/
  report : Option String := none
  /-- The name of an embedded array. -/
  symbol : String := "LINKER_SCRIPT"
  /-- The keys that are not known, in the order of the file. -/
  unknownKeys : List String := []
  deriving DecidableEq

namespace Settings

/-- Why a line is refused. Lines count from one. -/
inductive Defect where
  /-- The line assigns nothing. -/
  | noAssignment (line : Nat) (text : String)
  /-- The value is missing. -/
  | noValue (line : Nat) (key : String)
  deriving DecidableEq

def Defect.message : Defect → String
  | .noAssignment line text => s!"line {line}: expected `key = value`, got {Text.quoted text}"
  | .noValue line key => s!"line {line}: `{key}` has no value"

/-! ## Lines -/

def body (line : List Char) : List Char := Text.trim (line.takeWhile (· ≠ '#'))

/-- The key in the body of a line: what stands before the first equals sign. -/
def key (body : List Char) : List Char := Text.trim (body.takeWhile (· ≠ '='))

def value (body : List Char) : List Char := Text.trim ((body.dropWhile (· ≠ '=')).drop 1)

def readLine (number : Nat) (line : List Char) : Except Defect (Option (String × String)) :=
  let body := body line
  if body = [] then .ok none
  else if '=' ∉ body then .error (.noAssignment number (String.ofList body))
  else if value body = [] then .error (.noValue number (String.ofList (key body)))
  else .ok (some (String.ofList (key body), String.ofList (value body)))

/-! ## Assignments -/

def assign (s : Settings) (key value : String) : Settings :=
  if key = "error-log" then { s with errorLog := value }
  else if key = "debug-log" then { s with debugLog := value }
  else if key = "report" then { s with report := some value }
  else if key = "symbol" then { s with symbol := value }
  else { s with unknownKeys := s.unknownKeys ++ [key] }

/-- Carries out the assignments on the lines of a text, from a line on. -/
def assignLines (s : Settings) : (number : Nat) → List (List Char) → Except Defect Settings
  | _, [] => .ok s
  | number, line :: rest => do
    match ← readLine number line with
    | none => assignLines s (number + 1) rest
    | some (key, value) => assignLines (s.assign key value) (number + 1) rest

def ofText (text : String) : Except Defect Settings := assignLines {} 1 (Text.lines text.toList)

end Settings

end MembershipGrid
