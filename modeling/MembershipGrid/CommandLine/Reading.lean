import MembershipGrid.CommandLine.Refusal

/-!
# Reading arguments

Arguments are read from left to right. A parameter is open while values may still be given to it,
and is settled as soon as something else begins; its values are checked only then. A name stands for
a command only where neither a value is due nor files are being listed. The command then reads all
that follows its name, before the parameter that was open at the name is settled.
-/

namespace MembershipGrid.CommandLine

/-- What the next argument can be. -/
inductive Mode where
  /-- Anything. -/
  | free
  /-- The value of the open parameter. -/
  | value
  /-- One more file. -/
  | files
  deriving DecidableEq

/-- What is known after some of the arguments. -/
structure Reading where
  level : Level
  /-- The values of the settled parameters. -/
  given : List (Parameter × List String) := []
  /-- The open parameter with its values so far. -/
  pending : Option (Parameter × List String) := none
  mode : Mode := .free
  /-- Whether hyphens and names have lost their meaning. -/
  literal : Bool := false
  /-- The parameters whose place has not come yet. -/
  places : List Parameter
  deriving DecidableEq

namespace Reading

def start (level : Level) : Reading := { level, places := level.places }

def values (r : Reading) (p : Parameter) : List String :=
  r.given.flatMap fun entry => if entry.1 = p then entry.2 else []

def value? (r : Reading) (p : Parameter) : Option String := (r.values p).head?

/-- Whether a name stands for a command. -/
def takesVerb (r : Reading) : Bool := r.level = .program ∧ r.mode = .free ∧ r.literal = false

/-! ## Settling -/

def accept (r : Reading) (p : Parameter) (values : List String) : Except Stop Reading :=
  if values = [] then .error (.refusal (.missingValue p))
  else if p.repeats = false ∧ r.values p ≠ [] then .error (.refusal (.repeated p))
  else if p.isPath ∧ "" ∈ values then .error (.refusal (.missingValue p))
  else .ok { r with given := r.given ++ [(p, values)] }

/-- Settles the open parameter. -/
def settle (r : Reading) : Except Stop Reading :=
  match r.pending with
  | none => .ok r
  | some (p, values) => accept { r with pending := none } p values

/-! ## Single arguments -/

/-- Ends with a request, unless the open parameter is refused. -/
def stop (r : Reading) (request : Stop) : Except Stop Reading := do
  let _ ← r.settle
  throw request

def takeOption (r : Reading) (p : Parameter) (attached : Option String) : Except Stop Reading := do
  let r ← r.settle
  match attached with
  | some value => accept { r with mode := .free } p [value]
  | none => return { r with pending := some (p, []), mode := .value }

def takeLong (r : Reading) (body : List Char) : Except Stop Reading :=
  let name := String.ofList (body.takeWhile (· ≠ '='))
  let attached :=
    match body.dropWhile (· ≠ '=') with
    | [] => none
    | _ :: value => some (String.ofList value)
  match r.level.long? name, attached with
  | none, _ => .error (.refusal (.unexpectedArgument ("--" ++ name)))
  | some (.value p), _ => r.takeOption p attached
  | some .help, none => r.stop (.help r.level.topic)
  | some .version, none => r.stop .version
  | some _, some value => .error (.refusal (.unexpectedValue value ("--" ++ name)))

/-- Takes what follows a single hyphen: a letter, and perhaps its value. -/
def takeShort (r : Reading) (letter : Char) (rest : List Char) : Except Stop Reading :=
  match r.level.short? letter with
  | none => .error (.refusal (.unexpectedArgument (String.ofList ['-', letter])))
  | some (.value p) =>
    match rest with
    | [] => r.takeOption p none
    | '=' :: value => r.takeOption p (some (String.ofList value))
    | value => r.takeOption p (some (String.ofList value))
  | some .help => r.stop (.help r.level.topic)
  | some .version => r.stop .version

def takeValue (r : Reading) (argument : String) : Reading :=
  { r with
    pending := r.pending.map fun (p, values) => (p, values ++ [argument])
    mode := .free }

def openWith (r : Reading) (p : Parameter) (argument : String) (mode : Mode) :
    Except Stop Reading := do
  let r ← r.settle
  return { r with pending := some (p, [argument]), mode }

def takePlace (r : Reading) (argument : String) : Except Stop Reading :=
  match r.places with
  | [] => .error (.refusal (.unexpectedArgument argument))
  | p :: more =>
    if p.repeats then
      if r.pending.any (·.1 = p) then .ok { r.takeValue argument with mode := .files }
      else r.openWith p argument .files
    else { r with places := more }.openWith p argument .free

def take (r : Reading) (argument : String) : Except Stop Reading :=
  if r.literal then r.takePlace argument
  else
    match argument.toList with
    | ['-', '-'] => .ok { r with literal := true }
    | '-' :: '-' :: body => r.takeLong body
    | '-' :: letter :: rest => r.takeShort letter rest
    | _ => if r.mode = .value then .ok (r.takeValue argument) else r.takePlace argument

/-! ## All arguments -/

/-- The request of the help command for the topics that are named. -/
def helpOn : List String → Stop
  | [] => .help .program
  | name :: rest =>
    match Verb.ofName? name, rest with
    | some verb, [] => .help (.command verb)
    | some _, other :: _ => .refusal (.unknownCommand other)
    | none, rest =>
      if name = "help" then
        match rest with
        | [] => .help .help
        | other :: _ => .refusal (.unknownTopic other)
      else .refusal (.unknownCommand name)

/-- Takes arguments up to the name of a command, and gives that name with what follows it. The
parameter that is open at the name stays so. -/
def takeAll (r : Reading) : List String → Except Stop (Reading × Option (Verb × List String))
  | [] => do return (← r.settle, none)
  | argument :: rest =>
    if r.takesVerb then
      match Verb.ofName? argument with
      | some verb => .ok (r, some (verb, rest))
      | none =>
        if argument = "help" then .error (helpOn rest)
        else do (← r.take argument).takeAll rest
    else do (← r.take argument).takeAll rest

end Reading

end MembershipGrid.CommandLine
