import MembershipGrid.Disk.Access
import MembershipGrid.Moment

/-!
# Scripts

A script says what to do with files and the clock, one action after another, and what it answers in
the end. It can be carried out on a disk that is a value (`run`), which is how statements about
scripts are made.
-/

namespace MembershipGrid

/-- Actions on files and the clock that end in a value. -/
inductive Script (α : Type) where
  /-- Ends. -/
  | done (value : α)
  /-- Looks at the clock. -/
  | clock (next : Moment → Script α)
  /-- Asks for the path of the working directory. -/
  | here (next : String → Script α)
  /-- Looks whether a path leads to anything. -/
  | has (path : String) (next : Bool → Script α)
  /-- Reads a file. -/
  | read (path : String) (next : Except StorageError Bytes → Script α)
  /-- Gives a file a new content. -/
  | replace (path : String) (content : Bytes) (next : Except StorageError Unit → Script α)
  /-- Adds to the end of a file. -/
  | append (path : String) (content : Bytes) (next : Except StorageError Unit → Script α)

namespace Script

variable {α β γ : Type}

/-! ## Composition -/

def bind : Script α → (α → Script β) → Script β
  | .done value, f => f value
  | .clock next, f => .clock fun answer => (next answer).bind f
  | .here next, f => .here fun answer => (next answer).bind f
  | .has path next, f => .has path fun answer => (next answer).bind f
  | .read path next, f => .read path fun answer => (next answer).bind f
  | .replace path content next, f => .replace path content fun answer => (next answer).bind f
  | .append path content next, f => .append path content fun answer => (next answer).bind f

instance : Monad Script where
  pure := .done
  bind := .bind

theorem bind_done (s : Script α) : s.bind .done = s := by
  induction s with
  | done value => rfl
  | clock next ih => simp only [bind, ih]
  | here next ih => simp only [bind, ih]
  | has path next ih => simp only [bind, ih]
  | read path next ih => simp only [bind, ih]
  | replace path content next ih => simp only [bind, ih]
  | append path content next ih => simp only [bind, ih]

theorem bind_assoc (s : Script α) (f : α → Script β) (g : β → Script γ) :
    (s.bind f).bind g = s.bind fun value => (f value).bind g := by
  induction s with
  | done value => rfl
  | clock next ih => simp only [bind, ih]
  | here next ih => simp only [bind, ih]
  | has path next ih => simp only [bind, ih]
  | read path next ih => simp only [bind, ih]
  | replace path content next ih => simp only [bind, ih]
  | append path content next ih => simp only [bind, ih]

instance : LawfulMonad Script :=
  LawfulMonad.mk' Script (fun s => bind_done s) (fun _ _ => rfl) bind_assoc

/-! ## Single actions -/

def now : Script Moment := .clock .done

def workingPath : Script String := .here .done

def pathExists (path : String) : Script Bool := .has path .done

def readBytes (path : String) : Script (Except StorageError Bytes) := .read path .done

def readText (path : String) : Script (Except StorageError String) := do
  match ← readBytes path with
  | .error e => return .error e
  | .ok content =>
    match Text.decode? content with
    | none => return .error .notUtf8
    | some text => return .ok text

def writeBytes (path : String) (content : Bytes) : Script (Except StorageError Unit) :=
  .replace path content .done

def writeText (path text : String) : Script (Except StorageError Unit) :=
  writeBytes path (Text.encode text)

def appendLine (path line : String) : Script (Except StorageError Unit) :=
  .append path (Text.encode (line ++ "\n")) .done

/-! ## Carrying out -/

end Script

/-- A disk and a clock. -/
structure World where
  disk : Disk
  /-- What the clock shows each time it is looked at. -/
  clock : Nat → Moment
  /-- How often the clock has been looked at. -/
  looks : Nat

namespace Script

variable {α β : Type}

def run : Script α → World → α × World
  | .done value, w => (value, w)
  | .clock next, w => (next (w.clock w.looks)).run { w with looks := w.looks + 1 }
  | .here next, w => (next w.disk.workingPath).run w
  | .has path next, w => (next (w.disk.has path)).run w
  | .read path next, w => (next (w.disk.read path)).run w
  | .replace path content next, w =>
    match w.disk.replace path content with
    | .error e => (next (.error e)).run w
    | .ok disk => (next (.ok ())).run { w with disk }
  | .append path content next, w =>
    match w.disk.append path content with
    | .error e => (next (.error e)).run w
    | .ok disk => (next (.ok ())).run { w with disk }

theorem run_bind (s : Script α) (f : α → Script β) (w : World) :
    (s >>= f).run w = (f (s.run w).1).run (s.run w).2 := by
  change (s.bind f).run w = _
  induction s generalizing w with
  | done value => rfl
  | clock next ih => exact ih _ _
  | here next ih => exact ih _ _
  | has path next ih => exact ih _ _
  | read path next ih => exact ih _ _
  | replace path content next ih =>
    simp only [bind, run]
    split <;> exact ih _ _
  | append path content next ih =>
    simp only [bind, run]
    split <;> exact ih _ _

end Script

end MembershipGrid
