import MembershipGrid.Program
import Std.Time.Zoned

/-!
# The executable

Scripts are carried out on real files and the real clock, and the outcome of a run is shown. Arguments
that are refused are answered without advice.
-/

namespace MembershipGrid

def systemError : IO.Error → UInt32 × String
  | .alreadyExists _ code text => (code, text)
  | .otherError code text => (code, text)
  | .resourceBusy code text => (code, text)
  | .resourceVanished code text => (code, text)
  | .unsupportedOperation code text => (code, text)
  | .hardwareFault code text => (code, text)
  | .unsatisfiedConstraints code text => (code, text)
  | .illegalOperation code text => (code, text)
  | .protocolError code text => (code, text)
  | .timeExpired code text => (code, text)
  | .interrupted _ code text => (code, text)
  | .noFileOrDirectory _ code text => (code, text)
  | .invalidArgument _ code text => (code, text)
  | .permissionDenied _ code text => (code, text)
  | .resourceExhausted _ code text => (code, text)
  | .inappropriateType _ code text => (code, text)
  | .noSuchThing _ code text => (code, text)
  | .unexpectedEof => (0, "unexpected end of file")
  | .userError text => (0, text)

/-- The storage error for a system error. Numbers may come negated. -/
def storageError (e : IO.Error) : StorageError :=
  let (code, text) := systemError e
  match min code.toNat (-code).toNat with
  | 2 => .notFound
  | 20 => .notDirectory
  | 21 => .isDirectory
  | 36 => .nameTooLong
  | number => .other (text.capitalize ++ " (os error " ++ number.repr ++ ")")

def onFile {α : Type} (path : String) (action : IO α) : IO (Except StorageError α) := do
  if '\x00' ∈ path.toList then return .error .nulInPath
  try return .ok (← action)
  catch e => return .error (storageError e)

def presentMoment : IO Moment := do
  let now ← Std.Time.DateTime.now
  return {
    year := now.year.toInt.toNat
    month := now.month.val.toNat
    day := now.day.val.toNat
    hour := now.hour.val.toNat
    minute := now.minute.val.toNat
    second := now.second.val.toNat
    nanosecond := now.nanosecond.val.toNat
    offset := now.offset.second.val / 60 }

def Script.perform {α : Type} : Script α → IO α
  | .done value => return value
  | .clock next => do (next (← presentMoment)).perform
  | .here next => do
    let base ← try pure (← IO.currentDir).toString catch _ => pure ""
    (next base).perform
  | .has path next => do (next (← onFile path (IO.FS.realPath path)).isOk).perform
  | .read path next => do
    let content ← onFile path (IO.FS.readBinFile path)
    (next (content.map (·.data.toList))).perform
  | .replace path content next => do
    (next (← onFile path (IO.FS.writeBinFile path ⟨content.toArray⟩))).perform
  | .append path content next => do
    let action := IO.FS.withFile path .append fun handle => handle.write ⟨content.toArray⟩
    (next (← onFile path action)).perform

end MembershipGrid

def main (arguments : List String) : IO UInt32 := do
  let outcome ← (MembershipGrid.Program.run .none arguments).perform
  (← IO.getStdout).putStr outcome.stdout
  (← IO.getStderr).putStr outcome.stderr
  return outcome.exitCode.toUInt32
