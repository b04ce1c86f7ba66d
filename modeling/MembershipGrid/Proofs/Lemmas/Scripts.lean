import MembershipGrid.Log
import MembershipGrid.Proofs.Lemmas.Disks

/-!
# Runs of scripts

What a script may write is read off its actions, whatever it is answered (`Obeys`). A script that writes
only by certain paths leaves every other file as it was, whether its writing succeeds or not
(`WritesOnly.run`). Logging writes only the two logs.
-/

namespace MembershipGrid

namespace Script

variable {α β ε : Type} {paths more : Set String} {replaces appends : String → Bytes → Prop}

/-- A script that replaces and adds to files only as it is allowed to, whatever it is answered. -/
def Obeys (replaces appends : String → Bytes → Prop) : Script α → Prop
  | .done _ => True
  | .clock next => ∀ answer, (next answer).Obeys replaces appends
  | .here next => ∀ answer, (next answer).Obeys replaces appends
  | .has _ next => ∀ answer, (next answer).Obeys replaces appends
  | .read _ next => ∀ answer, (next answer).Obeys replaces appends
  | .replace path content next => replaces path content ∧ ∀ answer, (next answer).Obeys replaces appends
  | .append path content next => appends path content ∧ ∀ answer, (next answer).Obeys replaces appends

/-- A script that writes by no other paths than these. -/
abbrev WritesOnly (paths : Set String) (s : Script α) : Prop :=
  s.Obeys (fun path _ => path ∈ paths) fun path _ => path ∈ paths

/-! ## What a script writes -/

theorem Obeys.bind {s : Script α} {f : α → Script β} (hs : s.Obeys replaces appends)
    (hf : ∀ value, (f value).Obeys replaces appends) : (s >>= f).Obeys replaces appends := by
  change (s.bind f).Obeys replaces appends
  induction s with
  | done value => exact hf value
  | clock next ih | here next ih | has path next ih | read path next ih =>
      exact fun answer => ih answer (hs answer)
  | replace path content next ih | append path content next ih =>
      exact ⟨hs.1, fun answer => ih answer (hs.2 answer)⟩

theorem run_replace (path : String) (content : Bytes) (next : Except StorageError Unit → Script α)
    (w : World) :
    (Script.replace path content next).run w =
      (next ((w.disk.replace path content).map fun _ => ())).run
        { w with disk := w.disk.attempted (w.disk.replace path content) } := by
  rw [Script.run]
  cases w.disk.replace path content <;> rfl

theorem run_append (path : String) (content : Bytes) (next : Except StorageError Unit → Script α)
    (w : World) :
    (Script.append path content next).run w =
      (next ((w.disk.append path content).map fun _ => ())).run
        { w with disk := w.disk.attempted (w.disk.append path content) } := by
  rw [Script.run]
  cases w.disk.append path content <;> rfl

theorem WritesOnly.run {s : Script α} (hs : s.WritesOnly paths) (w : World) :
    Disk.ChangedAt (w.disk.targets paths) w.disk (s.run w).2.disk := by
  induction s generalizing w with
  | done value => exact .refl _ _
  | clock next ih => exact ih _ (hs _) { w with looks := w.looks + 1 }
  | here next ih | has path next ih | read path next ih => exact ih _ (hs _) w
  | replace path content next ih =>
      rw [run_replace]
      have first := (w.disk.changedAt_replace path content).mono
        (w.disk.targets_mono (Set.singleton_subset_iff.mpr hs.1))
      refine first.thenAt ?_ subset_rfl
      exact ih _ (hs.2 _) { w with disk := w.disk.attempted (w.disk.replace path content) }
  | append path content next ih =>
      rw [run_append]
      have first := (w.disk.changedAt_append path content).mono
        (w.disk.targets_mono (Set.singleton_subset_iff.mpr hs.1))
      refine first.thenAt ?_ subset_rfl
      exact ih _ (hs.2 _) { w with disk := w.disk.attempted (w.disk.append path content) }

theorem run_clock (s : Script α) (w : World) : (s.run w).2.clock = w.clock := by
  induction s generalizing w with
  | done value => rfl
  | clock next ih => exact ih _ { w with looks := w.looks + 1 }
  | here next ih | has path next ih | read path next ih => exact ih _ w
  | replace path content next ih =>
      rw [run_replace]
      exact ih _ _
  | append path content next ih =>
      rw [run_append]
      exact ih _ _

/-! ## Scripts that may fail -/

theorem Obeys.bindExcept {s : ExceptT ε Script α} {f : α → ExceptT ε Script β}
    (hs : s.run.Obeys replaces appends) (hf : ∀ a, (f a).run.Obeys replaces appends) :
    (s >>= f).run.Obeys replaces appends := by
  rw [ExceptT.run_bind]
  refine hs.bind fun outcome => ?_
  cases outcome with
  | error e => trivial
  | ok a => exact hf a

theorem Obeys.lift {s : Script α} (hs : s.Obeys replaces appends) :
    (liftM s : ExceptT ε Script α).run.Obeys replaces appends := by
  change (Functor.map Except.ok s : Script (Except ε α)).Obeys replaces appends
  rw [← bind_pure_comp]
  exact hs.bind fun _ => trivial

theorem run_liftM (s : Script α) (w : World) :
    (liftM s : ExceptT ε Script α).run.run w = (.ok (s.run w).1, (s.run w).2) := by
  change (Functor.map Except.ok s : Script (Except ε α)).run w = _
  rw [← bind_pure_comp, run_bind]
  rfl

theorem run_bind_of_ok {s : ExceptT ε Script α} {f : α → ExceptT ε Script β} {w v : World} {a : α}
    (h : s.run.run w = (.ok a, v)) : (s >>= f).run.run w = (f a).run.run v := by
  rw [ExceptT.run_bind, run_bind, h]

theorem run_bind_of_error {s : ExceptT ε Script α} {f : α → ExceptT ε Script β} {w v : World} {e : ε}
    (h : s.run.run w = (.error e, v)) : (s >>= f).run.run w = (.error e, v) := by
  rw [ExceptT.run_bind, run_bind, h]
  rfl

theorem run_bind_of_same {s : ExceptT ε Script α} {f : α → ExceptT ε Script β} {w : World}
    {x : Except ε α} {y : α → Except ε β} (hs : s.run.run w = (x, w))
    (hf : ∀ a, (f a).run.run w = (y a, w)) : (s >>= f).run.run w = (x >>= y, w) := by
  cases x with
  | error e => exact run_bind_of_error hs
  | ok a => exact (run_bind_of_ok hs).trans (hf a)

end Script

/-! ## Logging -/

namespace Logger

def files : Logger → Set String
  | .silent => ∅
  | .writing errorLog debugLog => {errorLog, debugLog}

/-- What a logger may add to its files for an entry of a certain level. -/
def Adds (l : Logger) (appends : String → Bytes → Prop) (level : String) : Prop :=
  match l with
  | .silent => True
  | .writing errorLog debugLog => ∀ m message,
    appends debugLog (Text.encode (entry m level message ++ "\n")) ∧
      (level = errorLevel → appends errorLog (Text.encode (entry m level message ++ "\n")))

def after (l : Logger) (level message : String) (w : World) : World := ((l.log level message).run w).2

variable {l : Logger} {level message : String} {replaces appends : String → Bytes → Prop}

theorem obeys_addLine {path line : String} (h : appends path (Text.encode (line ++ "\n"))) :
    (addLine path line).Obeys replaces appends :=
  Script.Obeys.bind ⟨h, fun _ => trivial⟩ fun _ => trivial

theorem obeys_log (h : l.Adds appends level) (message : String) :
    (l.log level message).Obeys replaces appends := by
  cases l with
  | silent => trivial
  | writing errorLog debugLog =>
      refine Script.Obeys.bind (fun _ => trivial) fun moment => ?_
      obtain ⟨debug, error⟩ := h moment message
      refine (obeys_addLine debug).bind fun _ => ?_
      split
      · rename_i alarm
        exact obeys_addLine (error alarm)
      · trivial

theorem adds_files (l : Logger) (level : String) : l.Adds (fun path _ => path ∈ l.files) level := by
  cases l with
  | silent => trivial
  | writing errorLog debugLog => exact fun _ _ => ⟨Or.inr rfl, fun _ => Or.inl rfl⟩

theorem Adds.mono {more : String → Bytes → Prop} (h : l.Adds appends level)
    (sub : ∀ path content, appends path content → more path content) : l.Adds more level := by
  cases l with
  | silent => trivial
  | writing errorLog debugLog =>
      exact fun m message => ⟨sub _ _ (h m message).1, fun alarm => sub _ _ ((h m message).2 alarm)⟩

theorem writesOnly_crash (l : Logger) (message : String) (place : Option (String × Nat)) (calls : String) :
    (l.crash message place calls).WritesOnly l.files := by
  cases l with
  | silent => trivial
  | writing errorLog debugLog =>
      refine Script.Obeys.bind (fun _ => trivial) fun moment => ?_
      exact (obeys_addLine (Or.inl rfl)).bind fun _ => obeys_addLine (Or.inr rfl)

theorem changedAt_after (l : Logger) (level message : String) (w : World) :
    Disk.ChangedAt (w.disk.targets l.files) w.disk (l.after level message w).disk :=
  Script.WritesOnly.run (obeys_log (l.adds_files level) message) w

theorem changedAt_then_after {w v : World} (h : Disk.ChangedAt (w.disk.targets l.files) w.disk v.disk) :
    Disk.ChangedAt (w.disk.targets l.files) w.disk (l.after level message v).disk :=
  h.thenAt (l.changedAt_after level message v) subset_rfl

/-- An entry changes no file from which the logs were apart when a command began. -/
theorem read_after_iff {w v : World} {places : Set Location} {path : String} {content : Bytes}
    (changed : Disk.ChangedAt places w.disk v.disk) (apart : ∀ log ∈ l.files, w.disk.Apart log path) :
    (l.after level message v).disk.read path = .ok content ↔ v.disk.read path = .ok content :=
  changed.read_then_iff (l.changedAt_after level message v) apart

end Logger

end MembershipGrid
