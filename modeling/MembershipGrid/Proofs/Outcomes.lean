import MembershipGrid.Program
import MembershipGrid.Proofs.Failures
import MembershipGrid.Proofs.Lemmas.Logs
import MembershipGrid.Proofs.Lemmas.SettingFiles
import MembershipGrid.Proofs.Lemmas.Writes

/-!
# What a run reports

The exit code, the error text and the two logs of a run agree: either the command succeeds and none of them
reports a failure, or it fails and all of them report the same failure once.
-/

namespace MembershipGrid

/-! ## Scripts that raise no alarm -/

/-- An entry that only the log of everything has. -/
def Logger.Entry.Quiet (e : Logger.Entry) : Prop :=
  e.alarm = false ∧ ∃ (m : Moment) (level message : String), level ≠ "ERROR" ∧
    e.line = "[" ++ m.timeOfDay ++ "][" ++ level ++ "] " ++ message

def Logger.AddsQuietly (debugLog path : String) (content : Bytes) : Prop :=
  path = debugLog ∧ ∃ m level message, level ≠ Logger.errorLevel ∧
    content = Text.encode (Logger.entry m level message ++ "\n")

/-- A script that replaces neither log, and adds nothing to them but such entries. -/
def Script.Quiet {α : Type} (errorLog debugLog : String) (d : Disk) (s : Script α) : Prop :=
  s.Obeys (fun path _ => d.Apart path errorLog ∧ d.Apart path debugLog) (Logger.AddsQuietly debugLog)

variable {α : Type} {errorLog debugLog : String} {m n : Moment} {entries : List Logger.Entry} {d : Disk}
  {w : World}

theorem Script.Quiet.run {s : Script α} (h : s.Quiet errorLog debugLog d)
    (same : Disk.ChangedAt Set.univ d w.disk) (logged : Logger.Logged errorLog debugLog m n entries w.disk) :
    ∃ quiet : List Logger.Entry, (∀ entry ∈ quiet, entry.Quiet) ∧
      Disk.ChangedAt Set.univ d (s.run w).2.disk ∧
      Logger.Logged errorLog debugLog m n (entries ++ quiet) (s.run w).2.disk := by
  -- the disk changes along the script, while the files are apart on the disk that was there before it
  induction s generalizing w entries with
  | done value => exact ⟨[], nofun, same, (List.append_nil entries).symm ▸ logged⟩
  | clock next ih => exact ih _ (h _) (w := { w with looks := w.looks + 1 }) same logged
  | here next ih | has path next ih | read path next ih => exact ih _ (h _) same logged
  | replace path content next ih =>
      obtain ⟨⟨error, debug⟩, later⟩ := h
      rw [Script.run_replace]
      have first := w.disk.changedAt_replace path content
      refine ih _ (later _) (w := { w with disk := w.disk.attempted (w.disk.replace path content) })
        (same.trans first.anywhere) (logged.of_keptAt ?_)
      rintro log (rfl | rfl)
      · exact .of_changedAt first (error.of_changedAt same)
      · exact .of_changedAt first (debug.of_changedAt same)
  | append path content next ih =>
      obtain ⟨⟨rfl, m', level, message, quiet, rfl⟩, later⟩ := h
      rw [Script.run_append]
      have first := w.disk.changedAt_addedTo path (Logger.entry m' level message)
      obtain ⟨rest, hq, changed, ended⟩ := ih _ (later _)
        (w := { w with disk := w.disk.addedTo path (Logger.entry m' level message) })
        (same.trans first.anywhere) (logged.note _)
      rw [List.append_assoc] at ended
      refine ⟨_, ?_, changed, ended⟩
      rintro entry (_ | ⟨_, hr⟩)
      · exact ⟨rfl, m', level, message, quiet, rfl⟩
      · exact hq entry hr

/-! ## Commands raise no alarm -/

theorem Logger.adds_quietly {level : String} (h : level ≠ Logger.errorLevel) :
    (Logger.writing errorLog debugLog).Adds (Logger.AddsQuietly debugLog) level :=
  fun m message => ⟨⟨rfl, m, level, message, h, rfl⟩, fun alarm => absurd alarm h⟩

namespace Program

open CommandLine

/-- The files that a command writes. -/
def outputs (settings : Settings) : Command → Set String
  | .compare _ _ output report => {output} ∪ {path | path ∈ (report <|> settings.report)}
  | .render _ output => {output}
  | .embed _ output _ => {output}

variable {advice : Advice} {settings : Settings} {command : Command} {base : String}

theorem quiet_carryOut (apart : ∀ path ∈ outputs settings command,
      d.Apart path errorLog ∧ d.Apart path debugLog) :
    (carryOut (.writing errorLog debugLog) settings command).run.Quiet errorLog debugLog d := by
  have logs : ∀ level, level ≠ Logger.errorLevel →
      (Logger.writing errorLog debugLog).Adds (Logger.AddsQuietly debugLog) level :=
    fun _ => Logger.adds_quietly
  cases command with
  | compare left right output report =>
      refine Script.Obeys.bindExcept (Job.obeys_compare logs left right (fun _ => apart _ (Or.inl rfl))
        fun path hp _ => apart _ (Or.inr hp)) fun _ => trivial
  | render input output => exact Job.obeys_render logs input fun _ => apart _ rfl
  | embed input output symbol => exact Job.obeys_embed logs input _ fun _ => apart _ rfl

/-! ## Before a command -/

theorem run_of_stop {stop : Stop} (h : CommandLine.read arguments = .error stop) (w : World) :
    (run advice arguments).run w = (stopped (advice arguments) stop, w) := by
  rw [run, h]
  rfl

theorem run_of_invocation {invocation : Invocation} (h : CommandLine.read arguments = .ok invocation)
    (w : World) :
    (run advice arguments).run w =
      match Settings.onDisk w.disk invocation.config with
      | .error f => (.failure ("error: " ++ f.message ++ "\n"), w)
      | .ok settings => (perform settings invocation.command).run w := by
  rw [run, h]
  change (invoke invocation).run w = _
  rw [invoke, Script.run_bind, Settings.run_inForce]
  cases Settings.onDisk w.disk invocation.config <;> rfl

theorem run_eq_perform {arguments : List String} {invocation : Invocation}
    (parsed : CommandLine.read arguments = .ok invocation)
    (accepted : ((Settings.inForce invocation.config).run.run w).1 = .ok settings) :
    (Program.run advice arguments).run w = (perform settings invocation.command).run w := by
  have loaded : Settings.onDisk w.disk invocation.config = .ok settings := by
    rwa [Settings.run_inForce] at accepted
  rw [run_of_invocation parsed, loaded]

def greet (l : Logger) (settings : Settings) : Script Unit := do
  l.info s!"griddiff v{version} starting"
  noteUnknownKeys l settings.unknownKeys

/-- What is done before a command is carried out. -/
def opening (settings : Settings) : Script Logger := do
  let l ← Logger.start settings.errorLog settings.debugLog
  greet l settings
  return l

def conclude (l : Logger) : Except Failure Unit → Script Outcome
  | .error f => failed l f
  | .ok () => return .success

theorem obeys_greet {l : Logger} {replaces appends : String → Bytes → Prop}
    (hl : ∀ level, level ≠ Logger.errorLevel → l.Adds appends level) (settings : Settings) :
    (greet l settings).Obeys replaces appends := by
  refine Script.Obeys.bind (Logger.obeys_log (hl "INFO" (by decide)) _) fun _ => ?_
  induction settings.unknownKeys with
  | nil => trivial
  | cons key keys ih => exact Script.Obeys.bind (Logger.obeys_log (hl "DEBUG" (by decide)) _) fun _ => ih

theorem perform_eq (settings : Settings) (command : Command) :
    perform settings command =
      opening settings >>= fun l => (carryOut l settings command).run >>= conclude l := by
  simp only [perform, opening, greet, bind_assoc, pure_bind]
  rfl

theorem run_perform {l : Logger} {b v : World} {ended : Except Failure Unit}
    (opens : (opening settings).run w = (l, b))
    (ends : (carryOut l settings command).run.run b = (ended, v)) :
    (perform settings command).run w = (conclude l ended).run v := by
  rw [perform_eq, Script.run_bind, opens, Script.run_bind, ends]

theorem perform_eq_start (settings : Settings) (command : Command) :
    perform settings command = Logger.start settings.errorLog settings.debugLog >>= fun l =>
      greet l settings >>= fun _ => (carryOut l settings command).run >>= conclude l := by
  simp only [perform_eq, opening, bind_assoc, pure_bind]

theorem run_opening (here : w.disk.workingPath = base)
    (apart : w.disk.Apart (Path.under base settings.errorLog) (Path.under base settings.debugLog)) :
    ∃ b, (opening settings).run w =
        (.writing (Path.under base settings.errorLog) (Path.under base settings.debugLog), b) ∧
      Disk.ChangedAt Set.univ w.disk b.disk ∧ ∃ quiet : List Logger.Entry, (∀ entry ∈ quiet, entry.Quiet) ∧
        Logger.Logged (Path.under base settings.errorLog) (Path.under base settings.debugLog)
          (w.clock w.looks) (w.clock (w.looks + 1)) quiet b.disk := by
  have changed := (Logger.changedAt_start settings.errorLog settings.debugLog w).anywhere
  obtain ⟨v, started, -, -, logged⟩ := Logger.logged_start here apart
  rw [started] at changed
  have greeting : (greet (.writing (Path.under base settings.errorLog) (Path.under base settings.debugLog))
      settings).Quiet (Path.under base settings.errorLog) (Path.under base settings.debugLog) w.disk :=
    obeys_greet (fun _ => Logger.adds_quietly) settings
  obtain ⟨quiet, hq, same, entered⟩ := greeting.run changed logged
  refine ⟨_, ?_, same, quiet, hq, entered⟩
  rw [opening, Script.run_bind, started, Script.run_bind]
  rfl

/-! ## The end of a run -/

/-- How a run that has come to an end with a command shows and logs it, at the times that the clock of the
world before it shows. -/
structure Agrees (errorLog debugLog : String) (w : World) (ended : Except Failure Unit) (o : Outcome)
    (v : World) : Prop where
  code : o.exitCode = 0 ∨ o.exitCode = 1
  success : o.exitCode = 0 → ended = .ok () ∧ o.stdout = "" ∧ o.stderr = "" ∧ ∃ i,
    v.disk.read errorLog =
      .ok (Logger.content ["=== Error Log Started: " ++ (w.clock i).stamp ++ " ==="])
  failure : o.exitCode = 1 → ∃ (f : Failure) (message : String) (i j k : Nat) (quiet : List Logger.Entry),
    ended = .error f ∧ message = ": ".intercalate (f.steps ++ f.cause.chain) ∧
    o.stdout = "" ∧ o.stderr = "error: " ++ message ++ "\n" ∧
    v.disk.read errorLog =
      .ok (Logger.content ["=== Error Log Started: " ++ (w.clock i).stamp ++ " ===",
        "[" ++ (w.clock k).timeOfDay ++ "][ERROR] " ++ message]) ∧
    v.disk.read debugLog =
      .ok (Logger.content (("=== Debug Log Started: " ++ (w.clock j).stamp ++ " ===") :: quiet.map (·.line) ++
        ["[" ++ (w.clock k).timeOfDay ++ "][ERROR] " ++ message])) ∧
    ∀ entry ∈ quiet, entry.Quiet

theorem entry_error (m : Moment) (message : String) :
    Logger.entry m Logger.errorLevel message = "[" ++ m.timeOfDay ++ "][ERROR] " ++ message := by
  have head : "][" ++ (Logger.errorLevel ++ "] ") = "][ERROR] " := by decide
  simp only [Logger.entry, ← head, String.append_assoc]

theorem agrees_of_ok {i j : Nat} {v : World} (error : ∃ place, v.disk.target errorLog = .ok place)
    (quiet : ∀ entry ∈ entries, entry.Quiet)
    (logged : Logger.Logged errorLog debugLog (w.clock i) (w.clock j) entries v.disk) :
    Agrees errorLog debugLog w (.ok ()) .success v := by
  obtain ⟨place, ht⟩ := error
  refine ⟨Or.inl rfl, fun _ => ⟨rfl, rfl, rfl, i, ?_⟩, nofun⟩
  rw [← Logger.errorLines_of_quiet _ fun entry h => (quiet entry h).1]
  exact logged.error.read ht

theorem run_failed (l : Logger) (f : Failure) (v : World) :
    (failed l f).run v =
      (.failure ("error: " ++ f.message ++ "\n"), l.after Logger.errorLevel f.message v) := by
  rw [failed, Script.run_bind]
  rfl

theorem agrees_of_error {i j : Nat} {v : World} {f : Failure} (ticks : v.clock = w.clock)
    (error : ∃ place, v.disk.target errorLog = .ok place) (debug : ∃ place, v.disk.target debugLog = .ok place)
    (quiet : ∀ entry ∈ entries, entry.Quiet)
    (logged : Logger.Logged errorLog debugLog (w.clock i) (w.clock j) entries v.disk) :
    Agrees errorLog debugLog w (.error f) ((failed (.writing errorLog debugLog) f).run v).1
      ((failed (.writing errorLog debugLog) f).run v).2 := by
  obtain ⟨place, ht⟩ := error
  obtain ⟨place', ht'⟩ := debug
  have alarmed := logged.after_error f.message
  have changed := (Logger.writing errorLog debugLog).changedAt_after Logger.errorLevel f.message v
  rw [entry_error, ticks] at alarmed
  rw [run_failed]
  refine ⟨Or.inr rfl, nofun, fun _ =>
    ⟨f, f.message, i, j, v.looks, entries, rfl, rfl, rfl, rfl, ?_, ?_, quiet⟩⟩
  · have written := alarmed.error.read (changed.target_eq_ok_iff.mpr ht)
    rwa [Logger.errorLines_append, Logger.errorLines_of_quiet _ fun entry h => (quiet entry h).1] at written
  · have written := alarmed.debug.read (changed.target_eq_ok_iff.mpr ht')
    rwa [Logger.debugLines_append] at written

/-- Whatever the arguments ask for and whatever the disk holds, a run that is given a command ends with the
exit code 0 or 1. After a success nothing is shown and the error log has only its banner; after a failure
the same message is shown, the only entry of the error log, and the last one and the only error in the log
of everything. -/
theorem outcome_agrees_with_logs (advice : Advice) (arguments : List String) (w : World) (invocation : Invocation)
    (settings : Settings) (parsed : CommandLine.read arguments = .ok invocation)
    (accepted : ((Settings.inForce invocation.config).run.run w).1 = .ok settings)
    (apart : w.disk.Apart (Path.under w.disk.workingPath settings.errorLog)
      (Path.under w.disk.workingPath settings.debugLog))
    (writable : (∃ place, w.disk.target (Path.under w.disk.workingPath settings.errorLog) = .ok place) ∧
      ∃ place, w.disk.target (Path.under w.disk.workingPath settings.debugLog) = .ok place)
    (unused : ∀ path ∈ outputs settings invocation.command,
      w.disk.Apart path (Path.under w.disk.workingPath settings.errorLog) ∧
        w.disk.Apart path (Path.under w.disk.workingPath settings.debugLog)) :
    ∃ l b, (opening settings).run w = (l, b) ∧
      Agrees (Path.under w.disk.workingPath settings.errorLog)
        (Path.under w.disk.workingPath settings.debugLog) w
        ((carryOut l settings invocation.command).run.run b).1
        ((Program.run advice arguments).run w).1 ((Program.run advice arguments).run w).2 := by
  obtain ⟨b, opened, same, before, hb, logged⟩ := run_opening rfl apart
  refine ⟨_, b, opened, ?_⟩
  obtain ⟨during, hd, same', logged'⟩ := (quiet_carryOut unused).run same logged
  have error : ∃ place, _ := writable.1.imp fun _ => same'.target_eq_ok_iff.mpr
  have debug : ∃ place, _ := writable.2.imp fun _ => same'.target_eq_ok_iff.mpr
  have quiet := List.forall_mem_append.mpr ⟨hb, hd⟩
  have ticks := Script.run_clock (opening settings) w
  rw [opened] at ticks
  rw [run_eq_perform parsed accepted, perform_eq, Script.run_bind, opened, Script.run_bind]
  generalize ends : (carryOut _ settings invocation.command).run.run b = ending at error debug logged' ⊢
  have ticks' : ending.2.clock = w.clock := ends ▸ (Script.run_clock _ b).trans ticks
  obtain ⟨ended, v⟩ := ending
  cases ended with
  | ok => exact agrees_of_ok error quiet logged'
  | error f => exact agrees_of_error ticks' error debug quiet logged'

theorem outcome_agrees_with_logs_usedDesk :
    ∃ v, (Program.run .none ["render", "gone", "a.png"]).run usedDesk =
        (⟨1, "", "error: failed to load gone: I/O error on gone: No such file or directory (os error 2): " ++
          "No such file or directory (os error 2)\n"⟩, v) ∧
      v.disk.read "/desk/error.log" = .ok (Text.encode ("=== Error Log Started: 2024-01-01 00:00:00 +00:00 ===\n" ++
        "[00:00:00.000][ERROR] failed to load gone: I/O error on gone: No such file or directory (os error 2): " ++
        "No such file or directory (os error 2)\n")) ∧
      v.disk.read "/desk/debug.log" = .ok (Text.encode ("=== Debug Log Started: 2024-01-01 00:00:00 +00:00 ===\n" ++
        "[00:00:00.000][INFO] griddiff v0.1.0 starting\n[00:00:00.000][INFO] render: input=gone output=a.png\n" ++
        "[00:00:00.000][ERROR] failed to load gone: I/O error on gone: No such file or directory (os error 2): " ++
        "No such file or directory (os error 2)\n")) := by
  have apart : usedDesk.disk.Apart "/desk/error.log" "/desk/debug.log" := by
    intro place h
    cases h
    decide
  have unused : ∀ path ∈ outputs {} (.render "gone" "a.png"),
      usedDesk.disk.Apart path "/desk/error.log" ∧ usedDesk.disk.Apart path "/desk/debug.log" := by
    rintro path rfl
    constructor <;> intro place h <;> cases h <;> decide
  obtain ⟨l, b, -, agrees⟩ := outcome_agrees_with_logs .none ["render", "gone", "a.png"] usedDesk
    ⟨none, .render "gone" "a.png"⟩ {} rfl rfl apart
    ⟨⟨["desk", "error.log"], rfl⟩, ["desk", "debug.log"], rfl⟩ unused
  have shown : ((Program.run .none ["render", "gone", "a.png"]).run usedDesk).1 =
      ⟨1, "", "error: failed to load gone: I/O error on gone: No such file or directory (os error 2): " ++
        "No such file or directory (os error 2)\n"⟩ := by decide +kernel
  have logged : ((Program.run .none ["render", "gone", "a.png"]).run usedDesk).2.disk.read "/desk/debug.log" =
      .ok (Text.encode ("=== Debug Log Started: 2024-01-01 00:00:00 +00:00 ===\n" ++
        "[00:00:00.000][INFO] griddiff v0.1.0 starting\n[00:00:00.000][INFO] render: input=gone output=a.png\n" ++
        "[00:00:00.000][ERROR] failed to load gone: I/O error on gone: No such file or directory (os error 2): " ++
        "No such file or directory (os error 2)\n")) := by decide +kernel
  generalize (Program.run _ _).run usedDesk = result at agrees shown logged ⊢
  obtain ⟨o, v⟩ := result
  obtain rfl : o = _ := shown
  obtain ⟨f, message, i, j, k, quiet, -, -, -, err, alarmed, -⟩ := agrees.failure rfl
  have said : "failed to load gone: I/O error on gone: No such file or directory (os error 2): " ++
      "No such file or directory (os error 2)" = message := by
    refine (String.append_right_inj "error: ").mp ((String.append_left_inj "\n").mp (.trans ?_ err))
    dsimp only
    decide
  have clock (look : Nat) : usedDesk.clock look = ⟨2024, 1, 1, 0, 0, 0, 0, 0⟩ := rfl
  rw [← said, clock, clock] at alarmed
  exact ⟨v, rfl, alarmed.trans (by decide +kernel), logged⟩

end Program

end MembershipGrid
