import MembershipGrid.Proofs.Lemmas.Abreast
import Mathlib.Data.List.Forall2

/-!
# Two journals side by side

What the log of everything tells, whatever the times are (`Journal`), and two runs in which it tells different
things at the beginning and the same from then on (`Beside`).
-/

namespace MembershipGrid

/-- An entry as far as it does not depend on the time. -/
structure Logger.Note where
  level : String
  message : String

/-- Lines that are the entries for some notes, at whatever times. -/
abbrev Logger.Entered : List Note → List String → Prop :=
  List.Forall₂ fun note line => ∃ m : Moment,
    line = "[" ++ m.timeOfDay ++ "][" ++ note.level ++ "] " ++ note.message

/-- The file of a log of everything, if it can be written, consists of a banner and the entries for some
notes. -/
def Disk.Journal (d : Disk) (path : String) (notes : List Logger.Note) : Prop :=
  ∃ (m : Moment) (lines : List String), Logger.Entered notes lines ∧
    d.Holds path (("=== Debug Log Started: " ++ m.stamp ++ " ===") :: lines)

/-- What a run notes before its command: that it starts, and the keys that it does not know. -/
def Program.greeting (unknownKeys : List String) : List Logger.Note :=
  ⟨"INFO", "griddiff v0.1.0 starting"⟩ ::
    unknownKeys.map fun key => ⟨"DEBUG", "ignoring unknown config key `" ++ key ++ "`"⟩

variable {d e : Disk} {path errorLog debugLog : String} {notes notes' : List Logger.Note}
  {stale stamped : Set Location} {w w' : World} {settings : Settings}

/-! ## One journal -/

namespace Disk.Journal

theorem of_keptAt (h : d.Journal path notes) (kept : d.KeptAt e path) : e.Journal path notes := by
  obtain ⟨m, lines, entered, holds⟩ := h
  exact ⟨m, lines, entered, holds.of_keptAt kept⟩

theorem startedAt (d : Disk) (path : String) (m : Moment) :
    (d.startedAt path (Logger.banner "Debug" m)).Journal path [] :=
  ⟨m, [], .nil, d.holds_startedAt path _⟩

theorem addedTo (h : d.Journal path notes) (m : Moment) (level message : String) :
    (d.addedTo path (Logger.entry m level message)).Journal path (notes ++ [⟨level, message⟩]) := by
  obtain ⟨n, lines, entered, holds⟩ := h
  refine ⟨n, lines ++ [Logger.entry m level message], ?_, Disk.holds_addedTo holds _⟩
  exact List.rel_append entered (.cons ⟨m, rfl⟩ .nil)

theorem after_log {level : String} (h : w.disk.Journal debugLog notes) (quiet : level ≠ Logger.errorLevel)
    (message : String) :
    (((Logger.writing errorLog debugLog).log level message).run w).2.disk.Journal debugLog
      (notes ++ [⟨level, message⟩]) := by
  rw [Logger.run_log, if_neg quiet]
  exact h.addedTo _ level message

theorem after_noteUnknownKeys (h : w.disk.Journal debugLog notes) (keys : List String) :
    ((Program.noteUnknownKeys (.writing errorLog debugLog) keys).run w).2.disk.Journal debugLog
      (notes ++ keys.map fun key => ⟨"DEBUG", "ignoring unknown config key `" ++ key ++ "`"⟩) := by
  induction keys generalizing w notes with
  | nil => exact (List.append_nil notes).symm ▸ h
  | cons key keys ih =>
      rw [Program.noteUnknownKeys, Script.run_bind, List.map_cons, List.append_cons]
      exact ih (h.after_log (by decide) _)

theorem after_greet (h : w.disk.Journal debugLog notes) (settings : Settings) :
    ((Program.greet (.writing errorLog debugLog) settings).run w).2.disk.Journal debugLog
      (notes ++ Program.greeting settings.unknownKeys) := by
  rw [Program.greet, Script.run_bind, Program.greeting, List.append_cons]
  exact (h.after_log (by decide) _).after_noteUnknownKeys settings.unknownKeys

end Disk.Journal

/-- Once the error log is started, all that is done before a command is to start the log of everything and to
add the greeting to it. -/
theorem Program.run_opening_journal (settings : Settings) (w : World)
    (error : Path.under w.disk.workingPath settings.errorLog = errorLog)
    (debug : Path.under w.disk.workingPath settings.debugLog = debugLog) :
    ∃ b, (opening settings).run w = (.writing errorLog debugLog, b) ∧
      Disk.ChangedAt (w.disk.targets {debugLog})
        (w.disk.startedAt errorLog (Logger.banner "Error" (w.clock w.looks))) b.disk ∧
      b.disk.Journal debugLog (greeting settings.unknownKeys) := by
  have started := Logger.run_start settings.errorLog settings.debugLog w
  rw [error, debug] at started
  refine ⟨((greet (.writing errorLog debugLog) settings).run
    ((Logger.start settings.errorLog settings.debugLog).run w).2).2, ?_, ?_, ?_⟩
  · rw [opening, Script.run_bind, started, Script.run_bind]
    rfl
  · have adds : ∀ level, level ≠ Logger.errorLevel →
        (Logger.writing errorLog debugLog).Adds (fun path _ => path ∈ ({debugLog} : Set String)) level :=
      fun level quiet _ _ => ⟨rfl, fun alarm => absurd alarm quiet⟩
    have greeted : (greet (.writing errorLog debugLog) settings).WritesOnly {debugLog} := obeys_greet adds settings
    have changed := greeted.run ((Logger.start settings.errorLog settings.debugLog).run w).2
    rw [started] at changed ⊢
    have first := w.disk.changedAt_startedAt errorLog (Logger.banner "Error" (w.clock w.looks))
    have second := Disk.changedAt_startedAt (w.disk.startedAt errorLog (Logger.banner "Error" (w.clock w.looks)))
      debugLog (Logger.banner "Debug" (w.clock (w.looks + 1)))
    rw [second.targets, first.targets] at changed
    rw [first.targets] at second
    exact second.trans changed
  · have begun : ((Logger.start settings.errorLog settings.debugLog).run w).2.disk.Journal debugLog [] := by
      rw [started]
      exact Disk.Journal.startedAt _ debugLog _
    exact begun.after_greet settings

/-! ## Two journals -/

namespace Disk.Alike

theorem apart (h : d.Alike stale stamped e) {other : String} (clear : d.Apart path other) :
    e.Apart path other := by
  intro place hp
  rw [h.locate_eq] at hp ⊢
  exact clear place hp

/-- Files at a stale place may come to differ as they will. -/
theorem changed {d' e' : Disk} {place : Location} {a b : Bytes} (h : d.Alike stale stamped e)
    (hd : ChangedAt {place} d d') (he : ChangedAt {place} e e') (node : d'.node? place = some (.file a))
    (node' : e'.node? place = some (.file b)) (free : place ∈ stale) : d'.Alike stale stamped e' := by
  refine ⟨by rw [he.workingDirectory, hd.workingDirectory, h.workingDirectory], fun other => ?_⟩
  by_cases same : other = place
  · subst same
    rw [node, node']
    exact .file (.inl free)
  · rw [hd.elsewhere other same, he.elsewhere other same]
    exact h.node other

end Disk.Alike

/-- Two disks that are alike, on which paths lead where they led on the disk `d`. The journals begin with
certain notes and go on alike. -/
structure Disk.Beside (d : Disk) (debugLog : String) (stale stamped : Set Location)
    (notes notes' : List Logger.Note) (e e' : Disk) : Prop where
  same : ChangedAt Set.univ d e
  alike : e.Alike stale stamped e'
  journals : ∃ more, e.Journal debugLog (notes ++ more) ∧ e'.Journal debugLog (notes' ++ more)

namespace Disk.Beside

variable {e' : Disk}

theorem note (free : d.targets {debugLog} ⊆ stale) (h : Beside d debugLog stale stamped notes notes' e e')
    (m n : Moment) (level message : String) :
    Beside d debugLog stale stamped notes notes' (e.addedTo debugLog (Logger.entry m level message))
      (e'.addedTo debugLog (Logger.entry n level message)) := by
  obtain ⟨same, alike, more, journal, journal'⟩ := h
  have noted := journal.addedTo m level message
  have noted' := journal'.addedTo n level message
  rw [List.append_assoc] at noted noted'
  exact ⟨same.trans (e.changedAt_addedTo _ _).anywhere,
    alike.appended (.inl (by rwa [same.targets])), _, noted, noted'⟩

/-- What is added to another file may differ in the time. -/
theorem aside (h : Beside d debugLog stale stamped notes notes' e e') (apart : d.Apart path debugLog)
    (m n : Moment) (level message : String) :
    Beside d debugLog stale (stamped ∪ d.targets {path}) notes notes'
      (e.addedTo path (Logger.entry m level message)) (e'.addedTo path (Logger.entry n level message)) := by
  obtain ⟨same, alike, more, journal, journal'⟩ := h
  have clear := apart.of_changedAt same
  have log : e.targets {path} ⊆ stamped ∪ d.targets {path} := by
    rw [same.targets]
    exact Set.subset_union_right
  exact ⟨same.trans (e.changedAt_addedTo _ _).anywhere,
    (alike.mono subset_rfl Set.subset_union_left).addedTo (.inl log) level message, more,
    journal.of_keptAt (.of_changedAt (e.changedAt_addedTo path _) clear),
    journal'.of_keptAt (.of_changedAt (e'.changedAt_addedTo path _) (alike.apart clear))⟩

theorem replaced (h : Beside d debugLog stale stamped notes notes' e e') (apart : d.Apart path debugLog)
    (content : Bytes) :
    Beside d debugLog stale stamped notes notes' (e.attempted (e.replace path content))
      (e'.attempted (e'.replace path content)) := by
  obtain ⟨same, alike, more, journal, journal'⟩ := h
  have clear := apart.of_changedAt same
  exact ⟨same.trans (e.changedAt_replace path content).anywhere,
    (alike.replaced (.inl rfl)).mono Set.sdiff_subset subset_rfl, more,
    journal.of_keptAt (.of_changedAt (e.changedAt_replace path content) clear),
    journal'.of_keptAt (.of_changedAt (e'.changedAt_replace path content) (alike.apart clear))⟩

/-- A command that reads no file that may differ, and does not write to the journal, keeps two disks beside
each other. -/
theorem admits {inputs outputs : Set String} (free : d.targets {debugLog} ⊆ stale)
    (clear : ∀ path ∈ inputs, d.Avoids (stale ∪ stamped) path)
    (apart : ∀ path ∈ outputs, d.Apart path debugLog) :
    (Logger.writing errorLog debugLog).Admits
      (fun w w' => Beside d debugLog stale stamped notes notes' w.disk w'.disk) inputs outputs where
  logs := by
    intro level quiet message w w' h
    rw [Logger.run_log, Logger.run_log, if_neg quiet, if_neg quiet]
    exact ⟨rfl, h.note free _ _ level message⟩
  reads := fun path hp _ _ h => h.alike.read_eq (h.same.avoids (clear path hp))
  writes := by
    intro path hp content w w' h
    rw [Script.run_writeBytes_eq, Script.run_writeBytes_eq]
    exact ⟨h.alike.map_replace_eq path content, h.replaced (apart path hp) content⟩

theorem carryOut {command : CommandLine.Command} (h : Beside d debugLog stale stamped notes notes' w.disk w'.disk)
    (free : d.targets {debugLog} ⊆ stale)
    (clear : ∀ path ∈ Program.inputs command, d.Avoids (stale ∪ stamped) path)
    (apart : ∀ path ∈ Program.outputs settings command, d.Apart path debugLog) (errorLog : String) :
    ((Program.carryOut (.writing errorLog debugLog) settings command).run.run w').1 =
        ((Program.carryOut (.writing errorLog debugLog) settings command).run.run w).1 ∧
      Beside d debugLog stale stamped notes notes'
        ((Program.carryOut (.writing errorLog debugLog) settings command).run.run w).2.disk
        ((Program.carryOut (.writing errorLog debugLog) settings command).run.run w').2.disk :=
  Program.keeps_carryOut (admits free clear apart) w w' h

/-- A failure stands in both journals, and in both error logs. -/
theorem conclude (h : Beside d debugLog stale stamped notes notes' w.disk w'.disk)
    (free : d.targets {debugLog} ⊆ stale) (apart : d.Apart errorLog debugLog) (ended : Except Failure Unit) :
    ((Program.conclude (.writing errorLog debugLog) ended).run w').1 =
        ((Program.conclude (.writing errorLog debugLog) ended).run w).1 ∧
      Beside d debugLog stale (stamped ∪ d.targets {errorLog}) notes notes'
        ((Program.conclude (.writing errorLog debugLog) ended).run w).2.disk
        ((Program.conclude (.writing errorLog debugLog) ended).run w').2.disk := by
  cases ended with
  | ok => exact ⟨rfl, h.same, h.alike.mono subset_rfl Set.subset_union_left, h.journals⟩
  | error f =>
      rw [Program.conclude, Program.run_failed, Program.run_failed, Logger.after, Logger.after, Logger.run_log,
        Logger.run_log, if_pos rfl, if_pos rfl]
      exact ⟨rfl, (h.note free _ _ _ _).aside apart _ _ _ _⟩

/-- Two runs that open the same logs stand beside each other when their commands start. -/
theorem opening (settings' : Settings) {place : Location} (alike : w.disk.Alike stale stamped w'.disk)
    (error : Path.under w.disk.workingPath settings.errorLog = errorLog)
    (debug : Path.under w.disk.workingPath settings.debugLog = debugLog)
    (logs : settings'.errorLog = settings.errorLog ∧ settings'.debugLog = settings.debugLog)
    (opens : w.disk.target debugLog = .ok place) (free : place ∈ stale)
    (timed : w.disk.targets {errorLog} ⊆ stamped ∨ w.clock w.looks = w'.clock w'.looks) :
    ∃ b b', (Program.opening settings).run w = (.writing errorLog debugLog, b) ∧
      (Program.opening settings').run w' = (.writing errorLog debugLog, b') ∧
      Beside w.disk debugLog stale stamped (Program.greeting settings.unknownKeys)
        (Program.greeting settings'.unknownKeys) b.disk b'.disk := by
  obtain ⟨b, ran, changed, journal⟩ := Program.run_opening_journal settings w error debug
  have error' : Path.under w'.disk.workingPath settings'.errorLog = errorLog := by
    rw [alike.workingPath_eq, logs.1, error]
  have debug' : Path.under w'.disk.workingPath settings'.debugLog = debugLog := by
    rw [alike.workingPath_eq, logs.2, debug]
  obtain ⟨b', ran', changed', journal'⟩ := Program.run_opening_journal settings' w' error' debug'
  have started := w.disk.changedAt_startedAt errorLog (Logger.banner "Error" (w.clock w.looks))
  have errors := (alike.startedAt timed "Error").mono Set.sdiff_subset subset_rfl
  have opens' := (alike.target_eq debugLog).trans opens
  rw [Disk.targets_of_ok opens] at changed
  rw [Disk.targets_of_ok opens'] at changed'
  have there := changed.target_eq_ok_iff.mpr (started.target_eq_ok_iff.mpr opens)
  have there' := changed'.target_eq_ok_iff.mpr ((errors.target_eq debugLog).trans
    (started.target_eq_ok_iff.mpr opens))
  refine ⟨b, b', ran, ran', ?_, ?_, [], by rwa [List.append_nil], by rwa [List.append_nil]⟩
  · exact started.anywhere.trans changed.anywhere
  · obtain ⟨_, _, -, holds⟩ := journal
    obtain ⟨_, _, -, holds'⟩ := journal'
    exact errors.changed changed changed' (holds place there) (holds' place there') free

end Disk.Beside

end MembershipGrid
