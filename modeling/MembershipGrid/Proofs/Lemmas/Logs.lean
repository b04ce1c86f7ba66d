import MembershipGrid.Proofs.Lemmas.Scripts

/-!
# What the logs hold

A log that can be written holds what was last put into it and the lines that were added since. One that
cannot be written takes no part, and changes nothing for any other file.
-/

namespace MembershipGrid

def Logger.content (lines : List String) : Bytes := lines.flatMap fun line => Text.encode (line ++ "\n")

namespace Disk

/-- A path leads to the same place on both disks, and can be written on both or on neither. -/
structure SameWay (d e : Disk) (path : String) : Prop where
  locate : ∀ place, e.locate path = .ok place ↔ d.locate path = .ok place
  target : ∀ place, e.target path = .ok place ↔ d.target path = .ok place

/-- A path leads to the same place on both disks, and the same stands there. -/
structure KeptAt (d e : Disk) (path : String) : Prop where
  locate : ∀ place, e.locate path = .ok place ↔ d.locate path = .ok place
  node : ∀ place, d.locate path = .ok place → e.node? place = d.node? place

/-- The file that can be written by a path, if one can, consists of certain lines. -/
def Holds (d : Disk) (path : String) (lines : List String) : Prop :=
  ∀ place, d.target path = .ok place → d.node? place = some (.file (Logger.content lines))

def addedTo (d : Disk) (path line : String) : Disk :=
  d.attempted (d.append path (Text.encode (line ++ "\n")))

def startedAt (d : Disk) (path line : String) : Disk :=
  d.attempted (d.replace path (Text.encode (line ++ "\n")))

variable {d e f : Disk} {path other line : String} {lines : List String} {places : Set Location}

/-! ## Paths that lead where they led -/

theorem SameWay.refl (d : Disk) (path : String) : d.SameWay d path := ⟨fun _ => Iff.rfl, fun _ => Iff.rfl⟩

theorem SameWay.trans (h : d.SameWay e path) (h' : e.SameWay f path) : d.SameWay f path :=
  ⟨fun place => (h'.locate place).trans (h.locate place),
    fun place => (h'.target place).trans (h.target place)⟩

theorem ChangedAt.sameWay (h : ChangedAt places d e) (path : String) : d.SameWay e path :=
  ⟨fun _ => h.locate_eq_ok_iff, fun _ => h.target_eq_ok_iff⟩

theorem KeptAt.refl (d : Disk) (path : String) : d.KeptAt d path := ⟨fun _ => Iff.rfl, fun _ _ => rfl⟩

theorem KeptAt.trans (h : d.KeptAt e path) (h' : e.KeptAt f path) : d.KeptAt f path :=
  ⟨fun place => (h'.locate place).trans (h.locate place), fun place hl =>
    (h'.node place ((h.locate place).mpr hl)).trans (h.node place hl)⟩

theorem KeptAt.sameWay (h : d.KeptAt e path) : d.SameWay e path := by
  refine ⟨h.locate, fun place => ?_⟩
  rw [target_eq_ok_iff, target_eq_ok_iff, h.locate]
  refine and_congr_right fun hl => ?_
  rw [h.node place hl]

theorem Apart.symm (h : d.Apart path other) : d.Apart other path := fun place ho hp => h place hp ho

theorem Apart.of_sameWay (h : d.Apart path other) (hp : d.SameWay e path) (ho : d.SameWay e other) :
    e.Apart path other :=
  fun place hl hl' => h place ((hp.locate place).mp hl) ((ho.locate place).mp hl')

theorem Apart.of_changedAt (h : d.Apart path other) (changed : ChangedAt places d e) : e.Apart path other :=
  h.of_sameWay (changed.sameWay path) (changed.sameWay other)

theorem ChangedAt.keptAt (h : ChangedAt places d e) (apart : ∀ place ∈ places, d.locate path ≠ .ok place) :
    d.KeptAt e path :=
  ⟨fun _ => h.locate_eq_ok_iff, fun place hl => h.elsewhere place fun hp => apart place hp hl⟩

/-! ## Contents -/

theorem Holds.of_keptAt (h : d.Holds path lines) (kept : d.KeptAt e path) : e.Holds path lines := by
  intro place ht
  have ht := (kept.sameWay.target place).mp ht
  rw [kept.node place (target_eq_ok_iff.mp ht).1]
  exact h place ht

theorem Holds.read (h : d.Holds path lines) {place : Location} (ht : d.target path = .ok place) :
    d.read path = .ok (Logger.content lines) := by
  obtain ⟨hl, -, slash, -⟩ := target_eq_ok_iff.mp ht
  exact read_eq_ok_iff.mpr ⟨place, hl, h place ht, slash⟩

theorem changedAt_addedTo (d : Disk) (path line : String) :
    ChangedAt (d.targets {path}) d (d.addedTo path line) :=
  d.changedAt_append path _

theorem changedAt_startedAt (d : Disk) (path line : String) :
    ChangedAt (d.targets {path}) d (d.startedAt path line) :=
  d.changedAt_replace path _

theorem Holds.of_changedAt (changed : ChangedAt places d e)
    (h : ∀ place, d.target path = .ok place → e.node? place = some (.file (Logger.content lines))) :
    e.Holds path lines :=
  fun place ht => h place (changed.target_eq_ok_iff.mp ht)

theorem holds_addedTo (h : d.Holds path lines) (line : String) :
    (d.addedTo path line).Holds path (lines ++ [line]) := by
  refine .of_changedAt (d.changedAt_addedTo path line) fun place ht => ?_
  have added : d.append path (Text.encode (line ++ "\n")) = _ := append_eq_ok_iff.mpr ⟨place, ht, rfl⟩
  rw [addedTo, added, attempted, node?_store (root_ne_of_target ht), if_pos rfl, contentAt, h place ht,
    Logger.content, Logger.content, List.flatMap_append, List.flatMap_singleton]

theorem holds_startedAt (d : Disk) (path line : String) : (d.startedAt path line).Holds path [line] := by
  refine .of_changedAt (d.changedAt_startedAt path line) fun place ht => ?_
  have replaced : d.replace path (Text.encode (line ++ "\n")) = _ := replace_eq_ok_iff.mpr ⟨place, ht, rfl⟩
  rw [startedAt, replaced, attempted, node?_store (root_ne_of_target ht), if_pos rfl, Logger.content,
    List.flatMap_singleton]

theorem read_addedTo {content : Bytes} (h : d.read path = .ok content) (other line : String) :
    ∃ rest, (d.addedTo other line).read path = .ok (content ++ rest) := by
  obtain ⟨place, hl, hn, slash⟩ := read_eq_ok_iff.mp h
  have here := (d.changedAt_addedTo other line).locate_ok hl
  simp only [read_eq_ok_iff, here, slash, Except.ok.injEq, and_true, exists_eq_left']
  cases ht : d.target other with
  | error e =>
      refine ⟨[], ?_⟩
      rw [addedTo, append, ht, List.append_nil]
      exact hn
  | ok place' =>
      have added : d.append other (Text.encode (line ++ "\n")) = _ := append_eq_ok_iff.mpr ⟨place', ht, rfl⟩
      rw [addedTo, added, attempted, node?_store (root_ne_of_target ht)]
      by_cases same : place = place'
      · subst same
        refine ⟨Text.encode (line ++ "\n"), ?_⟩
        rw [if_pos rfl, contentAt, hn]
      · exact ⟨[], by rw [if_neg same, hn, List.append_nil]⟩

/-! ## One file beside another -/

theorem KeptAt.of_changedAt (changed : ChangedAt (d.targets {other}) d e) (apart : d.Apart other path) :
    d.KeptAt e path :=
  changed.keptAt (locate_ne_of_apart fun _ hp => Set.mem_singleton_iff.mp hp ▸ apart)

theorem Holds.startedAt_other (h : d.Holds path lines) (apart : d.Apart other path) (line : String) :
    (d.startedAt other line).Holds path lines :=
  h.of_keptAt (.of_changedAt (d.changedAt_startedAt other line) apart)

theorem Holds.addedTo_other (h : d.Holds path lines) (apart : d.Apart other path) (line : String) :
    (d.addedTo other line).Holds path lines :=
  h.of_keptAt (.of_changedAt (d.changedAt_addedTo other line) apart)

/-- A line that is added to two files is there in both. -/
theorem Holds.addedTo_both {lines' : List String} (h : d.Holds path lines) (h' : d.Holds other lines')
    (apart : d.Apart path other) (line : String) :
    ((d.addedTo path line).addedTo other line).Holds path (lines ++ [line]) ∧
      ((d.addedTo path line).addedTo other line).Holds other (lines' ++ [line]) := by
  have later := apart.of_changedAt (d.changedAt_addedTo path line)
  exact ⟨(holds_addedTo h line).addedTo_other later.symm line,
    holds_addedTo (h'.addedTo_other apart line) line⟩

end Disk

/-! ## Runs -/

namespace Logger

theorem run_addLine (path line : String) (w : World) :
    (addLine path line).run w = ((), { w with disk := w.disk.addedTo path line }) := by
  rw [addLine, Script.run_bind, Script.appendLine, Script.run_append]
  rfl

theorem run_startFile (path title : String) (w : World) :
    (startFile path title).run w =
      ((), { w with
        disk := w.disk.startedAt path (banner title (w.clock w.looks))
        looks := w.looks + 1 }) := by
  rw [startFile, Script.run_bind, Script.run_bind, Script.writeText, Script.writeBytes, Script.run_replace]
  rfl

theorem run_start (errorLog debugLog : String) (w : World) :
    (start errorLog debugLog).run w =
      (.writing (Path.under w.disk.workingPath errorLog) (Path.under w.disk.workingPath debugLog),
        { w with
          disk := (w.disk.startedAt (Path.under w.disk.workingPath errorLog)
              (banner "Error" (w.clock w.looks))).startedAt (Path.under w.disk.workingPath debugLog)
                (banner "Debug" (w.clock (w.looks + 1)))
          looks := w.looks + 2 }) := by
  rw [start, Script.run_bind, Script.run_bind, run_startFile, Script.run_bind, run_startFile]
  rfl

theorem changedAt_start (errorLog debugLog : String) (w : World) :
    Disk.ChangedAt
      (w.disk.targets {Path.under w.disk.workingPath errorLog, Path.under w.disk.workingPath debugLog})
      w.disk ((start errorLog debugLog).run w).2.disk := by
  rw [run_start]
  have first := w.disk.changedAt_startedAt (Path.under w.disk.workingPath errorLog)
    (banner "Error" (w.clock w.looks))
  exact (first.mono (Disk.targets_mono _ (Set.singleton_subset_iff.mpr (Or.inl rfl)))).thenAt
    (Disk.changedAt_startedAt _ _ _) (Set.singleton_subset_iff.mpr (Or.inr rfl))

variable {errorLog debugLog : String}

theorem run_log (level message : String) (w : World) :
    ((writing errorLog debugLog).log level message).run w =
      ((), { w with
        disk := if level = errorLevel then
            (w.disk.addedTo debugLog (entry (w.clock w.looks) level message)).addedTo errorLog
              (entry (w.clock w.looks) level message)
          else w.disk.addedTo debugLog (entry (w.clock w.looks) level message)
        looks := w.looks + 1 }) := by
  rw [log, Script.run_bind, Script.run_bind, run_addLine]
  split
  · rw [run_addLine]
    rfl
  · rfl

theorem run_crash (message : String) (place : Option (String × Nat)) (calls : String) (w : World) :
    ((writing errorLog debugLog).crash message place calls).run w =
      ((), { w with
        disk := (w.disk.addedTo errorLog (crashReport (w.clock w.looks) message place calls)).addedTo debugLog
          (crashReport (w.clock w.looks) message place calls)
        looks := w.looks + 1 }) := by
  rw [crash, Script.run_bind, Script.run_bind, run_addLine, run_addLine]
  rfl

/-! ## Entries -/

structure Entry where
  line : String
  /-- Whether it goes to both logs. -/
  alarm : Bool

def errorLines (m : Moment) (entries : List Entry) : List String :=
  ("=== Error Log Started: " ++ m.stamp ++ " ===") :: (entries.filter (·.alarm)).map (·.line)

def debugLines (m : Moment) (entries : List Entry) : List String :=
  ("=== Debug Log Started: " ++ m.stamp ++ " ===") :: entries.map (·.line)

/-- Two logs with what was entered into them since they were started. -/
structure Logged (errorLog debugLog : String) (m n : Moment) (entries : List Entry) (d : Disk) : Prop where
  apart : d.Apart errorLog debugLog
  error : d.Holds errorLog (errorLines m entries)
  debug : d.Holds debugLog (debugLines n entries)

variable {base : String} {m n : Moment} {entries : List Entry} {d e : Disk} {w : World}

theorem errorLines_append (m : Moment) (entries : List Entry) (line : String) (alarm : Bool) :
    errorLines m (entries ++ [⟨line, alarm⟩]) = errorLines m entries ++ if alarm then [line] else [] := by
  cases alarm <;> simp [errorLines]

theorem debugLines_append (m : Moment) (entries : List Entry) (line : String) (alarm : Bool) :
    debugLines m (entries ++ [⟨line, alarm⟩]) = debugLines m entries ++ [line] := by
  simp [debugLines]

theorem errorLines_of_quiet (m : Moment) (quiet : ∀ entry ∈ entries, entry.alarm = false) :
    errorLines m entries = ["=== Error Log Started: " ++ m.stamp ++ " ==="] := by
  rw [errorLines, List.filter_eq_nil_iff.mpr fun entry h => by simp [quiet entry h], List.map_nil]

theorem Logged.of_keptAt (h : Logged errorLog debugLog m n entries d)
    (kept : ∀ path ∈ ({errorLog, debugLog} : Set String), d.KeptAt e path) :
    Logged errorLog debugLog m n entries e := by
  have error := kept errorLog (Or.inl rfl)
  have debug := kept debugLog (Or.inr rfl)
  exact ⟨h.apart.of_sameWay error.sameWay debug.sameWay, h.error.of_keptAt error, h.debug.of_keptAt debug⟩

theorem Logged.note (h : Logged errorLog debugLog m n entries d) (line : String) :
    Logged errorLog debugLog m n (entries ++ [⟨line, false⟩]) (d.addedTo debugLog line) := by
  refine ⟨h.apart.of_changedAt (d.changedAt_addedTo debugLog line), ?_, ?_⟩
  · rw [errorLines_append, if_neg Bool.false_ne_true, List.append_nil]
    exact h.error.addedTo_other h.apart.symm line
  · rw [debugLines_append]
    exact Disk.holds_addedTo h.debug line

/-- It makes no difference to which of the logs the line of an alarm is added first. -/
theorem Logged.alarm (h : Logged errorLog debugLog m n entries d) (line : String) :
    Logged errorLog debugLog m n (entries ++ [⟨line, true⟩])
        ((d.addedTo debugLog line).addedTo errorLog line) ∧
      Logged errorLog debugLog m n (entries ++ [⟨line, true⟩])
        ((d.addedTo errorLog line).addedTo debugLog line) := by
  have both := h.debug.addedTo_both h.error h.apart.symm line
  have both' := h.error.addedTo_both h.debug h.apart line
  have apart (first second : String) :
      ((d.addedTo first line).addedTo second line).Apart errorLog debugLog :=
    (h.apart.of_changedAt (d.changedAt_addedTo first line)).of_changedAt
      (Disk.changedAt_addedTo _ second line)
  constructor
  · refine ⟨apart _ _, ?_, ?_⟩
    · rw [errorLines_append]
      exact both.2
    · rw [debugLines_append]
      exact both.1
  · refine ⟨apart _ _, ?_, ?_⟩
    · rw [errorLines_append]
      exact both'.1
    · rw [debugLines_append]
      exact both'.2

theorem Logged.after_error (h : Logged errorLog debugLog m n entries w.disk) (message : String) :
    Logged errorLog debugLog m n (entries ++ [⟨entry (w.clock w.looks) errorLevel message, true⟩])
      ((writing errorLog debugLog).after errorLevel message w).disk := by
  rw [after, run_log, if_pos rfl]
  exact (h.alarm _).1

theorem logged_start (here : w.disk.workingPath = base)
    (apart : w.disk.Apart (Path.under base errorLog) (Path.under base debugLog)) :
    ∃ v, (Logger.start errorLog debugLog).run w =
        (.writing (Path.under base errorLog) (Path.under base debugLog), v) ∧
      v.clock = w.clock ∧ v.looks = w.looks + 2 ∧
      Logged (Path.under base errorLog) (Path.under base debugLog) (w.clock w.looks)
        (w.clock (w.looks + 1)) [] v.disk := by
  rw [run_start, here]
  refine ⟨_, rfl, rfl, rfl, ?_⟩
  have first := w.disk.changedAt_startedAt (Path.under base errorLog) (banner "Error" (w.clock w.looks))
  have later := apart.of_changedAt first
  exact ⟨later.of_changedAt (Disk.changedAt_startedAt _ _ _),
    (w.disk.holds_startedAt _ _).startedAt_other later.symm _, Disk.holds_startedAt _ _ _⟩

end Logger

end MembershipGrid
