import MembershipGrid.Proofs.Lemmas.Logs

/-!
# The logs of a run

Logging may start at any time of a run, and start again with other files. From the last start on, what is
in the two logs is given by what was called since, and each of them by itself.
-/

namespace MembershipGrid.Logger

/-- What happens to the logs in a run, and to the disk besides. -/
inductive Event where
  | start (errorLog debugLog : String)
  | log (level message : String)
  /-- A crash is reported, with its text if it came with one. -/
  | crash (text : Option String) (place : Option (String × Nat)) (calls : String)
  /-- Something else is done with the disk. -/
  | elsewhere (change : Disk → Disk)

namespace Event

def isElsewhere : Event → Bool
  | .elsewhere _ => true
  | _ => false

def step (s : Logger × World) : Event → Logger × World
  | .start errorLog debugLog => (Logger.start errorLog debugLog).run s.2
  | .log level message => (s.1, ((s.1.log level message).run s.2).2)
  | .crash text place calls => (s.1, ((s.1.crash (crashMessage text) place calls).run s.2).2)
  | .elsewhere change => (s.1, { s.2 with disk := change s.2.disk })

def run (events : List Event) (s : Logger × World) : Logger × World := events.foldl step s

/-- What is told of a crash after its message: where it was, if that is known, and on lines of their own the
calls that led to it, if they were recorded. -/
def crashDetails (place : Option (String × Nat)) (calls : String) : String :=
  let recorded := Text.trim calls.toList
  place.elim "" (fun (file, line) => " (" ++ file ++ ":" ++ line.repr ++ ")") ++
    if recorded = [] ∨ "disabled backtrace".toList <+: recorded then "" else "\n" ++ String.ofList recorded

/-- The entry that a call makes at a certain moment. -/
def made (m : Moment) : Event → Option Entry
  | .log level message => some ⟨"[" ++ m.timeOfDay ++ "][" ++ level ++ "] " ++ message, level = "ERROR"⟩
  | .crash text place calls =>
    some ⟨"[" ++ m.timeOfDay ++ "][PANIC] " ++ text.getD "non-string panic payload" ++
      crashDetails place calls, true⟩
  | .start .. => none
  | .elsewhere _ => none

/-- The entries that are made by events, with the clock looked at for each. -/
def journal (clock : Nat → Moment) (looks : Nat) : List Event → List Entry
  | [] => []
  | event :: rest =>
    match event.made (clock looks) with
    | none => journal clock looks rest
    | some entry => entry :: journal clock (looks + 1) rest

/-- The logs that are named by events, as they are found from the directory `base`. -/
def logs (base : String) (events : List Event) : Set String :=
  {path | ∃ errorLog debugLog, .start errorLog debugLog ∈ events ∧
    (path = Path.under base errorLog ∨ path = Path.under base debugLog)}

/-- An event that, unless it is one of logging, leaves certain files and the working directory alone. -/
def Spares (paths : Set String) (d : Disk) : Event → Prop
  | .elsewhere change =>
    (change d).workingDirectory = d.workingDirectory ∧ ∀ path ∈ paths, d.KeptAt (change d) path
  | _ => True

def AllSpare (paths : Set String) : List Event → Logger × World → Prop
  | [], _ => True
  | event :: rest, s => event.Spares paths s.2.disk ∧ AllSpare paths rest (event.step s)

/-- The two logs of each start are distinct files, and nothing but logging writes to some files, all those
logs among them. -/
structure Undisturbed (alone : Set String) (s : Logger × World) (events : List Event) : Prop where
  named : logs s.2.disk.workingPath events ⊆ alone
  apart : ∀ errorLog debugLog, .start errorLog debugLog ∈ events →
    s.2.disk.Apart (Path.under s.2.disk.workingPath errorLog) (Path.under s.2.disk.workingPath debugLog)
  spared : AllSpare alone events s

/-- The files that an event may write. -/
def written (s : Logger × World) : Event → Set String
  | .start errorLog debugLog =>
    {Path.under s.2.disk.workingPath errorLog, Path.under s.2.disk.workingPath debugLog}
  | .log .. => s.1.files
  | .crash .. => s.1.files
  | .elsewhere _ => ∅

/-- What is left as it was in a world where, among certain files, only some were written. -/
structure Leaves (paths written : Set String) (w v : World) : Prop where
  clock : v.clock = w.clock
  workingDirectory : v.disk.workingDirectory = w.disk.workingDirectory
  sameWay : ∀ path ∈ paths, w.disk.SameWay v.disk path
  kept : ∀ path ∈ paths, (∀ log ∈ written, w.disk.Apart log path) → w.disk.KeptAt v.disk path

variable {paths few more : Set String} {w v u : World} {s : Logger × World} {event : Event}
  {events before after : List Event} {errorLog debugLog : String} {m n : Moment}
  {entries : List Entry}

/-! ## What an event leaves -/

theorem Leaves.refl (paths written : Set String) (w : World) : Leaves paths written w w :=
  ⟨rfl, rfl, fun path _ => .refl _ path, fun path _ _ => .refl _ path⟩

theorem Leaves.mono (h : Leaves paths few w v) (sub : few ⊆ more) : Leaves paths more w v :=
  ⟨h.clock, h.workingDirectory, h.sameWay, fun path hp apart =>
    h.kept path hp fun log hl => apart log (sub hl)⟩

theorem Leaves.trans (h : Leaves paths more w v) (h' : Leaves paths more v u) (sub : more ⊆ paths) :
    Leaves paths more w u := by
  refine ⟨h'.clock.trans h.clock, h'.workingDirectory.trans h.workingDirectory, fun path hp =>
    (h.sameWay path hp).trans (h'.sameWay path hp), fun path hp apart => ?_⟩
  refine (h.kept path hp apart).trans (h'.kept path hp fun log hl => ?_)
  exact (apart log hl).of_sameWay (h.sameWay log (sub hl)) (h.sameWay path hp)

theorem Leaves.workingPath (h : Leaves paths more w v) : v.disk.workingPath = w.disk.workingPath := by
  rw [Disk.workingPath, h.workingDirectory, Disk.workingPath]

theorem Leaves.of_changedAt (hc : v.clock = w.clock)
    (changed : Disk.ChangedAt (w.disk.targets more) w.disk v.disk) : Leaves paths more w v :=
  ⟨hc, changed.workingDirectory, fun path _ => changed.sameWay path, fun _ _ apart =>
    changed.keptAt (Disk.locate_ne_of_apart apart)⟩

theorem leaves_step (spared : event.Spares paths s.2.disk) :
    Leaves paths (event.written s) s.2 (event.step s).2 := by
  cases event with
  | start errorLog debugLog =>
      exact .of_changedAt (Script.run_clock _ _) (changedAt_start errorLog debugLog s.2)
  | log level message => exact .of_changedAt (Script.run_clock _ _) (s.1.changedAt_after level message s.2)
  | crash text place calls =>
      exact .of_changedAt (Script.run_clock _ _)
        (Script.WritesOnly.run (writesOnly_crash s.1 _ place calls) s.2)
  | elsewhere change =>
      exact ⟨rfl, spared.1, fun path hp => (spared.2 path hp).sameWay, fun path hp _ => spared.2 path hp⟩

theorem files_step_subset (event : Event) (s : Logger × World) :
    (event.step s).1.files ⊆ s.1.files ∪ event.written s := by
  cases event with
  | start errorLog debugLog =>
      rw [step, run_start]
      exact Set.subset_union_right
  | log | crash | elsewhere => exact Set.subset_union_left

theorem written_subset (event : Event) (events : List Event) (s : Logger × World) :
    event.written s ⊆ s.1.files ∪ logs s.2.disk.workingPath (event :: events) := by
  cases event with
  | start errorLog debugLog => exact fun path hp => Or.inr ⟨_, _, List.mem_cons_self, hp⟩
  | log | crash => exact Set.subset_union_left
  | elsewhere => exact Set.empty_subset _

theorem logs_mono (base : String) (sub : before ⊆ after) : logs base before ⊆ logs base after :=
  fun _ ⟨errorLog, debugLog, h, hp⟩ => ⟨errorLog, debugLog, sub h, hp⟩

theorem leaves_run (sub : s.1.files ∪ logs s.2.disk.workingPath events ⊆ paths)
    (spared : AllSpare paths events s) :
    Leaves paths (s.1.files ∪ logs s.2.disk.workingPath events) s.2 (run events s).2 := by
  induction events generalizing s with
  | nil => exact .refl _ _ _
  | cons event events ih =>
      -- the later events are found from the same directory, and log to what is named now or was in use
      have first := leaves_step spared.1
      have now := written_subset event events s
      have later : (event.step s).1.files ∪ logs (event.step s).2.disk.workingPath events ⊆
          s.1.files ∪ logs s.2.disk.workingPath (event :: events) := by
        rw [first.workingPath]
        refine Set.union_subset ?_ ((logs_mono _ (List.subset_cons_self _ _)).trans Set.subset_union_right)
        exact (files_step_subset event s).trans (Set.union_subset Set.subset_union_left now)
      exact (first.mono now).trans ((ih (later.trans sub) spared.2).mono later) sub

/-- Once logging starts again, the logs that it had before are no longer written. -/
theorem leaves_restart (sub : logs s.2.disk.workingPath (.start errorLog debugLog :: after) ⊆ paths)
    (spared : AllSpare paths (.start errorLog debugLog :: after) s) :
    Leaves paths (logs s.2.disk.workingPath (.start errorLog debugLog :: after)) s.2
      (run (.start errorLog debugLog :: after) s).2 := by
  -- a start does not ask where entries went before
  have left := leaves_run (s := (.silent, s.2)) ((Set.empty_union _).subset.trans sub) spared
  exact left.mono (Set.empty_union _).subset

/-! ## What is entered -/

theorem crashReport_eq (m : Moment) (text : Option String) (place : Option (String × Nat)) (calls : String) :
    crashReport m (crashMessage text) place calls =
      "[" ++ m.timeOfDay ++ "][PANIC] " ++ text.getD "non-string panic payload" ++ crashDetails place calls := by
  have details : crashDetails place calls = crashPlace place ++ crashCalls calls := by
    cases place <;> rfl
  have head : "][" ++ ("PANIC" ++ "] ") = "][PANIC] " := by decide
  simp only [crashReport, crashMessage, entry, details, ← head, String.append_assoc]

theorem logged_step (h : Logged errorLog debugLog m n entries w.disk)
    (sub : ({errorLog, debugLog} : Set String) ⊆ paths) (spared : event.Spares paths w.disk)
    (call : ∀ errorLog debugLog, event ≠ .start errorLog debugLog) :
    ∃ v, event.step (.writing errorLog debugLog, w) = (.writing errorLog debugLog, v) ∧ v.clock = w.clock ∧
      v.looks = w.looks + (event.made (w.clock w.looks)).toList.length ∧
      Logged errorLog debugLog m n (entries ++ (event.made (w.clock w.looks)).toList) v.disk := by
  cases event with
  | start => exact absurd rfl (call _ _)
  | log level message =>
      rw [Event.step, run_log]
      refine ⟨_, rfl, rfl, rfl, ?_⟩
      rw [made, errorLevel]
      split
      · rename_i alarm
        rw [decide_eq_true alarm]
        exact (h.alarm _).1
      · rename_i quiet
        rw [decide_eq_false quiet]
        exact h.note _
  | crash text place calls =>
      rw [Event.step, run_crash, crashReport_eq]
      exact ⟨_, rfl, rfl, rfl, (h.alarm _).2⟩
  | elsewhere change =>
      refine ⟨_, rfl, rfl, rfl, ?_⟩
      rw [made, Option.toList_none, List.append_nil]
      exact h.of_keptAt fun path hp => spared.2 path (sub hp)

theorem journal_cons (clock : Nat → Moment) (looks : Nat) (event : Event) (events : List Event) :
    journal clock looks (event :: events) =
      (event.made (clock looks)).toList ++
        journal clock (looks + (event.made (clock looks)).toList.length) events := by
  rw [journal]
  cases event.made (clock looks) <;> rfl

/-- What happens after the last start adds its entries to the logs, one after the other. -/
theorem logged_run (h : Logged errorLog debugLog m n entries w.disk)
    (sub : ({errorLog, debugLog} : Set String) ⊆ paths)
    (spared : AllSpare paths events (.writing errorLog debugLog, w))
    (last : ∀ errorLog debugLog, .start errorLog debugLog ∉ events) :
    ∃ v, Event.run events (.writing errorLog debugLog, w) = (.writing errorLog debugLog, v) ∧
      Logged errorLog debugLog m n (entries ++ journal w.clock w.looks events) v.disk := by
  -- the journal looks at the clock from where the world has got to, so both move on together
  induction events generalizing w entries with
  | nil =>
      rw [journal, List.append_nil]
      exact ⟨w, rfl, h⟩
  | cons event events ih =>
      obtain ⟨now, later⟩ := spared
      obtain ⟨v, hs, clock, looks, entered⟩ :=
        logged_step h sub now fun e d he => last e d (he ▸ List.mem_cons_self)
      rw [hs] at later
      obtain ⟨u, hr, ended⟩ := ih entered later fun e d he => last e d (List.mem_cons_of_mem _ he)
      refine ⟨u, (congrArg (Event.run events) hs).trans hr, ?_⟩
      rw [journal_cons, ← List.append_assoc, ← looks, ← clock]
      rwa [clock, looks] at ended ⊢

/-! ## Whole runs -/

theorem run_silent (none : ∀ errorLog debugLog, .start errorLog debugLog ∉ events) (w : World) :
    run events (.silent, w) = run (events.filter isElsewhere) (.silent, w) := by
  induction events generalizing w with
  | nil => rfl
  | cons event events ih =>
      have none' : ∀ errorLog debugLog, .start errorLog debugLog ∉ events :=
        fun e d he => none e d (List.mem_cons_of_mem _ he)
      cases event with
      | start => exact absurd List.mem_cons_self (none _ _)
      | log | crash => exact ih none' w
      | elsewhere change => exact ih none' { w with disk := change w.disk }

theorem step_alike {t : Logger × World} (silent : s.1 = .silent ↔ t.1 = .silent)
    (looks : s.2.looks = t.2.looks) (event : Event) :
    ((event.step s).1 = .silent ↔ (event.step t).1 = .silent) ∧
      (event.step s).2.looks = (event.step t).2.looks := by
  obtain ⟨l, w⟩ := s
  obtain ⟨k, v⟩ := t
  cases event with
  | start errorLog debugLog =>
      rw [step, step, run_start, run_start]
      exact ⟨⟨nofun, nofun⟩, congrArg (· + 2) looks⟩
  | elsewhere change => exact ⟨silent, looks⟩
  | log | crash =>
      refine ⟨silent, ?_⟩
      cases l with
      | silent =>
          cases silent.mp rfl
          exact looks
      | writing =>
          cases k with
          | silent => cases silent.mpr rfl
          | writing =>
              simp only [step, run_log, run_crash]
              exact congrArg (· + 1) looks

theorem looks_run {t : Logger × World} (silent : s.1 = .silent ↔ t.1 = .silent)
    (looks : s.2.looks = t.2.looks) : (run events s).2.looks = (run events t).2.looks := by
  induction events generalizing s t with
  | nil => exact looks
  | cons event events ih =>
      obtain ⟨silent', looks'⟩ := step_alike silent looks event
      exact ih silent' looks'

theorem clock_run (events : List Event) (s : Logger × World) : (run events s).2.clock = s.2.clock := by
  induction events generalizing s with
  | nil => rfl
  | cons event events ih =>
      refine (ih _).trans ?_
      cases event with
      | start | log | crash => exact Script.run_clock _ _
      | elsewhere => rfl

/-- What two logs hold in the end of a run that started them. -/
structure Told (u v : World) (errorLog debugLog : String) (after : List Event) : Prop where
  error : ∀ place, u.disk.target errorLog = .ok place → v.disk.read errorLog =
    .ok (content (errorLines (u.clock u.looks) (journal u.clock (u.looks + 2) after)))
  debug : ∀ place, u.disk.target debugLog = .ok place → v.disk.read debugLog =
    .ok (content (debugLines (u.clock (u.looks + 1)) (journal u.clock (u.looks + 2) after)))

variable {l k : Logger} {alone : Set String}

theorem told_of_run (h : Undisturbed alone (l, u) (.start errorLog debugLog :: after))
    (ended : run (.start errorLog debugLog :: after) (l, u) = (k, v))
    (last : ∀ errorLog debugLog, .start errorLog debugLog ∉ after) :
    k = .writing (Path.under u.disk.workingPath errorLog) (Path.under u.disk.workingPath debugLog) ∧
      Told u v (Path.under u.disk.workingPath errorLog) (Path.under u.disk.workingPath debugLog) after := by
  have sub : ({Path.under u.disk.workingPath errorLog, Path.under u.disk.workingPath debugLog} :
      Set String) ⊆ alone :=
    fun path hp => h.named ⟨_, _, List.mem_cons_self, hp⟩
  obtain ⟨x, started, clock, looks, banners⟩ := logged_start rfl (h.apart _ _ List.mem_cons_self)
  obtain ⟨-, spared⟩ := h.spared
  rw [step, started] at spared
  obtain ⟨y, ran, entered⟩ := logged_run banners sub spared last
  cases ended.symm.trans ((congrArg (run after) started).trans ran)
  have way := leaves_restart h.named h.spared
  rw [ended] at way
  rw [clock, looks, List.nil_append] at entered
  refine ⟨rfl, ⟨fun place ht => ?_, fun place ht => ?_⟩⟩
  · exact entered.error.read (((way.sameWay _ (sub (Or.inl rfl))).target place).mpr ht)
  · exact entered.debug.read (((way.sameWay _ (sub (Or.inr rfl))).target place).mpr ht)

/-! ## The logs -/

/-- Nothing is written before logging starts. From a start on, a file that nothing else writes, such as a log
of an earlier start, stays as it is unless it is named again. After the last start, a log that can be written
holds its banner and the entries that were made since, in the order of the calls, the error log only those
of alarms; what it holds does not depend on whether the other log can be written. -/
theorem logs_hold_what_was_called {w u v : World} {l k : Logger} {alone : Set String}
    (before after : List Event) (errorLog debugLog : String) (begun : run before (.silent, w) = (l, u))
    (undisturbed : Undisturbed alone (l, u) (.start errorLog debugLog :: after))
    (ended : run (.start errorLog debugLog :: after) (l, u) = (k, v)) :
    (∀ calls : List Event, (∀ errorLog debugLog, .start errorLog debugLog ∉ calls) →
      run calls (.silent, w) = run (calls.filter isElsewhere) (.silent, w)) ∧
    (∀ path ∈ alone,
      (∀ log ∈ logs u.disk.workingPath (.start errorLog debugLog :: after), u.disk.Apart log path) →
        u.disk.KeptAt v.disk path) ∧
    ((∀ errorLog debugLog, .start errorLog debugLog ∉ after) →
      k = .writing (Path.under u.disk.workingPath errorLog) (Path.under u.disk.workingPath debugLog) ∧
      Told u v (Path.under u.disk.workingPath errorLog) (Path.under u.disk.workingPath debugLog) after ∧
      ∀ w' u' v' l' k' alone', w'.clock = w.clock → w'.looks = w.looks →
        run before (.silent, w') = (l', u') → u'.disk.workingDirectory = u.disk.workingDirectory →
        Undisturbed alone' (l', u') (.start errorLog debugLog :: after) →
        run (.start errorLog debugLog :: after) (l', u') = (k', v') →
        ∀ path ∈ k.files, (∃ place, u.disk.target path = .ok place) →
          (∃ place, u'.disk.target path = .ok place) → v'.disk.read path = v.disk.read path) := by
  refine ⟨fun calls none => run_silent none w, fun path hp unnamed => ?_, fun last => ?_⟩
  · have left := leaves_restart undisturbed.named undisturbed.spared
    rw [ended] at left
    exact left.kept path hp unnamed
  · obtain ⟨rfl, told⟩ := told_of_run undisturbed ended last
    refine ⟨rfl, told, ?_⟩
    intro w' u' v' l' k' alone' clock looks begun' directory undisturbed' ended'
    rintro path hp ⟨place, ht⟩ ⟨place', ht'⟩
    have base : u'.disk.workingPath = u.disk.workingPath := by
      rw [Disk.workingPath, directory, Disk.workingPath]
    have ticks : u'.clock = u.clock := by
      have same := (clock_run before (.silent, w')).trans (clock.trans (clock_run before (.silent, w)).symm)
      rwa [begun', begun] at same
    have moment : u'.looks = u.looks := by
      have same : (run before (.silent, w')).2.looks = (run before (.silent, w)).2.looks :=
        looks_run Iff.rfl looks
      rwa [begun', begun] at same
    obtain ⟨-, told'⟩ := told_of_run undisturbed' ended' last
    obtain ⟨error, debug⟩ := told'
    rw [base, ticks, moment] at error debug
    rcases hp with rfl | rfl
    · exact (error place' ht').trans (told.error place ht).symm
    · exact (debug place' ht').trans (told.debug place ht).symm

def bareDesk : World where
  disk := ⟨["desk"], [(["desk"], .directory)]⟩
  clock := fun looks => ⟨2024, 1, 1, 0, 0, looks, 0, 0⟩
  looks := 0

def noted (d : Disk) : Disk := d.store ["desk", "note"] (.file [])

/-- Something is noted elsewhere, and then there are entries of every kind. -/
def laterCalls : List Event :=
  [.elsewhere noted, .log "INFO" "begun", .log "ERROR" "lost", .crash (some "boom") (some ("main", 7)) " at f\n",
    .crash none none "disabled backtrace"]

theorem workingDirectory_noted (d : Disk) : (noted d).workingDirectory = d.workingDirectory := rfl

theorem keptAt_noted {d : Disk} {path : String} (free : d.node? ["desk", "note"] ≠ some .directory)
    (elsewhere : d.locate path ≠ .ok ["desk", "note"]) : d.KeptAt (noted d) path :=
  (Disk.changedAt_store (by decide) free []).keptAt fun _ here => here ▸ elsewhere

theorem undisturbed_bareDesk (errorLog : String) (either : errorLog = "gone/e.log" ∨ errorLog = "e.log") :
    Undisturbed {Path.under "/desk" errorLog, "/desk/d.log"} (.silent, bareDesk)
      (.start errorLog "d.log" :: laterCalls) := by
  have only {first second : String} (h : Event.start first second ∈ .start errorLog "d.log" :: laterCalls) :
      first = errorLog ∧ second = "d.log" := by
    simpa [laterCalls] using h
  have kept : ∀ path ∈ ({Path.under "/desk" errorLog, "/desk/d.log"} : Set String),
      (step (.silent, bareDesk) (.start errorLog "d.log")).2.disk.KeptAt
        (noted (step (.silent, bareDesk) (.start errorLog "d.log")).2.disk) path := by
    rintro path hp
    obtain rfl | rfl := either <;> obtain rfl | rfl := hp <;> exact keptAt_noted (by decide) (by decide)
  refine ⟨?_, ?_, ?_⟩
  · rintro path ⟨first, second, h, hp⟩
    obtain ⟨rfl, rfl⟩ := only h
    exact hp
  · intro first second h place hl
    obtain ⟨rfl, rfl⟩ := only h
    obtain rfl | rfl := either <;> cases hl
    decide
  · simp only [laterCalls, AllSpare, Spares, true_and, and_true]
    exact ⟨workingDirectory_noted _, kept⟩

theorem logs_hold_what_was_called_bareDesk :
    (∃ v, run (.start "gone/e.log" "d.log" :: laterCalls) (.silent, bareDesk) =
        (.writing "/desk/gone/e.log" "/desk/d.log", v) ∧
      v.disk.read "/desk/d.log" = .ok (Text.encode ("=== Debug Log Started: 2024-01-01 00:00:01 +00:00 ===\n" ++
        "[00:00:02.000][INFO] begun\n[00:00:03.000][ERROR] lost\n" ++
        "[00:00:04.000][PANIC] boom (main:7)\nat f\n[00:00:05.000][PANIC] non-string panic payload\n"))) ∧
    ∃ v, run (.start "e.log" "d.log" :: laterCalls) (.silent, bareDesk) =
        (.writing "/desk/e.log" "/desk/d.log", v) ∧
      v.disk.read "/desk/e.log" = .ok (Text.encode ("=== Error Log Started: 2024-01-01 00:00:00 +00:00 ===\n" ++
        "[00:00:03.000][ERROR] lost\n" ++
        "[00:00:04.000][PANIC] boom (main:7)\nat f\n[00:00:05.000][PANIC] non-string panic payload\n")) := by
  have told (errorLog : String) (either : errorLog = "gone/e.log" ∨ errorLog = "e.log") :
      ∃ v, run (.start errorLog "d.log" :: laterCalls) (.silent, bareDesk) =
          (.writing (Path.under "/desk" errorLog) "/desk/d.log", v) ∧
        Told bareDesk v (Path.under "/desk" errorLog) "/desk/d.log" laterCalls := by
    obtain ⟨k, v, ended⟩ : ∃ k v, run (.start errorLog "d.log" :: laterCalls) (.silent, bareDesk) = (k, v) :=
      ⟨_, _, (Prod.eta _).symm⟩
    obtain ⟨-, -, ends⟩ := logs_hold_what_was_called [.log "ERROR" "early"] _ _ _ rfl
      (undisturbed_bareDesk errorLog either) ended
    obtain ⟨rfl, told, -⟩ := ends (by simp [laterCalls])
    exact ⟨v, ended, told⟩
  obtain ⟨v, ran, unopened⟩ := told "gone/e.log" (.inl rfl)
  obtain ⟨u, ran', opened⟩ := told "e.log" (.inr rfl)
  have debug := unopened.debug ["desk", "d.log"] rfl
  have error := opened.error ["desk", "e.log"] rfl
  exact ⟨⟨v, ran, debug.trans (by decide +kernel)⟩, u, ran', error.trans (by decide +kernel)⟩

end MembershipGrid.Logger.Event
