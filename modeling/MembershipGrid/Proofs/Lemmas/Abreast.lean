import MembershipGrid.Proofs.Repeating

/-!
# Runs side by side

A script that is run from two worlds keeps a relation between them if it answers the same from both and the
worlds that it leaves stand in the relation again (`Keeps`). A command keeps every relation that its log
entries and its writing keep and that tells nothing apart in the files it reads (`Admits`). One such
relation is that of two disks that are alike (`Abreast`).
-/

namespace MembershipGrid

variable {α β ε : Type} {I : World → World → Prop}

namespace Script

/-- Run from two worlds that stand in a relation, a script answers the same, and the relation holds again. -/
def Keeps (I : World → World → Prop) (s : Script α) : Prop :=
  ∀ w w' : World, I w w' → (s.run w').1 = (s.run w).1 ∧ I (s.run w).2 (s.run w').2

variable {s : Script α}

/-! ## Composition -/

theorem keeps_pure (a : α) : (pure a : Script α).Keeps I := fun _ _ h => ⟨rfl, h⟩

/-- What follows a script has to keep a relation only for answers that the script can give. -/
theorem Keeps.bind_answers {f : α → Script β} (hs : s.Keeps I)
    (hf : ∀ w w', I w w' → (f (s.run w).1).Keeps I) : (s >>= f).Keeps I := by
  intro w w' h
  obtain ⟨answer, kept⟩ := hs w w' h
  rw [run_bind, run_bind, answer]
  exact hf w w' h _ _ kept

theorem Keeps.bind {f : α → Script β} (hs : s.Keeps I) (hf : ∀ a, (f a).Keeps I) : (s >>= f).Keeps I :=
  hs.bind_answers fun _ _ _ => hf _

theorem Keeps.bindExcept {s : ExceptT ε Script α} {f : α → ExceptT ε Script β} (hs : s.run.Keeps I)
    (hf : ∀ a, (f a).run.Keeps I) : (s >>= f).run.Keeps I := by
  rw [ExceptT.run_bind]
  refine hs.bind fun outcome => ?_
  cases outcome with
  | error e => exact keeps_pure _
  | ok a => exact hf a

theorem Keeps.map (hs : s.Keeps I) (f : α → β) : (Functor.map f s : Script β).Keeps I := by
  rw [← bind_pure_comp]
  exact hs.bind fun _ => keeps_pure _

theorem Keeps.lift (hs : s.Keeps I) : (liftM s : ExceptT ε Script α).run.Keeps I := hs.map Except.ok

/-- What only looks at files keeps a relation that tells nothing apart in what it finds. -/
theorem keeps_of_run (find : Disk → α) (ran : ∀ w, s.run w = (find w.disk, w))
    (found : ∀ w w', I w w' → find w'.disk = find w.disk) : s.Keeps I := by
  intro w w' h
  rw [ran, ran]
  exact ⟨found w w' h, h⟩

end Script

/-! ## Steps -/

theorem Grid.onDisk_congr {d e : Disk} {path : String} (h : e.read path = d.read path) :
    Grid.onDisk e path = Grid.onDisk d path := by
  rw [Grid.onDisk, Grid.onDisk, Disk.text, Disk.text, h]

theorem Comparison.onDisk_congr {d e : Disk} {left right : String} (hl : e.read left = d.read left)
    (hr : e.read right = d.read right) : Comparison.onDisk e left right = Comparison.onDisk d left right := by
  rw [Comparison.onDisk, Comparison.onDisk, Grid.onDisk_congr hl, Grid.onDisk_congr hr]

section Writing

variable {path : String} (written : ∀ content, (Script.writeBytes path content).Keeps I)
include written

theorem Raster.keeps_writeImage (content : Bytes) : (Raster.writeImage path content).run.Keeps I := by
  refine Script.Keeps.bindExcept (written content).lift fun outcome => ?_
  cases outcome <;> exact Script.keeps_pure _

theorem Raster.keeps_save (r : Raster) : (r.save path).run.Keeps I := by
  have image := Raster.keeps_writeImage written
  rw [Raster.save]
  split
  · exact Script.keeps_pure _
  · split
    · exact Script.keeps_pure _
    · rw [Raster.write]
      split_ifs
      · exact (image _).bindExcept fun _ => Script.keeps_pure _
      · exact (image _).bindExcept fun _ => Script.keeps_pure _
      · exact image _

end Writing

/-! ## Commands -/

/-- What a command may do without breaking a relation between two worlds: add entries that are no errors,
read some files and write others. -/
structure Logger.Admits (I : World → World → Prop) (l : Logger) (inputs outputs : Set String) : Prop where
  logs : ∀ level, level ≠ errorLevel → ∀ message, (l.log level message).Keeps I
  reads : ∀ path ∈ inputs, ∀ w w', I w w' → w'.disk.read path = w.disk.read path
  writes : ∀ path ∈ outputs, ∀ content, (Script.writeBytes path content).Keeps I

namespace Job

variable {l : Logger} {inputs outputs : Set String}

theorem keeps_fileStep (about : String) {s : Script (Except StorageError α)} (hs : s.Keeps I) :
    (fileStep about s).run.Keeps I :=
  hs.map _

theorem keeps_gridStep (about : String) {s : ExceptT GridError Script α} (hs : s.run.Keeps I) :
    (gridStep about s).run.Keeps I :=
  hs.map _

theorem keeps_paint [Colored α] (t : Table α) : (paint t).run.Keeps I := Script.keeps_pure _

variable (h : l.Admits I inputs outputs)
include h

theorem keeps_info (message : String) : (liftM (l.info message) : Job Unit).run.Keeps I :=
  (h.logs "INFO" (by decide) message).lift

theorem keeps_writeText {path : String} (hp : path ∈ outputs) (text : String) :
    (writeText path text).run.Keeps I :=
  keeps_fileStep _ (h.writes path hp _)

theorem keeps_ofFile {path : String} (hp : path ∈ inputs) : (Grid.ofFile path).run.Keeps I :=
  Script.keeps_of_run (Grid.onDisk · path) (Grid.run_ofFile path) fun w w' related =>
    Grid.onDisk_congr (h.reads path hp w w' related)

theorem keeps_ofFiles {left right : String} (hl : left ∈ inputs) (hr : right ∈ inputs) :
    (Comparison.ofFiles left right).run.Keeps I :=
  Script.keeps_of_run (Comparison.onDisk · left right) (Comparison.run_ofFiles left right) fun w w' related =>
    Comparison.onDisk_congr (h.reads left hl w w' related) (h.reads right hr w w' related)

theorem keeps_writeReport {report : Option String} (hr : ∀ path ∈ report, path ∈ outputs) (tally : Tally) :
    (writeReport l tally report).run.Keeps I := by
  cases report with
  | none => exact Script.keeps_pure _
  | some path => exact (keeps_writeText h (hr path rfl) _).bindExcept fun _ => keeps_info h _

theorem keeps_compare {left right output : String} {report : Option String} (hl : left ∈ inputs)
    (hr : right ∈ inputs) (ho : output ∈ outputs) (hp : ∀ path ∈ report, path ∈ outputs) :
    (compare l left right output report).run.Keeps I := by
  refine (keeps_info h _).bindExcept fun _ => ?_
  refine (keeps_gridStep _ (keeps_ofFiles h hl hr)).bindExcept fun c => ?_
  refine (h.logs "DEBUG" (by decide) _).lift.bindExcept fun _ => ?_
  refine (keeps_paint c).bindExcept fun r => ?_
  refine (keeps_gridStep _ (Raster.keeps_save (h.writes output ho) r)).bindExcept fun _ => ?_
  refine (keeps_writeReport h hp c.tally).bindExcept fun _ => ?_
  exact (keeps_info h _).bindExcept fun _ => Script.keeps_pure _

theorem keeps_render {input output : String} (hi : input ∈ inputs) (ho : output ∈ outputs) :
    (render l input output).run.Keeps I := by
  refine (keeps_info h _).bindExcept fun _ => ?_
  refine (keeps_gridStep _ (keeps_ofFile h hi)).bindExcept fun g => ?_
  refine (keeps_paint g).bindExcept fun r => ?_
  refine (keeps_gridStep _ (Raster.keeps_save (h.writes output ho) r)).bindExcept fun _ => ?_
  exact keeps_info h _

theorem keeps_embed {input output : String} (hi : input ∈ inputs) (ho : output ∈ outputs) (symbol : String) :
    (embed l input output symbol).run.Keeps I := by
  have read : (Script.readBytes input).Keeps I :=
    Script.keeps_of_run (Disk.read · input) (fun _ => rfl) (h.reads input hi)
  refine (keeps_info h _).bindExcept fun _ => ?_
  refine (keeps_fileStep _ read).bindExcept fun content => ?_
  split
  · exact Script.keeps_pure _
  · exact (keeps_writeText h ho _).bindExcept fun _ => keeps_info h _

end Job

theorem Program.keeps_carryOut {l : Logger} {settings : Settings} {command : CommandLine.Command}
    (h : l.Admits I (inputs command) (outputs settings command)) :
    (carryOut l settings command).run.Keeps I := by
  cases command with
  | compare left right output report =>
      have compared : (Job.compare l left right output (report <|> settings.report)).run.Keeps I :=
        Job.keeps_compare h (Or.inl rfl) (Or.inr rfl) (Or.inl rfl) fun path hp => Or.inr hp
      exact compared.bindExcept fun _ => Script.keeps_pure _
  | render input output => exact Job.keeps_render h rfl rfl
  | embed input output symbol => exact Job.keeps_embed h rfl rfl _

/-! ## Disks that are alike -/

/-- Two worlds with disks that are alike, on which paths lead where they led on the disk `d`. The times of
log entries may differ where contents may, and have to be the same where they may not. -/
structure World.Abreast (d : Disk) (logs : Set String) (stale stamped : Set Location) (w w' : World) :
    Prop where
  same : Disk.ChangedAt Set.univ d w.disk
  alike : w.disk.Alike stale stamped w'.disk
  timed : d.targets logs ⊆ stamped ∨ ∀ i, w'.clock (w'.looks + i) = w.clock (w.looks + i)

variable {d : Disk} {logs : Set String} {stale stamped : Set Location} {l : Logger} {path : String}
  {w w' : World}

theorem Script.run_writeBytes_eq (path : String) (content : Bytes) (w : World) :
    (writeBytes path content).run w =
      ((w.disk.replace path content).map fun _ => (),
        { w with disk := w.disk.attempted (w.disk.replace path content) }) :=
  run_replace path content .done w

theorem Disk.Alike.map_replace_eq {e : Disk} (h : d.Alike stale stamped e) (path : String) (content : Bytes) :
    (e.replace path content).map (fun _ => ()) = (d.replace path content).map fun _ => () := by
  rw [replace, replace, h.target_eq]
  cases d.target path <;> rfl

namespace World.Abreast

theorem at_moment (h : w.Abreast d logs stale stamped w') (hp : path ∈ logs) (i : Nat) :
    d.targets {path} ⊆ stamped ∨ w.clock (w.looks + i) = w'.clock (w'.looks + i) :=
  h.timed.imp (d.targets_mono (Set.singleton_subset_iff.mpr hp)).trans fun timed => (timed i).symm

theorem later {v v' : World} (h : w.Abreast d logs stale stamped w') (same : Disk.ChangedAt Set.univ d v.disk)
    (alike : v.disk.Alike stale stamped v'.disk) {n : Nat} (clock : v.clock = w.clock ∧ v'.clock = w'.clock)
    (looks : v.looks = w.looks + n ∧ v'.looks = w'.looks + n) : v.Abreast d logs stale stamped v' := by
  refine ⟨same, alike, h.timed.imp_right fun timed i => ?_⟩
  rw [clock.1, clock.2, looks.1, looks.2, Nat.add_assoc, Nat.add_assoc]
  exact timed (n + i)

theorem keeps_writeBytes (path : String) (content : Bytes) :
    (Script.writeBytes path content).Keeps (Abreast d logs stale stamped) := by
  intro w w' h
  have same := h.same.trans (Script.changedAt_run (Script.writeBytes path content) w)
  rw [Script.run_writeBytes_eq] at same
  rw [Script.run_writeBytes_eq, Script.run_writeBytes_eq]
  refine ⟨h.alike.map_replace_eq path content, ?_⟩
  exact h.later (n := 0) same ((h.alike.replaced (.inl rfl)).mono Set.sdiff_subset subset_rfl) ⟨rfl, rfl⟩
    ⟨rfl, rfl⟩

theorem keeps_start {errorLog debugLog : String}
    (hl : {Path.under d.workingPath errorLog, Path.under d.workingPath debugLog} ⊆ logs) :
    (Logger.start errorLog debugLog).Keeps (Abreast d logs stale stamped) := by
  intro w w' h
  have same := h.same.trans (Script.changedAt_run (Logger.start errorLog debugLog) w)
  have here : w.disk.workingPath = d.workingPath := by
    rw [Disk.workingPath, Disk.workingPath, h.same.workingDirectory]
  rw [Logger.run_start, here] at same
  rw [Logger.run_start, Logger.run_start, h.alike.workingPath_eq, here]
  refine ⟨rfl, h.later (n := 2) same ?_ ⟨rfl, rfl⟩ ⟨rfl, rfl⟩⟩
  have first := w.disk.changedAt_startedAt (Path.under d.workingPath errorLog)
    (Logger.banner "Error" (w.clock w.looks))
  have error := h.alike.startedAt (by simpa [h.same.targets] using h.at_moment (hl (Or.inl rfl)) 0) "Error"
  have debug := error.startedAt
    (by simpa [first.targets, h.same.targets] using h.at_moment (hl (Or.inr rfl)) 1) "Debug"
  exact debug.mono (Set.sdiff_subset.trans Set.sdiff_subset) subset_rfl

theorem keeps_log (hl : l.files ⊆ logs) (level message : String) :
    (l.log level message).Keeps (Abreast d logs stale stamped) := by
  cases l with
  | silent => exact Script.keeps_pure _
  | writing errorLog debugLog =>
      intro w w' h
      have same := h.same.trans (Script.changedAt_run ((Logger.writing errorLog debugLog).log level message) w)
      rw [Logger.run_log] at same
      rw [Logger.run_log, Logger.run_log]
      refine ⟨rfl, h.later (n := 1) same ?_ ⟨rfl, rfl⟩ ⟨rfl, rfl⟩⟩
      have first := w.disk.changedAt_addedTo debugLog (Logger.entry (w.clock w.looks) level message)
      have debug := h.alike.addedTo (by simpa [h.same.targets] using h.at_moment (hl (Or.inr rfl)) 0)
        level message
      have error := debug.addedTo
        (by simpa [first.targets, h.same.targets] using h.at_moment (hl (Or.inl rfl)) 0) level message
      split
      · exact error
      · exact debug

theorem admits {inputs : Set String} (hl : l.files ⊆ logs)
    (clear : ∀ path ∈ inputs, d.Avoids (stale ∪ stamped) path) (outputs : Set String) :
    l.Admits (Abreast d logs stale stamped) inputs outputs where
  logs := fun level _ message => keeps_log hl level message
  reads := fun path hp _ _ h => h.alike.read_eq (h.same.avoids (clear path hp))
  writes := fun path _ content => keeps_writeBytes path content

end World.Abreast

namespace Program

open CommandLine

variable {settings : Settings} {command : Command}

theorem keeps_greet (hl : ∀ level, level ≠ Logger.errorLevel → ∀ message, (l.log level message).Keeps I)
    (settings : Settings) : (greet l settings).Keeps I := by
  refine (hl "INFO" (by decide) _).bind fun _ => ?_
  induction settings.unknownKeys with
  | nil => exact Script.keeps_pure _
  | cons key keys ih => exact (hl "DEBUG" (by decide) _).bind fun _ => ih

theorem files_start {places : Set Location} (settings : Settings) (same : Disk.ChangedAt places d w.disk) :
    ((Logger.start settings.errorLog settings.debugLog).run w).1.files = Program.logs d settings := by
  rw [Logger.run_start, Disk.workingPath, same.workingDirectory]
  rfl

end Program

end MembershipGrid
