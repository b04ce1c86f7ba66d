import MembershipGrid.Job.Embed
import MembershipGrid.Job.Images
import MembershipGrid.Proofs.Lemmas.Jobs
import MembershipGrid.Proofs.Lemmas.Likeness
import Mathlib.Order.BooleanAlgebra.Set

/-!
# Commands that are repeated

A script that is run on two disks that are alike answers the same, whatever the clocks show, as long as it
reads none of the files that differ (`Repeats`). What it replaces on both disks differs no longer, so a
command that succeeds leaves nothing stale that it writes.
-/

namespace MembershipGrid

variable {α β ε : Type}

namespace Script

/-- On two disks that are alike, a script answers the same. What is still stale after it depends on the
answer. The disk `d` is the one before everything, by which the places of the logs are known. -/
def Repeats (d : Disk) (logs : Set String) (stale : Set Location) (s : Script α) (left : α → Set Location) :
    Prop :=
  ∀ w w' : World, Disk.ChangedAt Set.univ d w.disk → w.disk.Alike stale (d.targets logs) w'.disk →
    (s.run w').1 = (s.run w).1 ∧
      (s.run w).2.disk.Alike (left (s.run w).1) (d.targets logs) (s.run w').2.disk

/-- What is stale after a script that may fail. -/
def leaves (failed done : Set Location) : Except ε α → Set Location
  | .error _ => failed
  | .ok _ => done

theorem subset_leaves {stale failed done : Set Location} (hf : stale ⊆ failed) (hd : stale ⊆ done)
    (outcome : Except ε α) : stale ⊆ leaves failed done outcome := by
  cases outcome with
  | error e => exact hf
  | ok a => exact hd

variable {d : Disk} {logs : Set String} {stale mid failed done : Set Location} {s : Script α}
  {left : α → Set Location}

/-! ## Composition -/

theorem writesOnly_univ (s : Script α) : s.WritesOnly Set.univ := by
  induction s with
  | done value => trivial
  | clock next ih | here next ih | has path next ih | read path next ih => exact ih
  | replace path content next ih | append path content next ih => exact ⟨trivial, ih⟩

theorem changedAt_run (s : Script α) (w : World) : Disk.ChangedAt Set.univ w.disk (s.run w).2.disk :=
  (s.writesOnly_univ.run w).anywhere

theorem repeats_pure (a : α) (sub : stale ⊆ left a) : (pure a : Script α).Repeats d logs stale left :=
  fun _ _ _ alike => ⟨rfl, alike.mono sub subset_rfl⟩

theorem Repeats.mono {more : α → Set Location} (h : s.Repeats d logs stale left)
    (sub : ∀ a, left a ⊆ more a) : s.Repeats d logs stale more := by
  intro w w' same alike
  obtain ⟨answer, alike'⟩ := h w w' same alike
  exact ⟨answer, alike'.mono (sub _) subset_rfl⟩

/-- What follows a script has to repeat only for answers that the script can give. -/
theorem Repeats.bind_answers {f : α → Script β} {left' : β → Set Location} (hs : s.Repeats d logs stale left)
    (hf : ∀ w : World, Disk.ChangedAt Set.univ d w.disk →
      (f (s.run w).1).Repeats d logs (left (s.run w).1) left') : (s >>= f).Repeats d logs stale left' := by
  intro w w' same alike
  obtain ⟨answer, alike'⟩ := hs w w' same alike
  rw [run_bind, run_bind, answer]
  exact hf w same _ _ (same.trans (s.changedAt_run w)) alike'

theorem Repeats.bind {f : α → Script β} {left' : β → Set Location} (hs : s.Repeats d logs stale left)
    (hf : ∀ a, (f a).Repeats d logs (left a) left') : (s >>= f).Repeats d logs stale left' :=
  hs.bind_answers fun _ _ => hf _

theorem Repeats.bindExcept {s : ExceptT ε Script α} {f : α → ExceptT ε Script β}
    (hs : s.run.Repeats d logs stale (leaves failed mid))
    (hf : ∀ a, (f a).run.Repeats d logs mid (leaves failed done)) :
    (s >>= f).run.Repeats d logs stale (leaves failed done) := by
  rw [ExceptT.run_bind]
  refine hs.bind fun outcome => ?_
  cases outcome with
  | error e => exact repeats_pure _ subset_rfl
  | ok a => exact hf a

theorem Repeats.bindLift {f : α → ExceptT ε Script β} {left' : Except ε β → Set Location}
    (hs : s.Repeats d logs stale left) (hf : ∀ a, (f a).run.Repeats d logs (left a) left') :
    (liftM s >>= f : ExceptT ε Script β).run.Repeats d logs stale left' := by
  have run_eq : (liftM s >>= f : ExceptT ε Script β).run = s >>= fun a => (f a).run :=
    ExceptT.run_bind_lift s f
  rw [run_eq]
  exact hs.bind hf

theorem Repeats.lift (h : s.Repeats d logs stale fun _ => done) :
    (liftM s : ExceptT ε Script α).run.Repeats d logs stale (leaves failed done) := by
  intro w w' same alike
  obtain ⟨answer, alike'⟩ := h w w' same alike
  rw [run_liftM, run_liftM, answer]
  exact ⟨rfl, alike'⟩

theorem Repeats.adapt {δ : Type} {s : ExceptT ε Script α} (f : ε → δ)
    (hs : s.run.Repeats d logs stale (leaves failed done)) :
    (s.adapt f).run.Repeats d logs stale (leaves failed done) := by
  change (Functor.map _ s.run : Script _).Repeats d logs stale _
  rw [← bind_pure_comp]
  refine hs.bind fun outcome => repeats_pure _ ?_
  cases outcome <;> exact subset_rfl

/-! ## Single actions -/

/-- What only looks at files that do not differ finds the same. -/
theorem repeats_of_run {find : Disk → α} (ran : ∀ w, s.run w = (find w.disk, w))
    (found : ∀ e e' : Disk, Disk.ChangedAt Set.univ d e → e.Alike stale (d.targets logs) e' →
      find e' = find e) : s.Repeats d logs stale fun _ => stale := by
  intro w w' same alike
  rw [ran, ran]
  exact ⟨found _ _ same alike, alike⟩

/-- What is written to a file is not stale, unless it cannot be written. -/
theorem repeats_writeBytes (path : String) (content : Bytes) :
    (writeBytes path content).Repeats d logs stale (leaves stale (stale \ d.targets {path})) := by
  intro w w' same alike
  cases ht : w.disk.target path with
  | error e =>
      rw [run_writeBytes_of_error ht, run_writeBytes_of_error ((alike.target_eq path).trans ht)]
      exact ⟨rfl, alike⟩
  | ok place =>
      rw [run_writeBytes ht, run_writeBytes ((alike.target_eq path).trans ht)]
      refine ⟨rfl, alike.store (Disk.root_ne_of_target ht) ?_ (.inr (.inl rfl))⟩
      rw [leaves, ← same.targets, Disk.targets_of_ok ht]

end Script

/-! ## Steps -/

variable {d : Disk} {logs : Set String} {stale failed done : Set Location} {l : Logger} {path : String}

/-- A log that is started is stale no longer. -/
theorem Logger.repeats_start {errorLog debugLog : String}
    (hl : {Path.under d.workingPath errorLog, Path.under d.workingPath debugLog} ⊆ logs) :
    (Logger.start errorLog debugLog).Repeats d logs stale fun _ =>
      stale \ d.targets {Path.under d.workingPath errorLog, Path.under d.workingPath debugLog} := by
  intro w w' same alike
  have here : w.disk.workingPath = d.workingPath := by
    rw [Disk.workingPath, Disk.workingPath, same.workingDirectory]
  rw [run_start, run_start, alike.workingPath_eq, here]
  refine ⟨rfl, ?_⟩
  have error := alike.startedAt (m := w.clock w.looks) (n := w'.clock w'.looks)
    (.inl (same.targets_subset (hl (Or.inl rfl)))) "Error"
  have changed := same.trans (w.disk.changedAt_startedAt (Path.under d.workingPath errorLog)
    (banner "Error" (w.clock w.looks))).anywhere
  have debug := error.startedAt (m := w.clock (w.looks + 1)) (n := w'.clock (w'.looks + 1))
    (.inl (changed.targets_subset (hl (Or.inr rfl)))) "Debug"
  rwa [changed.targets, same.targets, Set.sdiff_sdiff, ← Disk.targets_union] at debug

theorem Logger.repeats_log (hl : l.files ⊆ logs) (level message : String) :
    (l.log level message).Repeats d logs stale fun _ => stale := by
  cases l with
  | silent => exact Script.repeats_pure _ subset_rfl
  | writing errorLog debugLog =>
      intro w w' same alike
      have debug := alike.addedTo (m := w.clock w.looks) (n := w'.clock w'.looks)
        (.inl (same.targets_subset (hl (Or.inr rfl)))) level message
      have changed := same.trans (w.disk.changedAt_addedTo debugLog
        (Logger.entry (w.clock w.looks) level message)).anywhere
      have error := debug.addedTo (m := w.clock w.looks) (n := w'.clock w'.looks)
        (.inl (changed.targets_subset (hl (Or.inl rfl)))) level message
      rw [run_log, run_log]
      refine ⟨rfl, ?_⟩
      split
      · exact error
      · exact debug

theorem Grid.repeats_ofFile (clear : d.Avoids (stale ∪ d.targets logs) path) :
    (Grid.ofFile path).run.Repeats d logs stale fun _ => stale :=
  Script.repeats_of_run (Grid.run_ofFile path) fun _ _ same alike =>
    alike.onDisk_grid_eq (same.avoids clear)

theorem Comparison.repeats_ofFiles {left right : String} (clear_left : d.Avoids (stale ∪ d.targets logs) left)
    (clear_right : d.Avoids (stale ∪ d.targets logs) right) :
    (Comparison.ofFiles left right).run.Repeats d logs stale fun _ => stale :=
  Script.repeats_of_run (Comparison.run_ofFiles left right) fun _ _ same alike =>
    alike.onDisk_comparison_eq (same.avoids clear_left)
      (same.avoids clear_right)

section Writing

variable (sub : stale ⊆ failed)
include sub

theorem Raster.repeats_writeImage (path : String) (content : Bytes) :
    (Raster.writeImage path content).run.Repeats d logs stale
      (Script.leaves failed (stale \ d.targets {path})) := by
  refine (Script.repeats_writeBytes path content).bindLift fun outcome => ?_
  cases outcome with
  | error e => exact Script.repeats_pure _ sub
  | ok => exact Script.repeats_pure _ subset_rfl

theorem Raster.repeats_save (r : Raster) (path : String) :
    (r.save path).run.Repeats d logs stale (Script.leaves failed (stale \ d.targets {path})) := by
  have refuse (content : Bytes) (e : GridError) :
      (do Raster.writeImage path content; throw e : ExceptT GridError Script Unit).run.Repeats d logs stale
        (Script.leaves failed (stale \ d.targets {path})) :=
    (Raster.repeats_writeImage sub path content).bindExcept fun _ =>
      Script.repeats_pure _ (Set.sdiff_subset.trans sub)
  rw [Raster.save]
  split
  · exact Script.repeats_pure _ sub
  · split
    · exact Script.repeats_pure _ sub
    · rw [Raster.write]
      split_ifs
      · exact refuse _ _
      · exact refuse _ _
      · exact Raster.repeats_writeImage sub path _

end Writing

/-! ## Commands -/

namespace Job

variable {left right input output symbol : String} {report : Option String}

theorem repeats_paint [Colored α] (t : Table α) (sub : stale ⊆ failed) :
    (paint t).run.Repeats d logs stale (Script.leaves failed stale) :=
  Script.repeats_pure _ (Script.subset_leaves sub subset_rfl _)

theorem repeats_read {s : ExceptT GridError Script α} (about : String)
    (h : s.run.Repeats d logs stale fun _ => stale) :
    (gridStep about s).run.Repeats d logs stale (Script.leaves stale stale) :=
  Script.Repeats.adapt _ (h.mono (Script.subset_leaves subset_rfl subset_rfl))

theorem repeats_readBytes (clear : d.Avoids (stale ∪ d.targets logs) path) :
    (readBytes path).run.Repeats d logs stale (Script.leaves stale stale) := by
  have read : (Script.readBytes path).Repeats d logs stale fun _ => stale :=
    Script.repeats_of_run (fun _ => rfl) fun _ _ same alike => alike.read_eq (same.avoids clear)
  exact Script.Repeats.adapt _ (read.mono (Script.subset_leaves subset_rfl subset_rfl))

theorem repeats_writeText (path text : String) (sub : stale ⊆ failed) :
    (writeText path text).run.Repeats d logs stale (Script.leaves failed (stale \ d.targets {path})) := by
  refine Script.Repeats.adapt _ ((Script.repeats_writeBytes path (Text.encode text)).mono fun outcome => ?_)
  cases outcome with
  | error e => exact sub
  | ok => exact subset_rfl

variable (hl : l.files ⊆ logs)
include hl

theorem repeats_writeReport (tally : Tally) (report : Option String) (sub : stale ⊆ failed) :
    (writeReport l tally report).run.Repeats d logs stale
      (Script.leaves failed (stale \ d.targets {path | path ∈ report})) := by
  cases report with
  | none =>
      have nowhere : ({other | other ∈ (none : Option String)} : Set String) = ∅ := by
        ext other
        simp
      rw [nowhere, Disk.targets_empty, Set.sdiff_empty]
      exact Script.repeats_pure _ subset_rfl
  | some path =>
      have only : ({other | other ∈ some path} : Set String) = {path} := by
        ext other
        simp [eq_comm]
      rw [only]
      exact (repeats_writeText path _ sub).bindExcept fun _ => (Logger.repeats_log hl _ _).lift

theorem repeats_compare (report : Option String) (clear_left : d.Avoids (stale ∪ d.targets logs) left)
    (clear_right : d.Avoids (stale ∪ d.targets logs) right) :
    (compare l left right output report).run.Repeats d logs stale
      (Script.leaves stale ((stale \ d.targets {output}) \ d.targets {path | path ∈ report})) := by
  refine (Logger.repeats_log hl _ _).bindLift fun _ => ?_
  refine (repeats_read _ (Comparison.repeats_ofFiles clear_left clear_right)).bindExcept fun c => ?_
  refine (Logger.repeats_log hl _ _).bindLift fun _ => ?_
  refine (repeats_paint c subset_rfl).bindExcept fun r => ?_
  refine (Script.Repeats.adapt _ (Raster.repeats_save subset_rfl r output)).bindExcept fun _ => ?_
  refine (repeats_writeReport hl c.tally report Set.sdiff_subset).bindExcept fun _ => ?_
  exact (Logger.repeats_log hl _ _).bindLift fun _ => Script.repeats_pure _ subset_rfl

theorem repeats_render (clear : d.Avoids (stale ∪ d.targets logs) input) :
    (render l input output).run.Repeats d logs stale (Script.leaves stale (stale \ d.targets {output})) := by
  refine (Logger.repeats_log hl _ _).bindLift fun _ => ?_
  refine (repeats_read _ (Grid.repeats_ofFile clear)).bindExcept fun g => ?_
  refine (repeats_paint g subset_rfl).bindExcept fun r => ?_
  refine (Script.Repeats.adapt _ (Raster.repeats_save subset_rfl r output)).bindExcept fun _ => ?_
  exact (Logger.repeats_log hl _ _).lift

theorem repeats_embed (clear : d.Avoids (stale ∪ d.targets logs) input) :
    (embed l input output symbol).run.Repeats d logs stale
      (Script.leaves stale (stale \ d.targets {output})) := by
  refine (Logger.repeats_log hl _ _).bindLift fun _ => ?_
  refine (repeats_readBytes clear).bindExcept fun content => ?_
  split
  · exact Script.repeats_pure _ subset_rfl
  · exact (repeats_writeText output _ subset_rfl).bindExcept fun _ => (Logger.repeats_log hl _ _).lift

end Job

end MembershipGrid
