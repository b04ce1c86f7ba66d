import MembershipGrid.Proofs.Lemmas.Inputs
import MembershipGrid.Proofs.Lemmas.Jobs
import MembershipGrid.Proofs.Painting

/-!
# What failing commands leave behind

A command that is given a bad input writes nothing but its log. After its input is read, only one failure
is left that comes too late: that of the report of a comparison, whose image is then written already.
-/

namespace MembershipGrid

/-- A path leads to the same thing on both disks, or to nothing on either. -/
def Disk.AgreeAt (d e : Disk) (path : String) : Prop := ∀ node, e.find path = .ok node ↔ d.find path = .ok node

def usedDesk : World where
  disk :=
    { workingDirectory := ["desk"]
      entries :=
        [(["desk"], .directory),
          (["desk", "a"], .file (Text.encode "x.\n.x")),
          (["desk", "b"], .file (Text.encode "x.\nx")),
          (["desk", "c.png"], .file [107, 101, 112, 116])] }
  clock := fun _ => ⟨2024, 1, 1, 0, 0, 0, 0, 0⟩
  looks := 0

/-- The same desk with a settings file on it. -/
def settledDesk (config : String) : World :=
  { usedDesk with disk := usedDesk.disk.store ["desk", "griddiff.config"] (.file (Text.encode config)) }

namespace Job

/-- Something holds of the files at some paths as a command finds them. The first entry of the command is
then in the log, which makes no difference unless a log is one of the files. -/
def Finds (l : Logger) (paths : Set String) (p : Disk → Prop) (before opened : World) : Prop :=
  p opened.disk ∨ (∀ path ∈ paths, ∀ log ∈ l.files, before.disk.Apart log path) ∧ p before.disk

/-- A job that fails and changes nothing but the logs. -/
def FailsCleanly {α : Type} (l : Logger) (job : Job α) (w : World) : Prop :=
  (∃ f, (job.run.run w).1 = .error f) ∧
    Disk.ChangedAt (w.disk.targets l.files) w.disk (job.run.run w).2.disk

variable {α : Type} {l : Logger} {left right input output symbol : String} {report : Option String}
  {w : World}

/-! ## Bad inputs -/

theorem failsCleanly_of_run {job : Job α} {level message : String} {f : Failure}
    (h : job.run.run w = (.error f, l.after level message w)) : FailsCleanly l job w := by
  rw [FailsCleanly, h]
  exact ⟨⟨f, rfl⟩, l.changedAt_after level message w⟩

theorem Finds.opened {level message : String} {paths : Set String} {p : Disk → Prop}
    (h : Finds l paths p w (l.after level message w))
    (kept : ∀ e, Disk.ChangedAt (w.disk.targets l.files) w.disk e →
      (∀ path ∈ paths, ∀ place ∈ w.disk.targets l.files, w.disk.locate path ≠ .ok place) →
      p w.disk → p e) : p (l.after level message w).disk := by
  rcases h with found | ⟨apart, found⟩
  · exact found
  · exact kept _ (l.changedAt_after level message w)
      (fun path hp => Disk.locate_ne_of_apart (apart path hp)) found

theorem compare_failsCleanly
    (bad : Finds l {left, right} (·.NoComparison left right) w (atReading l left right output w)) :
    FailsCleanly l (compare l left right output report) w := by
  have found := bad.opened fun e changed apart =>
    (changed.noComparison_iff (apart left (Or.inl rfl)) (apart right (Or.inr rfl))).mpr
  obtain ⟨e, hc⟩ := not_exists_ok_iff.mp (Disk.noComparison_iff.mp found)
  exact failsCleanly_of_run (run_compare_of_error hc)

theorem render_failsCleanly
    (bad : Finds l {input} (·.NoGrid input) w (atRendering l input output w)) :
    FailsCleanly l (render l input output) w := by
  have found := bad.opened fun e changed apart =>
    (changed.noGrid_iff (apart input (Set.mem_singleton input))).mpr
  obtain ⟨e, hg⟩ := not_exists_ok_iff.mp (Disk.noGrid_iff.mp found)
  exact failsCleanly_of_run (run_render_of_error hg)

theorem embed_failsCleanly
    (bad : Finds l {input} (·.NoArray input symbol) w (atEmbedding l input output symbol w)) :
    FailsCleanly l (embed l input output symbol) w := by
  have found := bad.opened fun e changed apart =>
    (changed.noArray_iff (apart input (Set.mem_singleton input))).mpr
  -- the name is looked at only once the file is read
  cases hr : (atEmbedding l input output symbol w).disk.read input with
  | error e => exact failsCleanly_of_run (run_embed_of_error hr)
  | ok content =>
      have hs : Embedding.isIdentifier symbol = false := by
        cases found with
        | unreadable h => cases hr.symm.trans h
        | notIdentifier h => exact h
      exact failsCleanly_of_run (run_embed_of_symbol hr hs)

/-- A command with a bad input fails, and everything but the logs is as it was before. -/
theorem bad_input_changes_only_logs (l : Logger) (w : World) :
    (∀ left right output report,
      Finds l {left, right} (·.NoComparison left right) w (atReading l left right output w) →
        FailsCleanly l (compare l left right output report) w) ∧
    (∀ input output, Finds l {input} (·.NoGrid input) w (atRendering l input output w) →
      FailsCleanly l (render l input output) w) ∧
    ∀ input output symbol,
      Finds l {input} (·.NoArray input symbol) w (atEmbedding l input output symbol w) →
        FailsCleanly l (embed l input output symbol) w :=
  ⟨fun _ _ _ _ => compare_failsCleanly, fun _ _ => render_failsCleanly, fun _ _ _ => embed_failsCleanly⟩

theorem apart_usedDesk {log : String} (h : log ∈ (Logger.writing "e.log" "d.log").files) :
    usedDesk.disk.Apart log "a" ∧ usedDesk.disk.Apart log "b" ∧ usedDesk.disk.Apart log "c.png" := by
  rcases h with rfl | rfl <;> refine ⟨?_, ?_, ?_⟩ <;> intro place h <;> cases h <;> decide

theorem noGrid_usedDesk : usedDesk.disk.NoGrid "b" := by
  have long : ['x', '.'] ∈ Text.lines "x.\nx".toList := by decide
  have short : ['x'] ∈ Text.lines "x.\nx".toList := by decide
  exact .malformed rfl (Text.decode?_encode "x.\nx") (.ragged long short (by decide))

theorem finds_usedDesk (opened : World) :
    Finds (.writing "e.log" "d.log") {"a", "b"} (·.NoComparison "a" "b") usedDesk opened := by
  refine .inr ⟨?_, .right noGrid_usedDesk⟩
  rintro path (rfl | rfl) log h
  · exact (apart_usedDesk h).1
  · exact (apart_usedDesk h).2.1

theorem bad_input_changes_only_logs_usedDesk :
    FailsCleanly (.writing "e.log" "d.log")
        (compare (.writing "e.log" "d.log") "a" "b" "c.png" (some "tally.json")) usedDesk ∧
      FailsCleanly (.writing "e.log" "d.log") (render (.writing "e.log" "d.log") "b" "c.png") usedDesk ∧
      FailsCleanly (.writing "e.log" "d.log") (embed (.writing "e.log" "d.log") "a" "c.png" "1abc")
        usedDesk ∧
      ((embed (.writing "e.log" "d.log") "a" "c.png" "1abc").run.run usedDesk).2.disk.read "c.png" =
        .ok [107, 101, 112, 116] := by
  obtain ⟨compares, renders, embeds⟩ := bad_input_changes_only_logs (.writing "e.log" "d.log") usedDesk
  have rendered := renders "b" "c.png" (.inr ⟨fun path hp log h => hp ▸ (apart_usedDesk h).2.1,
    noGrid_usedDesk⟩)
  have embedded := embeds "a" "c.png" "1abc" (.inr ⟨fun path hp log h => hp ▸ (apart_usedDesk h).1,
    .notIdentifier (by decide)⟩)
  refine ⟨compares _ _ _ _ (finds_usedDesk _), rendered, embedded, ?_⟩
  refine (embedded.2.read_eq_ok_iff (Disk.locate_ne_of_apart fun log h => ?_)).mpr rfl
  exact (apart_usedDesk h).2.2

/-! ## Reports that cannot be written -/

/-- The image of a comparison can be written and its report cannot. -/
structure Unreported (d : Disk) (left right output : String) (report : Option String) : Prop where
  drawn : ∃ c, Comparison.onDisk d left right = .ok c ∧ c.width ≤ Png.maxSide ∧ c.height ≤ Png.maxSide
  saved : ∃ place, d.target output = .ok place
  lost : ∃ path ∈ report, ¬∃ place, d.target path = .ok place

theorem agreeAt_of_changedAt {v : World} (h : Disk.ChangedAt (w.disk.targets l.files) w.disk v.disk)
    (apart : ∀ log ∈ l.files, w.disk.Apart log output) : w.disk.AgreeAt v.disk output :=
  fun _ => h.find_eq_ok_iff (Disk.locate_ne_of_apart apart)

theorem target_atSaved_iff {place : Location} (ht : w.disk.target output = .ok place) (l : Logger)
    (left right : String) (c : Comparison) (r : Raster) (path : String) :
    (∃ place', (atSaved l left right output c r place w).disk.target path = .ok place') ↔
      ∃ place', w.disk.target path = .ok place' :=
  exists_congr fun _ => (changedAt_atSaved ht l left right c r).target_eq_ok_iff

theorem agreeAt_of_not_unreported {f : Failure} (apart_left : ∀ log ∈ l.files, w.disk.Apart log left)
    (apart_right : ∀ log ∈ l.files, w.disk.Apart log right)
    (apart : ∀ log ∈ l.files, w.disk.Apart log output)
    (failed : ((compare l left right output report).run.run w).1 = .error f)
    (written : ¬Unreported w.disk left right output report) :
    w.disk.AgreeAt ((compare l left right output report).run.run w).2.disk output := by
  have ran := compareRun l left right output report w
  generalize (compare l left right output report).run.run w = outcome at ran failed ⊢
  -- of the runs that fail, only the third has saved the image
  cases ran with
  | unread => exact agreeAt_of_changedAt (changedAt_atReading l left right output w) apart
  | unsaved => exact agreeAt_of_changedAt (changedAt_atSaving l left right output _ w) apart
  | unreported hs hp =>
      have drawn := (onDisk_atReading_iff output apart_left apart_right).mp hs.compared
      refine absurd ⟨⟨_, drawn, hs.fits⟩, ⟨_, hs.placed⟩, _, rfl, ?_⟩ written
      rw [← target_atSaved_iff hs.placed l left right, not_exists_ok_iff]
      exact ⟨_, hp⟩
  | drawn => cases failed
  | reported => cases failed

theorem exists_compare_of_unreported (apart_left : ∀ log ∈ l.files, w.disk.Apart log left)
    (apart_right : ∀ log ∈ l.files, w.disk.Apart log right)
    (unreported : Unreported w.disk left right output report) :
    ∃ f c r v, (compare l left right output report).run.run w = (.error f, v) ∧
      Comparison.onDisk w.disk left right = .ok c ∧ Raster.ofCells c.width c.height c.cells = .ok r ∧
      v.disk.read output = .ok (Png.encode r) := by
  obtain ⟨⟨c, hc, fits⟩, ⟨place, ht⟩, path, rfl, lost⟩ := unreported
  obtain ⟨r, hr⟩ := Raster.exists_ofCells_iff.mpr c.length_cells
  rw [← target_atSaved_iff ht l left right c r, not_exists_ok_iff] at lost
  obtain ⟨e, hp⟩ := lost
  have found := (onDisk_atReading_iff output apart_left apart_right).mpr hc
  have ran := run_compare_of_saves (some path) ⟨found, hr, fits, ht⟩
  rw [run_finish_of_error l c.tally hp] at ran
  exact ⟨_, c, r, _, ran, hc, hr, read_atSaved ht l left right c r⟩

/-- A comparison that fails leaves its output as it was, with one exception: if the report alone cannot be
written, the image is there already. -/
theorem failed_comparison_leaves_output (l : Logger) (left right output : String) (report : Option String)
    (w : World) (apart : ∀ log ∈ l.files,
      w.disk.Apart log left ∧ w.disk.Apart log right ∧ w.disk.Apart log output) :
    (∀ f, ((compare l left right output report).run.run w).1 = .error f →
      ¬Unreported w.disk left right output report →
        w.disk.AgreeAt ((compare l left right output report).run.run w).2.disk output) ∧
    (Unreported w.disk left right output report →
      ∃ f c r v, (compare l left right output report).run.run w = (.error f, v) ∧
        Comparison.onDisk w.disk left right = .ok c ∧ Raster.ofCells c.width c.height c.cells = .ok r ∧
        v.disk.read output = .ok (Png.encode r)) := by
  have apart_left := fun log h => (apart log h).1
  have apart_right := fun log h => (apart log h).2.1
  constructor
  · intro f failed
    exact agreeAt_of_not_unreported apart_left apart_right (fun log h => (apart log h).2.2) failed
  · exact exists_compare_of_unreported apart_left apart_right

theorem unreported_usedDesk : Unreported usedDesk.disk "a" "a" "c.png" (some "gone/tally.json") := by
  have read : Grid.onDisk usedDesk.disk "a" = .ok .diagonal :=
    (Grid.onDisk_eq_ok_iff_of_read rfl).mpr ⟨_, Text.decode?_encode "x.\n.x", by decide⟩
  obtain ⟨c, hc⟩ := Comparison.exists_ofGrids_iff.mpr (⟨rfl, rfl⟩ :
    Grid.diagonal.height = Grid.diagonal.height ∧ Grid.diagonal.width = Grid.diagonal.width)
  obtain ⟨width, height, -⟩ := Comparison.of_ofGrids hc
  refine ⟨⟨c, Comparison.onDisk_eq_ok_iff.mpr ⟨_, _, read, read, hc⟩, ?_⟩, ⟨_, rfl⟩, _, rfl, ?_⟩
  · rw [width, height]
    decide
  · exact not_exists_ok_iff.mpr ⟨.notFound, rfl⟩

theorem failed_comparison_leaves_output_usedDesk :
    usedDesk.disk.AgreeAt ((compare (.writing "e.log" "d.log") "a" "b" "c.png" none).run.run
        usedDesk).2.disk "c.png" ∧
      ∃ f v bytes, (compare (.writing "e.log" "d.log") "a" "a" "c.png" (some "gone/tally.json")).run.run
        usedDesk = (.error f, v) ∧ v.disk.read "c.png" = .ok (Png.signature ++ bytes) := by
  constructor
  · obtain ⟨kept, -⟩ := failed_comparison_leaves_output (.writing "e.log" "d.log") "a" "b" "c.png" none
      usedDesk fun log h => apart_usedDesk h
    have failing : FailsCleanly (.writing "e.log" "d.log")
        (compare (.writing "e.log" "d.log") "a" "b" "c.png" none) usedDesk :=
      compare_failsCleanly (finds_usedDesk _)
    obtain ⟨⟨f, failed⟩, -⟩ := failing
    refine kept f failed fun unreported => ?_
    obtain ⟨path, none, -⟩ := unreported.lost
    cases none
  · obtain ⟨-, replaced⟩ := failed_comparison_leaves_output (.writing "e.log" "d.log") "a" "a" "c.png"
      (some "gone/tally.json") usedDesk fun log h =>
        ⟨(apart_usedDesk h).1, (apart_usedDesk h).1, (apart_usedDesk h).2.2⟩
    obtain ⟨f, c, r, v, ran, -, -, written⟩ := replaced unreported_usedDesk
    exact ⟨f, v, _, ran, written⟩

/-- The image of an earlier command is lost to a comparison that fails. -/
theorem unwritten_report_replaces_output :
    (∀ log ∈ (Logger.writing "e.log" "d.log").files, usedDesk.disk.Apart log "a" ∧
      usedDesk.disk.Apart log "c.png" ∧ usedDesk.disk.Apart log "gone/tally.json") ∧
    (∃ f, ((compare (.writing "e.log" "d.log") "a" "a" "c.png" (some "gone/tally.json")).run.run
      usedDesk).1 = .error f) ∧
    ¬usedDesk.disk.AgreeAt ((compare (.writing "e.log" "d.log") "a" "a" "c.png"
      (some "gone/tally.json")).run.run usedDesk).2.disk "c.png" := by
  have left : ∀ log ∈ (Logger.writing "e.log" "d.log").files, usedDesk.disk.Apart log "a" :=
    fun log h => (apart_usedDesk h).1
  obtain ⟨f, c, r, v, ran, -, -, written⟩ := exists_compare_of_unreported left left unreported_usedDesk
  refine ⟨fun log h => ⟨left log h, (apart_usedDesk h).2.2, fun _ _ gone => ?_⟩, ?_, fun same => ?_⟩
  · cases gone
  · rw [ran]
    exact ⟨f, rfl⟩
  · rw [ran] at same
    have old := (same _).mp (Disk.read_eq_ok_iff_find.mp written)
    cases old

end Job

end MembershipGrid
