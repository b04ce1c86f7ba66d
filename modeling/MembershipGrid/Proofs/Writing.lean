import MembershipGrid.Proofs.Comparing
import MembershipGrid.Proofs.Lemmas.Logs
import MembershipGrid.Proofs.Lemmas.ReportTexts
import MembershipGrid.Proofs.Lemmas.Writes

/-!
# What a comparison writes

A comparison that succeeds has read both grids before it writes anything but its logs, so what it returns
and writes comes from the files as they were, even where it replaces them.
-/

namespace MembershipGrid

/-- A file holds a content. Entries may follow it if the file is one of the logs. -/
def Disk.Written (d : Disk) (logs : Set String) (e : Disk) (path : String) (content : Bytes) : Prop :=
  ∃ rest, e.read path = .ok (content ++ rest) ∧ ((∀ log ∈ logs, d.Apart log path) → rest = [])

variable {l : Logger} {left right output path : String} {report : Option String} {w v : World}
  {tally : Tally} {c : Comparison} {r : Raster} {place : Location} {content : Bytes}

/-! ## Contents with entries after them -/

theorem Disk.written_of_read {d e : Disk} (logs : Set String) (h : e.read path = .ok content) :
    d.Written logs e path content :=
  ⟨[], by rwa [List.append_nil], fun _ => rfl⟩

theorem Disk.Written.read {d e : Disk} {logs : Set String} (h : d.Written logs e path content)
    (apart : ∀ log ∈ logs, d.Apart log path) : e.read path = .ok content := by
  obtain ⟨rest, read, whole⟩ := h
  rwa [whole apart, List.append_nil] at read

theorem Logger.read_after (level message : String) (h : v.disk.read path = .ok content) :
    ∃ rest, (l.after level message v).disk.read path = .ok (content ++ rest) := by
  cases l with
  | silent => exact ⟨[], by rwa [List.append_nil]⟩
  | writing errorLog debugLog =>
      rw [after, run_log]
      obtain ⟨rest, debug⟩ := Disk.read_addedTo h debugLog (entry (v.clock v.looks) level message)
      split
      · obtain ⟨more, error⟩ := Disk.read_addedTo debug errorLog (entry (v.clock v.looks) level message)
        exact ⟨rest ++ more, by rwa [← List.append_assoc]⟩
      · exact ⟨rest, debug⟩

theorem Disk.Written.after (h : w.disk.Written l.files v.disk path content)
    (changed : Disk.ChangedAt Set.univ w.disk v.disk) (level message : String) :
    w.disk.Written l.files (l.after level message v).disk path content := by
  obtain ⟨rest, read, whole⟩ := h
  by_cases apart : ∀ log ∈ l.files, w.disk.Apart log path
  · exact ⟨rest, (Logger.read_after_iff changed apart).mpr read, whole⟩
  · obtain ⟨more, read⟩ := Logger.read_after level message read
    exact ⟨rest ++ more, by rwa [← List.append_assoc], fun h => absurd h apart⟩

theorem Raster.decode?_encode_of_ofCells {α : Type} [Colored α] {width height : Nat} {cells : List α}
    (painted : ofCells width height cells = .ok r) (fits : width ≤ Png.maxSide ∧ height ≤ Png.maxSide) :
    Png.decode? (Png.encode r) = some r := by
  obtain ⟨rwidth, rheight, -⟩ := data_of_ofCells painted
  have whole := Png.decode?_encode (rwidth ▸ fits.1) (rheight ▸ fits.2) []
  rwa [List.append_nil] at whole

namespace Job

/-- The files that a comparison may write. -/
def comparePaths (l : Logger) (output : String) (report : Option String) : Set String :=
  l.files ∪ {output} ∪ {path | path ∈ report}

/-- What the contents of two files come to: the comparison of their grids, and its image. -/
structure Drawn (L R : Bytes) (c : Comparison) (image : Raster) : Prop where
  compared : ∃ s t g h, Text.decode? L = some s ∧ Text.decode? R = some t ∧
    Grid.ofText s = .ok g ∧ Grid.ofText t = .ok h ∧ Comparison.ofGrids g h = .ok c
  painted : Raster.ofCells c.width c.height c.cells = .ok image
  readable : Png.decode? (Png.encode image) = some image

/-! ## What may change -/

theorem changedAt_compare (l : Logger) (left right output : String) (report : Option String) (w : World) :
    Disk.ChangedAt (w.disk.targets (comparePaths l output report)) w.disk
      ((compare l left right output report).run.run w).2.disk := by
  have logs : ∀ level, level ≠ Logger.errorLevel →
      l.Adds (fun path _ => path ∈ comparePaths l output report) level :=
    fun level _ => (l.adds_files level).mono fun _ _ => Or.inl ∘ Or.inl
  exact Script.WritesOnly.run (obeys_compare logs left right (fun _ => Or.inl (Or.inr rfl))
    fun path hp _ => Or.inr hp) w

theorem changedAt_finish (l : Logger) (tally : Tally) (report : Option String) (v : World) :
    Disk.ChangedAt (v.disk.targets (l.files ∪ {path | path ∈ report})) v.disk
      ((finish l tally report).run.run v).2.disk := by
  have logs : ∀ level, level ≠ Logger.errorLevel →
      l.Adds (fun path _ => path ∈ l.files ∪ {path | path ∈ report}) level :=
    fun level _ => (l.adds_files level).mono fun _ _ => Or.inl
  refine Script.WritesOnly.run (s := (finish l tally report).run) ?_ v
  refine Script.Obeys.bindExcept (obeys_writeReport logs tally fun path hp _ => Or.inr hp) fun _ => ?_
  exact Script.Obeys.bindExcept (obeys_log (logs "INFO" (by decide)) _) fun _ => trivial

/-! ## What a comparison that succeeds has done -/

theorem exists_saves_of_run (ran : (compare l left right output report).run.run w = (.ok tally, v)) :
    ∃ c r place, Saves l left right output w c r place ∧ tally = c.tally ∧
      (finish l c.tally report).run.run (atSaved l left right output c r place w) = (.ok c.tally, v) := by
  have runs := compareRun l left right output report w
  rw [ran] at runs
  cases runs with
  | drawn saves => exact ⟨_, _, _, saves, rfl, (run_compare_of_saves none saves).symm.trans ran⟩
  | reported saves => exact ⟨_, _, _, saves, rfl, (run_compare_of_saves _ saves).symm.trans ran⟩

theorem exists_drawn_of_saves (apart : ∀ log ∈ l.files, w.disk.Apart log left ∧ w.disk.Apart log right)
    (saves : Saves l left right output w c r place) :
    ∃ L R, w.disk.read left = .ok L ∧ w.disk.read right = .ok R ∧ Drawn L R c r := by
  obtain ⟨hc, hr, fits, -⟩ := saves
  rw [onDisk_atReading_iff output (fun log h => (apart log h).1) fun log h => (apart log h).2,
    Comparison.onDisk_eq_ok_iff] at hc
  obtain ⟨g, h, hg, hh, hc⟩ := hc
  obtain ⟨s, hs, hg⟩ := Grid.onDisk_eq_ok_iff.mp hg
  obtain ⟨t, ht, hh⟩ := Grid.onDisk_eq_ok_iff.mp hh
  obtain ⟨L, hl, hs⟩ := Disk.text_eq_ok_iff.mp hs
  obtain ⟨R, hm, ht⟩ := Disk.text_eq_ok_iff.mp ht
  exact ⟨L, R, hl, hm, ⟨s, t, g, h, hs, ht, hg, hh, hc⟩, hr, Raster.decode?_encode_of_ofCells hr fits⟩

theorem read_output_of_finish (saves : Saves l left right output w c r place)
    (apart : ∀ log ∈ l.files, w.disk.Apart log output) (other : ∀ path ∈ report, w.disk.Apart path output)
    (ended : (finish l c.tally report).run.run (atSaved l left right output c r place w) = (.ok c.tally, v)) :
    v.disk.read output = .ok (Png.encode r) := by
  have saved := changedAt_atSaved saves.placed l left right c r
  have finished := changedAt_finish l c.tally report (atSaved l left right output c r place w)
  rw [ended] at finished
  refine (saved.read_then_iff finished ?_).mpr (read_atSaved saves.placed l left right c r)
  rintro p (hp | hp)
  · exact apart p hp
  · exact other p hp

theorem written_of_finish {u : World} (changed : Disk.ChangedAt Set.univ w.disk v.disk)
    (ended : (finish l tally (some path)).run.run v = (.ok tally, u)) :
    w.disk.Written l.files u.disk path (Text.encode tally.report) := by
  cases hp : v.disk.target path with
  | error e =>
      rw [run_finish_of_error l tally hp] at ended
      cases ended
  | ok place =>
      rw [run_finish_some l tally hp] at ended
      cases ended
      -- two entries are logged after the report is written
      let written : World := { v with disk := v.disk.store place (.file (Text.encode tally.report)) }
      have stored := changed.trans (Disk.changedAt_of_target hp (Text.encode tally.report)).anywhere
      have noted := stored.trans (l.changedAt_after "INFO" s!"report written to {path}" written).anywhere
      have here : w.disk.Written l.files written.disk path _ :=
        Disk.written_of_read _ (Disk.read_store_target hp _)
      exact (here.after stored _ _).after noted _ _

theorem read_report_of_finish {places : Set Location} {u : World}
    (changed : Disk.ChangedAt places w.disk v.disk) (apart : ∀ log ∈ l.files, w.disk.Apart log path)
    (ended : (finish l tally (some path)).run.run v = (.ok tally, u)) :
    u.disk.read path = .ok (Text.encode tally.report) :=
  (written_of_finish changed.anywhere ended).read apart

/-- A comparison that succeeds returns the tally of the two grids that were there before it, and leaves the
image of them and the report from which that tally is read back. An input may be replaced by either; the
report replaces the image where both have the same place. -/
theorem compare_writes_what_it_returns (l : Logger) (left right output : String) (report : Option String)
    (w v : World) (tally : Tally)
    (apart : ∀ log ∈ l.files, w.disk.Apart log left ∧ w.disk.Apart log right ∧ w.disk.Apart log output ∧
      ∀ path ∈ report, w.disk.Apart log path)
    (ran : (compare l left right output report).run.run w = (.ok tally, v)) :
    (∃ L R c image, w.disk.read left = .ok L ∧ w.disk.read right = .ok R ∧ Drawn L R c image ∧
      tally = c.tally ∧
      ((∀ path ∈ report, w.disk.Apart path output) → v.disk.read output = .ok (Png.encode image))) ∧
    (∀ path ∈ report, v.disk.read path = .ok (Text.encode tally.report) ∧ tally.ReportedIn tally.report) ∧
    Disk.ChangedAt (w.disk.targets (comparePaths l output report)) w.disk v.disk := by
  obtain ⟨c, r, place, saves, rfl, ended⟩ := exists_saves_of_run ran
  refine ⟨?_, ?_, ?_⟩
  · obtain ⟨L, R, hl, hr, drawn⟩ :=
      exists_drawn_of_saves (fun log h => ⟨(apart log h).1, (apart log h).2.1⟩) saves
    exact ⟨L, R, c, r, hl, hr, drawn, rfl, fun other =>
      read_output_of_finish saves (fun log h => (apart log h).2.2.1) other ended⟩
  · rintro path rfl
    have saved := changedAt_atSaved saves.placed l left right c r
    have reported := read_report_of_finish saved (fun log h => (apart log h).2.2.2 path rfl) ended
    exact ⟨reported, c.tally.reportedIn_report⟩
  · have changed := changedAt_compare l left right output report w
    rw [ran] at changed
    exact changed

theorem exists_run_compare (apart : ∀ log ∈ l.files, w.disk.Apart log left ∧ w.disk.Apart log right)
    (hc : Comparison.onDisk w.disk left right = .ok c) (fits : c.width ≤ Png.maxSide ∧ c.height ≤ Png.maxSide)
    (writable : ∃ place, w.disk.target output = .ok place)
    (reportable : ∀ path ∈ report, ∃ place, w.disk.target path = .ok place) :
    ∃ v, (compare l left right output report).run.run w = (.ok c.tally, v) := by
  obtain ⟨place, ht⟩ := writable
  have read := (onDisk_atReading_iff output (fun log h => (apart log h).1)
    fun log h => (apart log h).2).mpr hc
  obtain ⟨r, hr⟩ := Raster.exists_ofCells_iff.mpr c.length_cells
  have ran := run_compare_of_saves report ⟨read, hr, fits, ht⟩
  cases report with
  | none => exact ⟨_, ran.trans (run_finish_none l c.tally _)⟩
  | some path =>
      obtain ⟨place', hp⟩ := reportable path rfl
      have kept := (changedAt_atSaved ht l left right c r).target_eq_ok_iff.mpr hp
      exact ⟨_, ran.trans (run_finish_some l c.tally kept)⟩

theorem compare_writes_over_twoTexts :
    ∃ v image,
      (compare (.writing "e.log" "d.log") "a" "b" "a" (some "b")).run.run twoTexts =
          (.ok ⟨2, 2, 2, 1, 0, 1, 1⟩, v) ∧
        v.disk.read "a" = .ok (Png.encode image) ∧
        v.disk.read "b" = .ok (Text.encode ("\x7b\n  \"width\": 2,\n  \"height\": 2,\n" ++
          "  \"agree_member\": 2,\n  \"agree_outside\": 1,\n" ++
          "  \"false_member\": 0,\n  \"false_outside\": 1,\n  \"mismatched\": 1\n\x7d")) := by
  have apart : ∀ log ∈ (Logger.writing "e.log" "d.log").files,
      twoTexts.disk.Apart log "a" ∧ twoTexts.disk.Apart log "b" := by
    rintro log (rfl | rfl) <;> refine ⟨?_, ?_⟩ <;> intro place h <;> cases h <;> decide
  have left : Grid.onDisk twoTexts.disk "a" = .ok .diagonal :=
    (Grid.onDisk_eq_ok_iff_of_read rfl).mpr ⟨_, Text.decode?_encode "x.\n.x", by decide⟩
  have right : Grid.onDisk twoTexts.disk "b" =
      .ok ⟨2, 2, [.member, .member, .outside, .member], by decide, by decide, by decide⟩ :=
    (Grid.onDisk_eq_ok_iff_of_read rfl).mpr ⟨_, Text.decode?_encode "xx\r\n.x\r\n", by decide⟩
  have writable : ∃ place, twoTexts.disk.target "a" = .ok place := ⟨["desk", "a"], rfl⟩
  have reportable : ∀ path ∈ some "b", ∃ place, twoTexts.disk.target path = .ok place := by
    rintro path ⟨⟩
    exact ⟨["desk", "b"], rfl⟩
  obtain ⟨v, ran⟩ := exists_run_compare apart (Comparison.onDisk_eq_ok_iff.mpr ⟨_, _, left, right, rfl⟩)
    (by decide) writable reportable
  obtain ⟨⟨L, R, c, image, -, -, -, -, drawn⟩, reported, -⟩ :=
    compare_writes_what_it_returns (.writing "e.log" "d.log") "a" "b" "a" (some "b") twoTexts v _ (by
      refine fun log h => ⟨(apart log h).1, (apart log h).2, (apart log h).1, ?_⟩
      rintro path ⟨⟩
      exact (apart log h).2) ran
  refine ⟨v, image, ran, drawn ?_, (reported "b" rfl).1.trans (by decide +kernel)⟩
  rintro path ⟨⟩ place h
  cases h
  decide

end Job

end MembershipGrid
