import MembershipGrid.Job.Embed
import MembershipGrid.Job.Images
import MembershipGrid.Proofs.Lemmas.Comparisons
import MembershipGrid.Proofs.Painting

/-!
# Runs of jobs

What the steps of a job come to on a disk, and how a comparison goes on from its grids to its image.
-/

namespace MembershipGrid

variable {α : Type} {l : Logger} {left right output path : String} {report : Option String}
  {w v : World} {r : Raster} {c : Comparison}

/-! ## Steps -/

theorem Job.run_gridStep (about : String) {s : ExceptT GridError Script α} {outcome : Except GridError α}
    (h : s.run.run w = (outcome, v)) :
    (Job.gridStep about s).run.run w =
      (outcome.mapError fun e => (Failure.ofCause (.grid e)).within about, v) := by
  change (Functor.map _ s.run : Script _).run w = _
  rw [← bind_pure_comp, Script.run_bind, h]
  rfl

theorem Job.run_fileStep (about : String) {s : Script (Except StorageError α)}
    {outcome : Except StorageError α} (h : s.run w = (outcome, v)) :
    (Job.fileStep about s).run.run w =
      (outcome.mapError fun e => (Failure.ofCause (.storage e)).within about, v) := by
  change (Functor.map _ s : Script _).run w = _
  rw [← bind_pure_comp, Script.run_bind, h]
  rfl

theorem Script.run_writeBytes {place : Location} (ht : w.disk.target path = .ok place) (content : Bytes) :
    (Script.writeBytes path content).run w =
      (.ok (), { w with disk := w.disk.store place (.file content) }) := by
  have hd : w.disk.replace path content = .ok (w.disk.store place (.file content)) :=
    Disk.replace_eq_ok_iff.mpr ⟨place, ht, rfl⟩
  simp only [Script.writeBytes, Script.run, hd]

theorem Script.run_writeBytes_of_error {e : StorageError} (ht : w.disk.target path = .error e)
    (content : Bytes) : (Script.writeBytes path content).run w = (.error e, w) := by
  have hd : w.disk.replace path content = .error e := by
    rw [Disk.replace, ht]
    rfl
  simp only [Script.writeBytes, Script.run, hd]

theorem Job.run_writeText {place : Location} (ht : w.disk.target path = .ok place) (text : String) :
    (Job.writeText path text).run.run w =
      (.ok (), { w with disk := w.disk.store place (.file (Text.encode text)) }) :=
  Job.run_fileStep _ (Script.run_writeBytes ht (Text.encode text))

theorem Job.run_writeText_of_error {e : StorageError} (ht : w.disk.target path = .error e) (text : String) :
    (Job.writeText path text).run.run w =
      (.error ((Failure.ofCause (.storage e)).within s!"Failed to write file: {Text.quoted path}"), w) :=
  Job.run_fileStep _ (Script.run_writeBytes_of_error ht (Text.encode text))

theorem Raster.run_writeImage {place : Location} (ht : w.disk.target path = .ok place) (content : Bytes) :
    (Raster.writeImage path content).run.run w =
      (.ok (), { w with disk := w.disk.store place (.file content) }) := by
  rw [Raster.writeImage, Script.run_bind_of_ok (Script.run_liftM _ w), Script.run_writeBytes ht]
  rfl

theorem Raster.run_writeImage_of_error {e : StorageError} (ht : w.disk.target path = .error e)
    (content : Bytes) : (Raster.writeImage path content).run.run w = (.error (.storage path e), w) := by
  rw [Raster.writeImage, Script.run_bind_of_ok (Script.run_liftM _ w), Script.run_writeBytes_of_error ht]
  rfl

theorem Raster.save_of_fits (fits : r.width ≤ Png.maxSide ∧ r.height ≤ Png.maxSide) (path : String) :
    r.save path = r.write path := by
  rw [Raster.save, if_neg (by omega), Raster.ofBytes?_data]

theorem Raster.run_save {place : Location} (ht : w.disk.target path = .ok place)
    (hw : 0 < r.width ∧ r.width ≤ Png.maxSide) (hh : 0 < r.height ∧ r.height ≤ Png.maxSide) :
    (r.save path).run.run w = (.ok (), { w with disk := w.disk.store place (.file (Png.encode r)) }) := by
  rw [Raster.save_of_fits ⟨hw.2, hh.2⟩, Raster.write, if_neg (by omega), if_neg (by omega),
    Raster.run_writeImage ht]

theorem Raster.run_save_of_not_ok (hw : 0 < r.width) (hh : 0 < r.height)
    (h : ¬((r.width ≤ Png.maxSide ∧ r.height ≤ Png.maxSide) ∧ ∃ place, w.disk.target path = .ok place)) :
    ∃ e, (r.save path).run.run w = (.error e, w) := by
  by_cases fits : r.width ≤ Png.maxSide ∧ r.height ≤ Png.maxSide
  · cases ht : w.disk.target path with
    | ok place => exact absurd ⟨fits, place, ht⟩ h
    | error e =>
        rw [Raster.save_of_fits fits, Raster.write, if_neg (by omega), if_neg (by omega),
          Raster.run_writeImage_of_error ht]
        exact ⟨_, rfl⟩
  · rw [Raster.save, if_pos (by omega)]
    exact ⟨_, rfl⟩

/-! ## Drawing a table -/

section Drawing

variable [Colored α] {t : Table α}

theorem Job.paint_eq (hr : Raster.ofCells t.width t.height t.cells = .ok r) : Job.paint t = pure r := by
  rw [Job.paint, hr]
  rfl

theorem Raster.run_save_of_ofCells (hr : Raster.ofCells t.width t.height t.cells = .ok r)
    (fits : t.width ≤ Png.maxSide ∧ t.height ≤ Png.maxSide) {place : Location}
    (ht : w.disk.target path = .ok place) :
    (r.save path).run.run w = (.ok (), { w with disk := w.disk.store place (.file (Png.encode r)) }) := by
  obtain ⟨width, height, -⟩ := Raster.data_of_ofCells hr
  exact Raster.run_save ht ⟨width ▸ t.width_pos, width ▸ fits.1⟩ ⟨height ▸ t.height_pos, height ▸ fits.2⟩

theorem Raster.exists_ofCells_of_not_saved
    (h : ¬((t.width ≤ Png.maxSide ∧ t.height ≤ Png.maxSide) ∧ ∃ place, w.disk.target path = .ok place)) :
    ∃ r e, Raster.ofCells t.width t.height t.cells = .ok r ∧ (r.save path).run.run w = (.error e, w) := by
  obtain ⟨r, hr⟩ := Raster.exists_ofCells_iff.mpr t.length_cells
  obtain ⟨width, height, -⟩ := Raster.data_of_ofCells hr
  rw [← width, ← height] at h
  obtain ⟨e, hs⟩ := Raster.run_save_of_not_ok (width ▸ t.width_pos) (height ▸ t.height_pos) h
  exact ⟨r, e, hr, hs⟩

end Drawing

/-! ## Comparing -/

namespace Job

/-- The world in which the grids of a comparison are read. -/
def atReading (l : Logger) (left right output : String) (w : World) : World :=
  l.after "INFO" s!"compare: left={left} right={right} output={output}" w

def atSaving (l : Logger) (left right output : String) (c : Comparison) (w : World) : World :=
  l.after "DEBUG" s!"tally: {c.tally.note}" (atReading l left right output w)

theorem changedAt_atReading (l : Logger) (left right output : String) (w : World) :
    Disk.ChangedAt (w.disk.targets l.files) w.disk (atReading l left right output w).disk :=
  l.changedAt_after _ _ w

theorem changedAt_atSaving (l : Logger) (left right output : String) (c : Comparison) (w : World) :
    Disk.ChangedAt (w.disk.targets l.files) w.disk (atSaving l left right output c w).disk :=
  Logger.changedAt_then_after (changedAt_atReading l left right output w)

theorem onDisk_atReading_iff (output : String) (apart_left : ∀ log ∈ l.files, w.disk.Apart log left)
    (apart_right : ∀ log ∈ l.files, w.disk.Apart log right) :
    Comparison.onDisk (atReading l left right output w).disk left right = .ok c ↔
      Comparison.onDisk w.disk left right = .ok c :=
  (changedAt_atReading l left right output w).onDisk_comparison_iff
    (Disk.locate_ne_of_apart apart_left) (Disk.locate_ne_of_apart apart_right)

theorem run_log (l : Logger) (level message : String) (w : World) :
    (liftM (l.log level message) : Job Unit).run.run w = (.ok (), l.after level message w) :=
  Script.run_liftM _ w

theorem run_compare_of_error {e : GridError}
    (hc : Comparison.onDisk (atReading l left right output w).disk left right = .error e) :
    (compare l left right output report).run.run w =
      (.error ((Failure.ofCause (.grid e)).within s!"failed to compare {left} with {right}"),
        atReading l left right output w) := by
  have compared := Comparison.run_ofFiles left right (atReading l left right output w)
  rw [hc] at compared
  refine (Script.run_bind_of_ok (run_log l "INFO" _ w)).trans ?_
  exact Script.run_bind_of_error (run_gridStep _ compared)

def finish (l : Logger) (tally : Tally) (report : Option String) : Job Tally := do
  writeReport l tally report
  l.info
    s!"wrote {tally.width}x{tally.height} difference image, {tally.mismatched} mismatched cells"
  return tally

/-- A comparison is painted and saved before anything else is done with it. -/
theorem run_compare_eq {outcome : Except GridError Unit}
    (hc : Comparison.onDisk (atReading l left right output w).disk left right = .ok c)
    (hr : Raster.ofCells c.width c.height c.cells = .ok r)
    (hs : (r.save output).run.run (atSaving l left right output c w) = (outcome, v)) :
    (compare l left right output report).run.run w =
      match outcome with
      | .error e =>
        (.error ((Failure.ofCause (.grid e)).within s!"failed to write difference image {output}"), v)
      | .ok () => (finish l c.tally report).run.run v := by
  have compared := Comparison.run_ofFiles left right (atReading l left right output w)
  rw [hc] at compared
  refine (Script.run_bind_of_ok (run_log l "INFO" _ w)).trans ?_
  refine (Script.run_bind_of_ok (run_gridStep _ compared)).trans ?_
  refine (Script.run_bind_of_ok (run_log l "DEBUG" _ _)).trans ?_
  rw [paint_eq hr, pure_bind]
  cases outcome with
  | error e => exact Script.run_bind_of_error (run_gridStep _ hs)
  | ok => exact Script.run_bind_of_ok (run_gridStep _ hs)

def atEnd (l : Logger) (tally : Tally) (v : World) : World :=
  l.after "INFO"
    s!"wrote {tally.width}x{tally.height} difference image, {tally.mismatched} mismatched cells" v

theorem run_finish_none (l : Logger) (tally : Tally) (v : World) :
    (finish l tally none).run.run v = (.ok tally, atEnd l tally v) := by
  rw [finish, writeReport, pure_bind]
  exact Script.run_bind_of_ok (run_log l "INFO" _ v)

def atReported (l : Logger) (tally : Tally) (path : String) (place : Location) (v : World) : World :=
  l.after "INFO" s!"report written to {path}"
    { v with disk := v.disk.store place (.file (Text.encode tally.report)) }

theorem run_finish_some {place : Location} (l : Logger) (tally : Tally)
    (ht : v.disk.target path = .ok place) :
    (finish l tally (some path)).run.run v = (.ok tally, atEnd l tally (atReported l tally path place v)) := by
  have written := run_writeText ht tally.report
  refine (Script.run_bind_of_ok ((Script.run_bind_of_ok written).trans (run_log l "INFO" _ _))).trans ?_
  exact Script.run_bind_of_ok (run_log l "INFO" _ _)

theorem run_finish_of_error {e : StorageError} (l : Logger) (tally : Tally)
    (ht : v.disk.target path = .error e) :
    (finish l tally (some path)).run.run v =
      (.error ((Failure.ofCause (.storage e)).within s!"Failed to write file: {Text.quoted path}"), v) :=
  Script.run_bind_of_error (Script.run_bind_of_error (run_writeText_of_error ht tally.report))

def atSaved (l : Logger) (left right output : String) (c : Comparison) (r : Raster) (place : Location)
    (w : World) : World :=
  let v := atSaving l left right output c w
  { v with disk := v.disk.store place (.file (Png.encode r)) }

theorem changedAt_atSaved {place : Location} (ht : w.disk.target output = .ok place) (l : Logger)
    (left right : String) (c : Comparison) (r : Raster) :
    Disk.ChangedAt (w.disk.targets l.files ∪ {place}) w.disk
      (atSaved l left right output c r place w).disk := by
  have drawn := changedAt_atSaving l left right output c w
  obtain ⟨-, -, -, hd⟩ := Disk.target_eq_ok_iff.mp (drawn.target_eq_ok_iff.mpr ht)
  have stored := Disk.changedAt_store (Disk.root_ne_of_target ht) hd (Png.encode r)
  exact (drawn.mono Set.subset_union_left).trans (stored.mono Set.subset_union_right)

theorem read_atSaved {place : Location} (ht : w.disk.target output = .ok place) (l : Logger)
    (left right : String) (c : Comparison) (r : Raster) :
    (atSaved l left right output c r place w).disk.read output = .ok (Png.encode r) :=
  Disk.read_store_target ((changedAt_atSaving l left right output c w).target_eq_ok_iff.mpr ht) _

/-- A comparison with an image that fits into a file and has a place to go. -/
structure Saves (l : Logger) (left right output : String) (w : World) (c : Comparison) (r : Raster)
    (place : Location) : Prop where
  compared : Comparison.onDisk (atReading l left right output w).disk left right = .ok c
  painted : Raster.ofCells c.width c.height c.cells = .ok r
  fits : c.width ≤ Png.maxSide ∧ c.height ≤ Png.maxSide
  placed : w.disk.target output = .ok place

theorem run_compare_of_saves {place : Location} (report : Option String)
    (h : Saves l left right output w c r place) :
    (compare l left right output report).run.run w =
      (finish l c.tally report).run.run (atSaved l left right output c r place w) := by
  have placed := (changedAt_atSaving l left right output c w).target_eq_ok_iff.mpr h.placed
  exact run_compare_eq h.compared h.painted (Raster.run_save_of_ofCells h.painted h.fits placed)

/-- How far a comparison gets, what it returns and the world it leaves. -/
inductive CompareRun (l : Logger) (left right output : String) (w : World) :
    Option String → Except Failure Tally × World → Prop where
  | unread {report : Option String} {e : GridError}
      (hc : Comparison.onDisk (atReading l left right output w).disk left right = .error e) :
      CompareRun l left right output w report
        (.error ((Failure.ofCause (.grid e)).within s!"failed to compare {left} with {right}"),
          atReading l left right output w)
  | unsaved {report : Option String} {c : Comparison} {r : Raster} {e : GridError}
      (hc : Comparison.onDisk (atReading l left right output w).disk left right = .ok c)
      (hr : Raster.ofCells c.width c.height c.cells = .ok r)
      (hs : (r.save output).run.run (atSaving l left right output c w) =
        (.error e, atSaving l left right output c w)) :
      CompareRun l left right output w report
        (.error ((Failure.ofCause (.grid e)).within s!"failed to write difference image {output}"),
          atSaving l left right output c w)
  | unreported {path : String} {c : Comparison} {r : Raster} {place : Location} {e : StorageError}
      (hs : Saves l left right output w c r place)
      (hp : (atSaved l left right output c r place w).disk.target path = .error e) :
      CompareRun l left right output w (some path)
        (.error ((Failure.ofCause (.storage e)).within s!"Failed to write file: {Text.quoted path}"),
          atSaved l left right output c r place w)
  | drawn {c : Comparison} {r : Raster} {place : Location} (hs : Saves l left right output w c r place) :
      CompareRun l left right output w none
        (.ok c.tally, atEnd l c.tally (atSaved l left right output c r place w))
  | reported {path : String} {c : Comparison} {r : Raster} {place place' : Location}
      (hs : Saves l left right output w c r place)
      (hp : (atSaved l left right output c r place w).disk.target path = .ok place') :
      CompareRun l left right output w (some path)
        (.ok c.tally, atEnd l c.tally
          (atReported l c.tally path place' (atSaved l left right output c r place w)))

theorem compareRun (l : Logger) (left right output : String) (report : Option String) (w : World) :
    CompareRun l left right output w report ((compare l left right output report).run.run w) := by
  cases hc : Comparison.onDisk (atReading l left right output w).disk left right with
  | error e =>
      rw [run_compare_of_error hc]
      exact .unread hc
  | ok c =>
      by_cases saved : (c.width ≤ Png.maxSide ∧ c.height ≤ Png.maxSide) ∧
          ∃ place, w.disk.target output = .ok place
      · obtain ⟨fits, place, ht⟩ := saved
        obtain ⟨r, hr⟩ := Raster.exists_ofCells_iff.mpr c.length_cells
        have saves : Saves l left right output w c r place := ⟨hc, hr, fits, ht⟩
        rw [run_compare_of_saves report saves]
        cases report with
        | none =>
            rw [run_finish_none]
            exact .drawn saves
        | some path =>
            cases hp : (atSaved l left right output c r place w).disk.target path with
            | error e =>
                rw [run_finish_of_error l c.tally hp]
                exact .unreported saves hp
            | ok place' =>
                rw [run_finish_some l c.tally hp]
                exact .reported saves hp
      · simp only [← (changedAt_atSaving l left right output c w).target_eq_ok_iff] at saved
        obtain ⟨r, e, hr, hs⟩ := Raster.exists_ofCells_of_not_saved saved
        rw [run_compare_eq hc hr hs]
        exact .unsaved hc hr hs

/-! ## Rendering and embedding -/

def atRendering (l : Logger) (input output : String) (w : World) : World :=
  l.after "INFO" s!"render: input={input} output={output}" w

def atEmbedding (l : Logger) (input output symbol : String) (w : World) : World :=
  l.after "INFO" s!"embed: input={input} output={output} symbol={symbol}" w

theorem run_render_of_error {input : String} {e : GridError}
    (hg : Grid.onDisk (atRendering l input output w).disk input = .error e) :
    (render l input output).run.run w =
      (.error ((Failure.ofCause (.grid e)).within s!"failed to load {input}"),
        atRendering l input output w) := by
  have loaded := Grid.run_ofFile input (atRendering l input output w)
  rw [hg] at loaded
  refine (Script.run_bind_of_ok (run_log l "INFO" _ w)).trans ?_
  exact Script.run_bind_of_error (run_gridStep _ loaded)

/-- How far rendering gets and the world it leaves. -/
inductive RenderRun (l : Logger) (input output : String) (w : World) :
    Except Failure Unit × World → Prop where
  | unread {e : GridError} (hg : Grid.onDisk (atRendering l input output w).disk input = .error e) :
      RenderRun l input output w
        (.error ((Failure.ofCause (.grid e)).within s!"failed to load {input}"), atRendering l input output w)
  | unsaved {g : Grid} {r : Raster} {e : GridError}
      (hg : Grid.onDisk (atRendering l input output w).disk input = .ok g)
      (hr : Raster.ofCells g.width g.height g.cells = .ok r)
      (hs : (r.save output).run.run (atRendering l input output w) =
        (.error e, atRendering l input output w)) :
      RenderRun l input output w
        (.error ((Failure.ofCause (.grid e)).within s!"failed to write image {output}"),
          atRendering l input output w)
  | drawn {g : Grid} {r : Raster} {place : Location}
      (hg : Grid.onDisk (atRendering l input output w).disk input = .ok g)
      (hr : Raster.ofCells g.width g.height g.cells = .ok r)
      (fits : g.width ≤ Png.maxSide ∧ g.height ≤ Png.maxSide)
      (ht : (atRendering l input output w).disk.target output = .ok place) :
      RenderRun l input output w
        (.ok (), l.after "INFO" s!"wrote {g.width}x{g.height} image"
          { atRendering l input output w with
            disk := (atRendering l input output w).disk.store place (.file (Png.encode r)) })

theorem run_render_eq {input : String} {g : Grid} {outcome : Except GridError Unit}
    (hg : Grid.onDisk (atRendering l input output w).disk input = .ok g)
    (hr : Raster.ofCells g.width g.height g.cells = .ok r)
    (hs : (r.save output).run.run (atRendering l input output w) = (outcome, v)) :
    (render l input output).run.run w =
      match outcome with
      | .error e => (.error ((Failure.ofCause (.grid e)).within s!"failed to write image {output}"), v)
      | .ok () => (.ok (), l.after "INFO" s!"wrote {g.width}x{g.height} image" v) := by
  have loaded := Grid.run_ofFile input (atRendering l input output w)
  rw [hg] at loaded
  refine (Script.run_bind_of_ok (run_log l "INFO" _ w)).trans ?_
  refine (Script.run_bind_of_ok (run_gridStep _ loaded)).trans ?_
  rw [paint_eq hr, pure_bind]
  cases outcome with
  | error e => exact Script.run_bind_of_error (run_gridStep _ hs)
  | ok => exact (Script.run_bind_of_ok (run_gridStep _ hs)).trans (run_log l "INFO" _ v)

theorem renderRun (l : Logger) (input output : String) (w : World) :
    RenderRun l input output w ((render l input output).run.run w) := by
  cases hg : Grid.onDisk (atRendering l input output w).disk input with
  | error e =>
      rw [run_render_of_error hg]
      exact .unread hg
  | ok g =>
      by_cases saved : (g.width ≤ Png.maxSide ∧ g.height ≤ Png.maxSide) ∧
          ∃ place, (atRendering l input output w).disk.target output = .ok place
      · obtain ⟨fits, place, ht⟩ := saved
        obtain ⟨r, hr⟩ := Raster.exists_ofCells_iff.mpr g.length_cells
        rw [run_render_eq hg hr (Raster.run_save_of_ofCells hr fits ht)]
        exact .drawn hg hr fits ht
      · obtain ⟨r, e, hr, hs⟩ := Raster.exists_ofCells_of_not_saved saved
        rw [run_render_eq hg hr hs]
        exact .unsaved hg hr hs

theorem run_readBytes (path : String) (w : World) :
    (readBytes path).run.run w =
      ((w.disk.read path).mapError fun e =>
        (Failure.ofCause (.storage e)).within s!"Failed to read file: {Text.quoted path}", w) :=
  run_fileStep _ rfl

theorem run_embed_of_error {input symbol : String} {e : StorageError}
    (hr : (atEmbedding l input output symbol w).disk.read input = .error e) :
    (embed l input output symbol).run.run w =
      (.error ((Failure.ofCause (.storage e)).within s!"Failed to read file: {Text.quoted input}"),
        atEmbedding l input output symbol w) := by
  have bytes := run_readBytes input (atEmbedding l input output symbol w)
  rw [hr] at bytes
  exact (Script.run_bind_of_ok (run_log l "INFO" _ w)).trans (Script.run_bind_of_error bytes)

theorem run_embed_of_symbol {input symbol : String} {content : Bytes}
    (hr : (atEmbedding l input output symbol w).disk.read input = .ok content)
    (hs : Embedding.isIdentifier symbol = false) :
    (embed l input output symbol).run.run w =
      (.error (.ofCause (.identifier symbol)), atEmbedding l input output symbol w) := by
  have bytes := run_readBytes input (atEmbedding l input output symbol w)
  rw [hr] at bytes
  refine (Script.run_bind_of_ok (run_log l "INFO" _ w)).trans ((Script.run_bind_of_ok bytes).trans ?_)
  rw [Embedding.arrayDefinition?, hs]
  rfl

end Job

end MembershipGrid
