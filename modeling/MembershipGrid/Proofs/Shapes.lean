import MembershipGrid.Proofs.Lemmas.Jobs

/-!
# Shapes from the text to the image

The sides that are read off a text are those of the grid, of a comparison and of the raster, each of which
has exactly as many cells or bytes as its sides ask for. So of the checks of sizes on the way, only the one
for sides that are too long can fail.
-/

namespace MembershipGrid

variable {α β ε : Type} {path : String} {w v : World} {r : Raster}

/-- A failure of a certain kind. -/
def FailsWith (kind : ε → Prop) : Except ε α → Prop
  | .error e => kind e
  | .ok _ => False

/-- Something does not have the size that it should have. -/
def GridError.OfSize : GridError → Prop
  | .wrongSize .. => True
  | _ => False

def Failure.OfSize (f : Failure) : Prop :=
  match f.cause with
  | .grid e => e.OfSize
  | _ => False

/-- A table that can be cut into its rows by their width alone. -/
structure Table.Regular (t : Table α) : Prop where
  sides : 0 < t.width ∧ 0 < t.height
  cells : t.cells.length = t.width * t.height
  pieces : RowMajor.pieces t.width t.cells = t.rows
  length_rows : t.rows.length = t.height
  length_row : ∀ row ∈ t.rows, row.length = t.width
  flatten_rows : t.rows.flatten = t.cells

/-- A raster with a byte for every channel. Its size is refused for an image only if a side is too long. -/
structure Raster.Regular (r : Raster) : Prop where
  sides : 0 < r.width ∧ 0 < r.height
  bytes : r.data.length = 3 * r.width * r.height
  buffer : Raster.ofBytes? r.width r.height r.data = some r
  refused : ∀ path w, FailsWith GridError.OfSize ((r.save path).run.run w).1 ↔
    Png.maxSide < r.width ∨ Png.maxSide < r.height

theorem Table.regular (t : Table α) : t.Regular where
  sides := ⟨t.width_pos, t.height_pos⟩
  cells := t.length_cells
  pieces := RowMajor.pieces_eq_rows t.width_pos t.length_cells
  length_rows := t.length_rows
  length_row := fun _ => Table.length_of_mem_rows
  flatten_rows := t.flatten_rows

/-! ## Reading -/

theorem failsWith_bind {kind : ε → Prop} {x : Except ε α} {next : α → Except ε β} :
    FailsWith kind (x >>= next) ↔ FailsWith kind x ∨ ∃ a, x = .ok a ∧ FailsWith kind (next a) := by
  cases x with
  | error e =>
      constructor
      · exact Or.inl
      · rintro (h | ⟨_, h, -⟩)
        · exact h
        · cases h
  | ok a =>
      constructor
      · exact fun h => Or.inr ⟨a, rfl, h⟩
      · rintro (h | ⟨_, h, hn⟩)
        · exact h.elim
        · cases h
          exact hn

namespace Grid

theorem readCells_not_ofSize (line column : Nat) (row : List Char) :
    ¬FailsWith GridError.OfSize (readCells line column row) := by
  induction row generalizing column with
  | nil => exact id
  | cons c row ih =>
      rw [readCells]
      split
      · exact id
      · rw [failsWith_bind]
        rintro (more | ⟨_, -, h⟩)
        · exact ih (column + 1) more
        · exact h

theorem readRows_not_ofSize (width line : Nat) (rows : List (List Char)) :
    ¬FailsWith GridError.OfSize (readRows width line rows) := by
  induction rows generalizing line with
  | nil => exact id
  | cons row rows ih =>
      rw [readRows, failsWith_bind, readRow]
      rintro (first | ⟨_, -, h⟩)
      · split at first
        · exact readCells_not_ofSize line 1 row first
        · exact first
      · rcases failsWith_bind.mp h with more | ⟨_, -, h⟩
        · exact ih (line + 1) more
        · exact h

theorem ofText_not_ofSize (text : String) : ¬FailsWith GridError.OfSize (ofText text) := by
  unfold ofText
  split
  · exact id
  · rename_i first rest _
    have rows := readRows_not_ofSize first.length 1 (first :: rest)
    split
    · rename_i read
      rwa [read] at rows
    · split <;> exact id

theorem onDisk_not_ofSize (d : Disk) (path : String) : ¬FailsWith GridError.OfSize (onDisk d path) := by
  rw [onDisk, failsWith_bind]
  rintro (unread | ⟨text, -, h⟩)
  · cases ht : d.text path <;> rw [ht] at unread <;> exact unread
  · exact ofText_not_ofSize text h

end Grid

theorem Comparison.onDisk_not_ofSize (d : Disk) (left right : String) :
    ¬FailsWith GridError.OfSize (onDisk d left right) := by
  rw [onDisk, failsWith_bind]
  rintro (first | ⟨_, -, h⟩)
  · exact Grid.onDisk_not_ofSize d left first
  · rcases failsWith_bind.mp h with second | ⟨_, -, h⟩
    · exact Grid.onDisk_not_ofSize d right second
    · rw [ofGrids] at h
      split at h
      · split at h <;> exact h
      · exact h

/-! ## Images -/

namespace Raster

theorem writeImage_not_ofSize (path : String) (content : Bytes) (w : World) :
    ¬FailsWith GridError.OfSize ((writeImage path content).run.run w).1 := by
  cases ht : w.disk.target path with
  | error reason =>
      rw [run_writeImage_of_error ht]
      exact id
  | ok place =>
      rw [run_writeImage ht]
      exact id

theorem writeImage_then_not_ofSize (path : String) (content : Bytes) (reason : StorageError) (w : World) :
    ¬FailsWith GridError.OfSize ((writeImage path content >>= fun _ => throw (.storage path reason) :
      ExceptT GridError Script Unit).run.run w).1 := by
  have written := writeImage_not_ofSize path content w
  cases ran : (writeImage path content).run.run w with
  | mk outcome v =>
      rw [ran] at written
      cases outcome with
      | error e =>
          rw [Script.run_bind_of_error ran]
          exact written
      | ok =>
          rw [Script.run_bind_of_ok ran]
          exact id

theorem save_ofSize_iff (r : Raster) (path : String) (w : World) :
    FailsWith GridError.OfSize ((r.save path).run.run w).1 ↔
      Png.maxSide < r.width ∨ Png.maxSide < r.height := by
  by_cases large : Png.maxSide < r.width ∨ Png.maxSide < r.height
  · rw [save, if_pos large]
    exact ⟨fun _ => large, fun _ => trivial⟩
  · refine ⟨fun wrong => absurd wrong ?_, fun h => absurd h large⟩
    rw [save_of_fits (by omega), write]
    split
    · exact writeImage_then_not_ofSize path [] .zeroWidth w
    · split
      · exact writeImage_then_not_ofSize path [] .zeroHeight w
      · exact writeImage_not_ofSize path _ w

theorem exists_ofCells_regular [Colored α] (t : Table α) :
    ∃ r, ofCells t.width t.height t.cells = .ok r ∧ r.width = t.width ∧ r.height = t.height ∧ r.Regular := by
  obtain ⟨r, hr⟩ := exists_ofCells_iff.mpr t.length_cells
  obtain ⟨width, height, -⟩ := data_of_ofCells hr
  refine ⟨r, hr, width, height, ⟨?_, ?_⟩, ?_, r.ofBytes?_data, r.save_ofSize_iff⟩
  · exact width ▸ t.width_pos
  · exact height ▸ t.height_pos
  · rw [r.length_data, Nat.mul_comm, Nat.mul_assoc]

theorem save_ofSize_iff_of_ofCells [Colored α] {t : Table α} {outcome : Except GridError Unit}
    (hr : ofCells t.width t.height t.cells = .ok r) (hs : (r.save path).run.run w = (outcome, v)) :
    FailsWith GridError.OfSize outcome ↔ Png.maxSide < t.width ∨ Png.maxSide < t.height := by
  obtain ⟨width, height, -⟩ := data_of_ofCells hr
  have saved := r.save_ofSize_iff path w
  rwa [hs, width, height] at saved

end Raster

/-! ## Commands -/

namespace Job

theorem compare_ofSize_iff (l : Logger) (left right output : String) (report : Option String) (w : World) :
    FailsWith Failure.OfSize ((compare l left right output report).run.run w).1 ↔
      ∃ c, Comparison.onDisk (atReading l left right output w).disk left right = .ok c ∧
        (Png.maxSide < c.width ∨ Png.maxSide < c.height) := by
  have ran := compareRun l left right output report w
  generalize (compare l left right output report).run.run w = outcome at ran ⊢
  cases ran with
  | unread hc =>
      have reading := Comparison.onDisk_not_ofSize (atReading l left right output w).disk left right
      simp only [hc, reduceCtorEq, false_and, exists_false, iff_false] at reading ⊢
      exact reading
  | unsaved hc hr hs =>
      simp only [hc, Except.ok.injEq, exists_eq_left']
      exact Raster.save_ofSize_iff_of_ofCells hr hs
  | unreported hs | drawn hs | reported hs =>
      simp only [hs.compared, Except.ok.injEq, exists_eq_left']
      exact ⟨False.elim, fun large => by have := hs.fits; omega⟩

theorem render_ofSize_iff (l : Logger) (input output : String) (w : World) :
    FailsWith Failure.OfSize ((render l input output).run.run w).1 ↔
      ∃ g, Grid.onDisk (atRendering l input output w).disk input = .ok g ∧
        (Png.maxSide < g.width ∨ Png.maxSide < g.height) := by
  have ran := renderRun l input output w
  generalize (render l input output).run.run w = outcome at ran ⊢
  cases ran with
  | unread hg =>
      have reading := Grid.onDisk_not_ofSize (atRendering l input output w).disk input
      simp only [hg, reduceCtorEq, false_and, exists_false, iff_false] at reading ⊢
      exact reading
  | unsaved hg hr hs =>
      simp only [hg, Except.ok.injEq, exists_eq_left']
      exact Raster.save_ofSize_iff_of_ofCells hr hs
  | drawn hg hr fits ht =>
      simp only [hg, Except.ok.injEq, exists_eq_left']
      exact ⟨False.elim, fun large => by omega⟩

end Job

/-! ## The whole way -/

/-- Whatever is read, compared and painted has the sides that it says it has, and a command fails for a size
exactly if a side is too long for an image. -/
theorem shapes_are_kept :
    (∀ text g, Grid.ofText text = .ok g →
      (Text.lines text.toList).length = g.height ∧
        (∀ line ∈ Text.lines text.toList, line.length = g.width) ∧ g.Regular) ∧
    (∀ path w g, ((Grid.ofFile path).run.run w).1 = .ok g →
      (∃ text, w.disk.text path = .ok text ∧ Grid.ofText text = .ok g) ∧ g.Regular) ∧
    (∀ left right c, Comparison.ofGrids left right = .ok c →
      c.width = left.width ∧ c.height = left.height ∧ c.width = right.width ∧ c.height = right.height ∧
        c.Regular) ∧
    (∀ (α : Type) [Colored α] (t : Table α), ∃ r, Raster.ofCells t.width t.height t.cells = .ok r ∧
      r.width = t.width ∧ r.height = t.height ∧ r.Regular) ∧
    (∀ l left right output report w,
      FailsWith Failure.OfSize ((Job.compare l left right output report).run.run w).1 ↔
        ∃ c, Comparison.onDisk (Job.atReading l left right output w).disk left right = .ok c ∧
          (Png.maxSide < c.width ∨ Png.maxSide < c.height)) ∧
    ∀ l input output w,
      FailsWith Failure.OfSize ((Job.render l input output).run.run w).1 ↔
        ∃ g, Grid.onDisk (Job.atRendering l input output w).disk input = .ok g ∧
          (Png.maxSide < g.width ∨ Png.maxSide < g.height) := by
  refine ⟨fun text g hg => ?_, fun path w g hg => ?_, fun left right c hc => ?_,
    fun α _ t => Raster.exists_ofCells_regular t, Job.compare_ofSize_iff, Job.render_ofSize_iff⟩
  · rw [Grid.ofText_eq_ok_iff.mp hg, Grid.length_rowTexts]
    exact ⟨rfl, fun line => Grid.length_of_mem_rowTexts, g.regular⟩
  · rw [Grid.run_ofFile] at hg
    exact ⟨Grid.onDisk_eq_ok_iff.mp hg, g.regular⟩
  · obtain ⟨width, height, -⟩ := Comparison.of_ofGrids hc
    obtain ⟨heights, widths⟩ := Comparison.exists_ofGrids_iff.mp ⟨c, hc⟩
    exact ⟨width, height, width.trans widths, height.trans heights, c.regular⟩

def Grid.line (n : Nat) : Grid where
  width := n + 1
  height := 1
  cells := List.replicate (n + 1) .member
  width_pos := n.succ_pos
  height_pos := Nat.one_pos
  length_cells := by rw [List.length_replicate, Nat.mul_one]

/-- A file with a single line. -/
def lineDesk (n : Nat) : World where
  disk :=
    { workingDirectory := ["desk"]
      entries := [(["desk"], .directory), (["desk", "a"], .file (Text.encode (Grid.line n).toText))] }
  clock := fun _ => ⟨2024, 1, 1, 0, 0, 0, 0, 0⟩
  looks := 0

theorem onDisk_lineDesk (n : Nat) : Grid.onDisk (lineDesk n).disk "a" = .ok (Grid.line n) := by
  have read : (lineDesk n).disk.read "a" = .ok (Text.encode (Grid.line n).toText) := rfl
  exact (Grid.onDisk_eq_ok_iff_of_read read).mpr ⟨_, Text.decode?_encode _, Grid.ofText_toText _⟩

theorem shapes_are_kept_line :
    ((∀ line ∈ Text.lines (Grid.line 7).toText.toList, line.length = 8) ∧ (Grid.line 7).Regular) ∧
    (((Grid.ofFile "a").run.run (lineDesk 7)).1 = .ok (Grid.line 7) ∧
      ∃ text, (lineDesk 7).disk.text "a" = .ok text ∧ Grid.ofText text = .ok (Grid.line 7)) ∧
    (∃ c, Comparison.ofGrids (Grid.line 7) (Grid.line 7) = .ok c ∧ c.width = 8 ∧ c.height = 1 ∧ c.Regular) ∧
    FailsWith Failure.OfSize
      ((Job.render (.writing "e.log" "d.log") "a" "c.png").run.run (lineDesk Png.maxSide)).1 := by
  obtain ⟨texts, files, comparisons, -, -, renders⟩ := shapes_are_kept
  refine ⟨?_, ?_, ?_, ?_⟩
  · obtain ⟨-, lengths, regular⟩ := texts _ _ (Grid.ofText_toText (Grid.line 7))
    exact ⟨lengths, regular⟩
  · have read : ((Grid.ofFile "a").run.run (lineDesk 7)).1 = .ok (Grid.line 7) := by
      rw [Grid.run_ofFile, onDisk_lineDesk]
    exact ⟨read, (files _ _ _ read).1⟩
  · obtain ⟨c, hc⟩ := Comparison.exists_ofGrids_iff.mpr (⟨rfl, rfl⟩ :
      (Grid.line 7).height = (Grid.line 7).height ∧ (Grid.line 7).width = (Grid.line 7).width)
    obtain ⟨width, height, -, -, regular⟩ := comparisons _ _ _ hc
    exact ⟨c, hc, width, height, regular⟩
  · -- the line is one cell too long for an image
    rw [renders]
    have logged := (Logger.writing "e.log" "d.log").changedAt_after "INFO" "render: input=a output=c.png"
      (lineDesk Png.maxSide)
    refine ⟨Grid.line Png.maxSide, (logged.onDisk_grid_iff ?_).mpr (onDisk_lineDesk _), ?_⟩
    · rintro place ⟨log, rfl | rfl, ht⟩ <;> cases ht <;> decide
    · exact Or.inl (Nat.lt_succ_self _)

end MembershipGrid
