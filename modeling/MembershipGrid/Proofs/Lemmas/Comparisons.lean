import MembershipGrid.Comparison.Files
import MembershipGrid.Proofs.Lemmas.Reading
import MembershipGrid.Proofs.Lemmas.Scripts

/-!
# Comparisons of grids and of files

What a comparison holds in each place, and what comparing two files comes to on a disk: reading
changes nothing, so the answer depends on the two contents only.
-/

namespace MembershipGrid

def Disk.text (d : Disk) (path : String) : Except StorageError String := do
  match Text.decode? (← d.read path) with
  | none => .error .notUtf8
  | some text => .ok text

def Grid.onDisk (d : Disk) (path : String) : Except GridError Grid := do
  Grid.ofText (← (d.text path).mapError (.storage path))

def Comparison.onDisk (d : Disk) (left right : String) : Except GridError Comparison := do
  Comparison.ofGrids (← Grid.onDisk d left) (← Grid.onDisk d right)

variable {d : Disk} {path left right : String} {content : Bytes} {g h : Grid} {c : Comparison}

/-! ## Cells -/

namespace Comparison

theorem exists_ofGrids_iff : (∃ c, ofGrids g h = .ok c) ↔ g.height = h.height ∧ g.width = h.width := by
  unfold ofGrids
  split
  · rename_i height
    split
    · rename_i width
      exact ⟨fun _ => ⟨height, width⟩, fun _ => ⟨_, rfl⟩⟩
    · rename_i width
      constructor
      · rintro ⟨_, h⟩
        cases h
      · exact fun same => absurd same.2 width
  · rename_i height
    constructor
    · rintro ⟨_, h⟩
      cases h
    · exact fun same => absurd same.1 height

theorem of_ofGrids (hc : ofGrids g h = .ok c) :
    c.width = g.width ∧ c.height = g.height ∧ c.cells = List.zipWith CellClass.ofSymbols g.cells h.cells := by
  unfold ofGrids at hc
  split at hc
  · split at hc
    · cases hc
      exact ⟨rfl, rfl, rfl⟩
    · cases hc
  · cases hc

theorem ofGrids_eq_ok_iff :
    ofGrids g h = .ok c ↔ g.height = h.height ∧ g.width = h.width ∧ c.width = g.width ∧ c.height = g.height ∧
      c.cells = List.zipWith CellClass.ofSymbols g.cells h.cells := by
  constructor
  · intro hc
    obtain ⟨height, width⟩ := exists_ofGrids_iff.mp ⟨c, hc⟩
    exact ⟨height, width, of_ofGrids hc⟩
  · rintro ⟨height, width, cwidth, cheight, ccells⟩
    obtain ⟨d, hd⟩ := exists_ofGrids_iff.mpr ⟨height, width⟩
    obtain ⟨dwidth, dheight, dcells⟩ := of_ofGrids hd
    rw [hd, Table.eq_of_cells (dwidth.trans cwidth.symm) (dheight.trans cheight.symm) (dcells.trans ccells.symm)]

theorem ofSymbols_injective : Function.Injective (Function.uncurry CellClass.ofSymbols) := by
  rintro ⟨s, t⟩ ⟨s', t'⟩
  cases s <;> cases t <;> cases s' <;> cases t' <;> decide

theorem cells_eq_map_zip (hc : ofGrids g h = .ok c) :
    c.cells = (g.cells.zip h.cells).map (Function.uncurry CellClass.ofSymbols) ∧
      g.cells.length = h.cells.length := by
  obtain ⟨height, width, -, -, cells⟩ := ofGrids_eq_ok_iff.mp hc
  rw [cells, List.map_uncurry_zip_eq_zipWith, g.length_cells, h.length_cells, width, height]
  exact ⟨rfl, rfl⟩

theorem eq_of_ofGrids {g' h' : Grid} (hc : ofGrids g h = .ok c) (hc' : ofGrids g' h' = .ok c) :
    g = g' ∧ h = h' := by
  obtain ⟨cells, length⟩ := cells_eq_map_zip hc
  obtain ⟨cells', length'⟩ := cells_eq_map_zip hc'
  obtain ⟨heights, widths, width, height, -⟩ := ofGrids_eq_ok_iff.mp hc
  obtain ⟨heights', widths', width', height', -⟩ := ofGrids_eq_ok_iff.mp hc'
  have pairs := ofSymbols_injective.list_map (cells.symm.trans cells')
  have gwidth : g.width = g'.width := width.symm.trans width'
  have gheight : g.height = g'.height := height.symm.trans height'
  constructor
  · refine Table.eq_of_cells gwidth gheight ?_
    rw [← List.map_fst_zip (Nat.le_of_eq length), pairs, List.map_fst_zip (Nat.le_of_eq length')]
  · refine Table.eq_of_cells (by rw [← widths, gwidth, widths']) (by rw [← heights, gheight, heights']) ?_
    rw [← List.map_snd_zip (Nat.le_of_eq length.symm), pairs, List.map_snd_zip (Nat.le_of_eq length'.symm)]

theorem cell?_of_ofGrids (hc : ofGrids g h = .ok c) (row column : Nat) :
    c.cell? row column =
      (g.cell? row column).bind fun s => (h.cell? row column).map (CellClass.ofSymbols s) := by
  obtain ⟨-, width, hw, -, cells⟩ := ofGrids_eq_ok_iff.mp hc
  rw [Table.cell?, Table.cell?, Table.cell?, hw, cells, ← width]
  split
  · rw [List.getElem?_zipWith]
    cases g.cells[row * g.width + column]? with
    | none => rfl
    | some s => cases h.cells[row * g.width + column]? <;> rfl
  · rfl

end Comparison

/-! ## Files -/

theorem Disk.text_eq_ok_iff {text : String} :
    d.text path = .ok text ↔ ∃ content, d.read path = .ok content ∧ Text.decode? content = some text := by
  rw [Disk.text, Disk.bind_eq_ok_iff]
  refine exists_congr fun content => and_congr_right fun _ => ?_
  cases Text.decode? content with
  | none => constructor <;> intro h <;> cases h
  | some text => simp

theorem Grid.onDisk_eq_ok_iff :
    Grid.onDisk d path = .ok g ↔ ∃ text, d.text path = .ok text ∧ Grid.ofText text = .ok g := by
  simp only [Grid.onDisk, Disk.bind_eq_ok_iff, Disk.mapError_eq_ok_iff]

theorem Grid.onDisk_eq_ok_iff_of_read (hr : d.read path = .ok content) :
    Grid.onDisk d path = .ok g ↔ ∃ text, Text.decode? content = some text ∧ Grid.ofText text = .ok g := by
  rw [Grid.onDisk_eq_ok_iff]
  simp only [Disk.text_eq_ok_iff, hr, Except.ok.injEq, exists_eq_left']

theorem Comparison.onDisk_eq_ok_iff :
    Comparison.onDisk d left right = .ok c ↔
      ∃ g h, Grid.onDisk d left = .ok g ∧ Grid.onDisk d right = .ok h ∧ Comparison.ofGrids g h = .ok c := by
  simp only [Comparison.onDisk, Disk.bind_eq_ok_iff, exists_and_left]

namespace Disk.ChangedAt

variable {e : Disk} {places : Set Location}

theorem onDisk_grid_iff (h : ChangedAt places d e) (apart : ∀ place ∈ places, d.locate path ≠ .ok place) :
    Grid.onDisk e path = .ok g ↔ Grid.onDisk d path = .ok g := by
  simp only [Grid.onDisk_eq_ok_iff, text_eq_ok_iff, h.read_eq_ok_iff apart]

theorem onDisk_comparison_iff (h : ChangedAt places d e)
    (apart_left : ∀ place ∈ places, d.locate left ≠ .ok place)
    (apart_right : ∀ place ∈ places, d.locate right ≠ .ok place) :
    Comparison.onDisk e left right = .ok c ↔ Comparison.onDisk d left right = .ok c := by
  simp only [Comparison.onDisk_eq_ok_iff, h.onDisk_grid_iff apart_left, h.onDisk_grid_iff apart_right]

end Disk.ChangedAt

/-! ## Runs -/

theorem Script.run_readText (path : String) (w : World) :
    (Script.readText path).run w = (w.disk.text path, w) := by
  rw [Script.readText, Script.run_bind, Disk.text]
  simp only [Script.readBytes, Script.run]
  cases w.disk.read path with
  | error e => rfl
  | ok content =>
      change Script.run (match Text.decode? content with | none => _ | some text => _) w =
        (match Text.decode? content with | none => _ | some text => _, w)
      cases Text.decode? content <;> rfl

theorem Grid.run_ofFile (path : String) (w : World) :
    (Grid.ofFile path).run.run w = (Grid.onDisk w.disk path, w) := by
  rw [Grid.ofFile, Script.run_bind_of_ok (Script.run_liftM _ w), Script.run_readText, Grid.onDisk]
  cases w.disk.text path <;> rfl

theorem Comparison.run_ofFiles (left right : String) (w : World) :
    (Comparison.ofFiles left right).run.run w = (Comparison.onDisk w.disk left right, w) :=
  Script.run_bind_of_same (Grid.run_ofFile left w) fun _ =>
    Script.run_bind_of_same (Grid.run_ofFile right w) fun _ => rfl

end MembershipGrid
