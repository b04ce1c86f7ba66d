import MembershipGrid.Proofs.Counting
import MembershipGrid.Proofs.Lemmas.ReadingNumbers
import MembershipGrid.Proofs.Saving

/-!
# How large numbers grow

A grid has no more cells than its text has bytes, and a tally counts no more than the cells. So a text that a
machine can hold is read, compared, counted, painted and saved without a sum or a product that is too large for
a word (`numbers_fit_into_words`).
-/

namespace MembershipGrid

open Reckoning (Gives)

/-! ## Counting -/

namespace Tally

variable {bound : Nat} {t : Tally} {cells : List CellClass}

def blank (width height : Nat) : Tally := ⟨width, height, 0, 0, 0, 0, 0⟩

/-- A tally with no count above a bound. -/
structure Within (bound : Nat) (t : Tally) : Prop where
  agreeMember : t.agreeMember ≤ bound
  agreeOutside : t.agreeOutside ≤ bound
  falseMember : t.falseMember ≤ bound
  falseOutside : t.falseOutside ≤ bound
  mismatched : t.mismatched ≤ bound

/-- A tally with some more cells counted by their classes. -/
def including (t : Tally) (cells : List CellClass) : Tally :=
  { t with
    agreeMember := t.agreeMember + cells.count .agreeMember
    agreeOutside := t.agreeOutside + cells.count .agreeOutside
    falseMember := t.falseMember + cells.count .falseMember
    falseOutside := t.falseOutside + cells.count .falseOutside }

theorem including_append (t : Tally) (cells more : List CellClass) :
    t.including (cells ++ more) = (t.including cells).including more := by
  simp only [including, List.count_append, Nat.add_assoc]

theorem Within.of_including (h : (t.including cells).Within bound) : t.Within bound :=
  ⟨Nat.le_of_add_right_le h.agreeMember, Nat.le_of_add_right_le h.agreeOutside,
    Nat.le_of_add_right_le h.falseMember, Nat.le_of_add_right_le h.falseOutside, h.mismatched⟩

/-- Counts one cell. -/
def count (t : Tally) : CellClass → Reckoning Tally
  | .agreeMember => return { t with agreeMember := ← Reckoning.add t.agreeMember 1 }
  | .agreeOutside => return { t with agreeOutside := ← Reckoning.add t.agreeOutside 1 }
  | .falseMember => return { t with falseMember := ← Reckoning.add t.falseMember 1 }
  | .falseOutside => return { t with falseOutside := ← Reckoning.add t.falseOutside 1 }

theorem gives_count {cell : CellClass} (fits : (t.including [cell]).Within bound) :
    Gives bound (t.count cell) (t.including [cell]) := by
  cases cell with
  | agreeMember => exact (Reckoning.gives_add fits.agreeMember).bind (Reckoning.gives_pure _ _)
  | agreeOutside => exact (Reckoning.gives_add fits.agreeOutside).bind (Reckoning.gives_pure _ _)
  | falseMember => exact (Reckoning.gives_add fits.falseMember).bind (Reckoning.gives_pure _ _)
  | falseOutside => exact (Reckoning.gives_add fits.falseOutside).bind (Reckoning.gives_pure _ _)

theorem gives_foldlM_count (fits : (t.including cells).Within bound) :
    Gives bound (cells.foldlM count t) (t.including cells) := by
  induction cells generalizing t with
  | nil => exact Reckoning.gives_pure _ _
  | cons cell rest ih =>
      have split : t.including (cell :: rest) = (t.including [cell]).including rest :=
        t.including_append [cell] rest
      rw [split] at fits ⊢
      rw [List.foldlM_cons]
      exact (gives_count fits.of_including).bind (ih fits)

end Tally

namespace Comparison

/-- The tally, with its counts worked out cell by cell. -/
def reckonTally (c : Comparison) : Reckoning Tally := do
  let counted ← c.cells.foldlM Tally.count (.blank c.width c.height)
  let mismatched ← Reckoning.countFrom 0 (c.cells.filter fun cell => !cell.isAgreement)
  return { counted with mismatched }

theorem within_tally (c : Comparison) : c.tally.Within (c.width * c.height) := by
  rw [← c.length_cells]
  exact ⟨List.count_le_length, List.count_le_length, List.count_le_length, List.count_le_length,
    List.countP_le_length⟩

theorem including_cells (c : Comparison) :
    (Tally.blank c.width c.height).including c.cells = { c.tally with mismatched := 0 } := by
  simp only [Tally.blank, Tally.including, tally, Nat.zero_add]

theorem gives_reckonTally (c : Comparison) : Gives (c.width * c.height) c.reckonTally c.tally := by
  have within := c.within_tally
  have counts : ((Tally.blank c.width c.height).including c.cells).Within (c.width * c.height) := by
    rw [including_cells]
    exact { within with mismatched := Nat.zero_le _ }
  have mismatched : c.tally.mismatched = (c.cells.filter fun cell => !cell.isAgreement).length :=
    List.countP_eq_length_filter
  refine (Tally.gives_foldlM_count counts).bind ((Reckoning.gives_count (mismatched ▸ within.mismatched)).bind ?_)
  rw [including_cells, ← mismatched]
  exact Reckoning.gives_pure _ c.tally

end Comparison

/-! ## Painting -/

/-- The sides and the bytes of a raster. -/
def Raster.parts (r : Raster) : Nat × Nat × Bytes := (r.width, r.height, r.data)

namespace Table

variable {α : Type} [Colored α] {bound : Nat}

/-- Painting, with the products that are worked out for it. -/
def reckonRaster (t : Table α) : ExceptT GridError Reckoning (Nat × Nat × Bytes) := do
  let pixels ← Reckoning.mul t.width t.height
  if t.cells.length = pixels then
    let size ← Reckoning.mul (← Reckoning.mul t.width t.height) 3
    let _rowSize ← Reckoning.mul t.width 3
    let rows := Raster.numberedRows t.width t.height t.cells
    return (t.width, t.height, (Raster.fillRows t.width (Array.replicate size 0) rows).toList)
  else
    let expected ← Reckoning.mul t.width t.height
    throw (.wrongSize t.width t.height expected t.cells.length)

/-- The cells are painted and saved, and no product on the way exceeds a bound. -/
def DrawnWithin (bound : Nat) (t : Table α) : Prop :=
  ∃ r, Raster.ofCells t.width t.height t.cells = .ok r ∧ Gives bound t.reckonRaster.run (.ok r.parts) ∧
    ∀ path, Gives bound (r.reckonSave path) (r.save path)

theorem gives_reckonRaster {t : Table α} (fits : t.width * t.height * 3 ≤ bound) :
    Gives bound t.reckonRaster.run ((Raster.ofCells t.width t.height t.cells).map Raster.parts) := by
  have area : t.width * t.height ≤ bound := by omega
  have row : t.width * 3 ≤ bound :=
    (Nat.mul_le_mul_right 3 (Nat.le_mul_of_pos_right _ t.height_pos)).trans fits
  rw [reckonRaster, Raster.ofCells, if_pos t.length_cells]
  refine (Reckoning.gives_mul area).lift ?_
  rw [if_pos t.length_cells]
  refine (Reckoning.gives_mul area).lift ((Reckoning.gives_mul fits).lift ((Reckoning.gives_mul row).lift ?_))
  exact Reckoning.gives_pure _ _

theorem drawnWithin {t : Table α} (fits : t.width * t.height * 3 ≤ Raster.maxCount) :
    t.DrawnWithin Raster.maxCount := by
  obtain ⟨r, painted⟩ := Raster.exists_ofCells_iff.mpr t.length_cells
  have drawn := gives_reckonRaster fits
  rw [painted] at drawn
  refine ⟨r, painted, drawn, fun path => ?_⟩
  obtain ⟨width, height, -⟩ := Raster.data_of_ofCells painted
  by_cases long : Png.maxSide < r.width ∨ Png.maxSide < r.height
  · exact Raster.gives_reckonSave_of_long long
  · refine Raster.gives_reckonSave (by omega) ?_
    rwa [r.length_data, width, height]

end Table

/-- While a text is read no number is larger than the text is long, and neither is one in an error. Where two texts
of at most 2⁶² bytes are grids of the same shape, neither text has fewer bytes than its grid has cells, no count of
their comparison is larger than that, and nothing that is worked out to draw them is too large for 64 bits. -/
theorem numbers_fit_into_words (text other : String) :
    (Gives text.utf8ByteSize (Grid.reckonText text).run ((Grid.ofText text).map Table.parts) ∧
      ∀ e, Grid.ofText text = .error e → ∀ n ∈ e.numbers, n ≤ text.utf8ByteSize) ∧
    ∀ g h, text.utf8ByteSize ≤ 2 ^ 62 → other.utf8ByteSize ≤ 2 ^ 62 →
      Grid.ofText text = .ok g → Grid.ofText other = .ok h → g.height = h.height ∧ g.width = h.width →
      ∃ c, Comparison.ofGrids g h = .ok c ∧
        (c.width * c.height = g.cells.length ∧ c.width * c.height = h.cells.length ∧
          c.width * c.height = c.cells.length) ∧
        (c.width * c.height ≤ text.utf8ByteSize ∧ c.width * c.height ≤ other.utf8ByteSize ∧
          3 * c.width * c.height < 2 ^ 64) ∧
        (c.tally.Within (c.width * c.height) ∧ Gives (c.width * c.height) c.reckonTally c.tally) ∧
        g.DrawnWithin (2 ^ 64 - 1) ∧ h.DrawnWithin (2 ^ 64 - 1) ∧ c.DrawnWithin (2 ^ 64 - 1) := by
  refine ⟨⟨Grid.gives_reckonText text, fun e => Grid.numbers_le_of_ofText⟩, ?_⟩
  intro g h small small' read read' same
  obtain ⟨c, hc⟩ := Comparison.exists_ofGrids_iff.mpr same
  obtain ⟨width, height, -⟩ := Comparison.of_ofGrids hc
  have area := Grid.area_le_of_ofText read
  have area' := Grid.area_le_of_ofText read'
  have shape : c.width * c.height = g.width * g.height := by rw [width, height]
  have shape' : c.width * c.height = h.width * h.height := by rw [shape, same.1, same.2]
  have most : Raster.maxCount = 2 ^ 64 - 1 := rfl
  have words : c.width * c.height * 3 ≤ Raster.maxCount := by omega
  have triple : 3 * c.width * c.height = c.width * c.height * 3 := by ac_rfl
  exact ⟨c, hc, ⟨shape.trans g.length_cells.symm, shape'.trans h.length_cells.symm, c.length_cells.symm⟩,
    ⟨by omega, by omega, by omega⟩, ⟨c.within_tally, c.gives_reckonTally⟩,
    Table.drawnWithin (shape ▸ words), Table.drawnWithin (shape' ▸ words), Table.drawnWithin words⟩

theorem numbers_fit_into_words_everyClass :
    (Grid.ofText "x.\n.x" = .ok .diagonal ∧ Grid.ofText "xx\r\n..\r\n" = .ok .upper ∧
      Comparison.ofGrids .diagonal .upper = .ok Comparison.everyClass) ∧
    (Comparison.everyClass.width * Comparison.everyClass.height ≤ "x.\n.x".utf8ByteSize ∧
      "x.\n.x".utf8ByteSize = 5 ∧ Comparison.everyClass.tally.Within 4 ∧
      Comparison.everyClass.DrawnWithin (2 ^ 64 - 1)) ∧
    Grid.ofText "x.\n.é" = .error (.unknownSymbol 'é' 2 2) ∧ 2 ≤ "x.\n.é".utf8ByteSize := by
  have left : Grid.ofText "x.\n.x" = .ok .diagonal := by decide
  have right : Grid.ofText "xx\r\n..\r\n" = .ok .upper := by decide
  have compared : Comparison.ofGrids .diagonal .upper = .ok Comparison.everyClass := rfl
  have refused : Grid.ofText "x.\n.é" = .error (.unknownSymbol 'é' 2 2) := by decide
  obtain ⟨c, hc, -, ⟨area, -⟩, ⟨within, -⟩, -, -, drawn⟩ :=
    (numbers_fit_into_words _ _).2 _ _ (by decide) (by decide) left right (by decide)
  cases hc.symm.trans compared
  exact ⟨⟨left, right, compared⟩, ⟨area, by decide, within, drawn⟩, refused,
    (numbers_fit_into_words _ "").1.2 _ refused 2 List.mem_cons_self⟩

end MembershipGrid
