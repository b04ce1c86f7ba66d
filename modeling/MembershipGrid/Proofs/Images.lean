import MembershipGrid.Comparison.Tally
import MembershipGrid.Proofs.GridTexts
import MembershipGrid.Proofs.Lemmas.Comparisons
import MembershipGrid.Proofs.Painting
import Mathlib.Data.List.Count

/-!
# What an image tells

Every class of cells has a color of its own. So an image can be counted instead of the comparison that
it shows, and it gives away the grids from which it was painted.
-/

namespace MembershipGrid

def Grid.upper : Grid := ⟨2, 2, [.member, .member, .outside, .outside], Nat.two_pos, Nat.two_pos, rfl⟩

def Comparison.everyClass : Comparison :=
  ⟨2, 2, [.agreeMember, .falseOutside, .agreeOutside, .falseMember], Nat.two_pos, Nat.two_pos, rfl⟩

namespace Raster

/-! ## Counting -/

theorem count_pixels {c : Comparison} {r : Raster} (hr : ofCells c.width c.height c.cells = .ok r)
    (cell : CellClass) : r.pixels.count (Colored.color cell) = c.cells.count cell := by
  rw [pixels_of_ofCells hr]
  exact List.count_map_of_injective _ _ color_injective_class cell

theorem color_of_mem_pixels {c : Comparison} {r : Raster} (hr : ofCells c.width c.height c.cells = .ok r)
    {color : Color} (hc : color ∈ r.pixels) :
    color = ⟨150, 150, 150⟩ ∨ color = ⟨50, 50, 50⟩ ∨ color = ⟨255, 0, 0⟩ ∨ color = ⟨255, 255, 0⟩ := by
  rw [pixels_of_ofCells hr] at hc
  obtain ⟨cell, -, rfl⟩ := List.mem_map.mp hc
  cases cell with
  | agreeMember => exact Or.inl rfl
  | agreeOutside => exact Or.inr (Or.inl rfl)
  | falseMember => exact Or.inr (Or.inr (Or.inl rfl))
  | falseOutside => exact Or.inr (Or.inr (Or.inr rfl))

/-- The image of a comparison has as many pixels of each color as the tally has cells of its class, and
no others. -/
theorem image_agrees_with_tally {g h : Grid} (accepted : ∃ c, Comparison.ofGrids g h = .ok c) :
    ∃ c r, Comparison.ofGrids g h = .ok c ∧ ofCells c.width c.height c.cells = .ok r ∧
      r.width = c.tally.width ∧ r.height = c.tally.height ∧ r.pixels.length = r.width * r.height ∧
      r.pixels.count ⟨150, 150, 150⟩ = c.tally.agreeMember ∧
      r.pixels.count ⟨50, 50, 50⟩ = c.tally.agreeOutside ∧
      r.pixels.count ⟨255, 0, 0⟩ = c.tally.falseMember ∧
      r.pixels.count ⟨255, 255, 0⟩ = c.tally.falseOutside ∧
      ∀ color ∈ r.pixels, color = ⟨150, 150, 150⟩ ∨ color = ⟨50, 50, 50⟩ ∨ color = ⟨255, 0, 0⟩ ∨
        color = ⟨255, 255, 0⟩ := by
  obtain ⟨c, hc⟩ := accepted
  obtain ⟨r, hr⟩ := exists_ofCells_iff.mpr c.length_cells
  obtain ⟨width, height, -⟩ := data_of_ofCells hr
  have counts := count_pixels hr
  refine ⟨c, r, hc, hr, width, height, ?_, counts .agreeMember, counts .agreeOutside,
    counts .falseMember, counts .falseOutside, fun color => color_of_mem_pixels hr⟩
  rw [pixels_of_ofCells hr, List.length_map, c.length_cells, width, height]

theorem image_agrees_with_tally_everyClass :
    ∃ r, Comparison.ofGrids .diagonal .upper = .ok .everyClass ∧
      ofCells 2 2 Comparison.everyClass.cells = .ok r ∧
      r.pixels.length = 4 ∧ r.pixels.count ⟨150, 150, 150⟩ = 1 ∧ r.pixels.count ⟨50, 50, 50⟩ = 1 ∧
      r.pixels.count ⟨255, 0, 0⟩ = 1 ∧ r.pixels.count ⟨255, 255, 0⟩ = 1 := by
  have hc : Comparison.ofGrids .diagonal .upper = .ok .everyClass := rfl
  obtain ⟨c, r, same, hr, width, height, length, counts⟩ := image_agrees_with_tally ⟨_, hc⟩
  obtain ⟨agreeMember, agreeOutside, falseMember, falseOutside, -⟩ := counts
  cases hc.symm.trans same
  rw [width, height] at length
  exact ⟨r, hc, hr, length, agreeMember, agreeOutside, falseMember, falseOutside⟩

/-! ## Going back -/

/-- The image of a comparison shows both grids, and the image of a grid shows that grid. -/
theorem image_determines_grids :
    (∀ (left right left' right' : Grid) (c c' : Comparison) (r r' : Raster),
      Comparison.ofGrids left right = .ok c → Comparison.ofGrids left' right' = .ok c' →
      ofCells c.width c.height c.cells = .ok r → ofCells c'.width c'.height c'.cells = .ok r' →
      r.width = r'.width → r.height = r'.height → r.data = r'.data →
        left = left' ∧ right = right') ∧
    ∀ (g g' : Grid) (r r' : Raster),
      ofCells g.width g.height g.cells = .ok r → ofCells g'.width g'.height g'.cells = .ok r' →
      r.width = r'.width → r.height = r'.height → r.data = r'.data → g = g' := by
  constructor
  · intro left right left' right' c c' r r' hc hc' hr hr' width height data
    obtain rfl := Raster.ext width height data
    obtain rfl := eq_of_ofCells color_injective_class hr hr'
    exact Comparison.eq_of_ofGrids hc hc'
  · intro g g' r r' hr hr' width height data
    obtain rfl := Raster.ext width height data
    exact eq_of_ofCells color_injective_symbol hr hr'

theorem image_determines_grids_diagonal :
    (∃ r, ofCells 2 2 Comparison.everyClass.cells = .ok r ∧
      Comparison.ofGrids .diagonal .upper = .ok .everyClass ∧
      r.width = 2 ∧ r.height = 2 ∧ r.data = [150, 150, 150, 255, 255, 0, 50, 50, 50, 255, 0, 0] ∧
      ∀ left right c' r', Comparison.ofGrids left right = .ok c' →
        ofCells c'.width c'.height c'.cells = .ok r' → r'.width = 2 → r'.height = 2 →
        r'.data = [150, 150, 150, 255, 255, 0, 50, 50, 50, 255, 0, 0] →
          left = .diagonal ∧ right = .upper) ∧
    ∃ r, ofCells 2 2 Grid.diagonal.cells = .ok r ∧
      r.width = 2 ∧ r.height = 2 ∧ r.data = [150, 150, 150, 50, 50, 50, 50, 50, 50, 150, 150, 150] ∧
      ∀ (g : Grid) r', ofCells g.width g.height g.cells = .ok r' → r'.width = 2 → r'.height = 2 →
        r'.data = [150, 150, 150, 50, 50, 50, 50, 50, 50, 150, 150, 150] → g = .diagonal := by
  obtain ⟨pairs, grids⟩ := image_determines_grids
  constructor
  · obtain ⟨r, hr⟩ := exists_ofCells_iff.mpr Comparison.everyClass.length_cells
    obtain ⟨width, height, data⟩ := data_of_ofCells hr
    refine ⟨r, hr, rfl, width, height, data, ?_⟩
    intro left right c' r' hc' hr' width' height' data'
    exact pairs left right .diagonal .upper c' .everyClass r' r hc' rfl hr' hr (width'.trans width.symm)
      (height'.trans height.symm) (data'.trans data.symm)
  · obtain ⟨r, hr⟩ := exists_ofCells_iff.mpr Grid.diagonal.length_cells
    obtain ⟨width, height, data⟩ := data_of_ofCells hr
    refine ⟨r, hr, width, height, data, ?_⟩
    intro g r' hr' width' height' data'
    exact grids g .diagonal r' r hr' hr (width'.trans width.symm) (height'.trans height.symm)
      (data'.trans data.symm)

end Raster

end MembershipGrid
