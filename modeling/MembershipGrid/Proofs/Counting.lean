import MembershipGrid.Proofs.Images
import Mathlib.Algebra.BigOperators.Group.Finset.Piecewise
import Mathlib.Algebra.BigOperators.Group.Finset.Sigma
import Mathlib.Data.Finset.Prod

/-!
# What a tally counts

A class stands for a symbol on the left and one on the right. So a comparison still holds both grids, and
the counts of the classes add up to counts of symbols in them.
-/

namespace MembershipGrid

open scoped Finset

/-! ## Classes -/

namespace CellClass

def left : CellClass → Symbol
  | agreeMember | falseMember => .member
  | agreeOutside | falseOutside => .outside

def right : CellClass → Symbol
  | agreeMember | falseOutside => .member
  | agreeOutside | falseMember => .outside

theorem left_ofSymbols (s t : Symbol) : (ofSymbols s t).left = s := by
  cases s <;> cases t <;> rfl

theorem right_ofSymbols (s t : Symbol) : (ofSymbols s t).right = t := by
  cases s <;> cases t <;> rfl

theorem isAgreement_iff {cell : CellClass} : cell.isAgreement = true ↔ cell.left = cell.right := by
  cases cell <;> decide

theorem countP_eq_add (p : CellClass → Bool) (cells : List CellClass) :
    cells.countP p =
      (if p agreeMember then cells.count agreeMember else 0) +
        (if p agreeOutside then cells.count agreeOutside else 0) +
          (if p falseMember then cells.count falseMember else 0) +
            if p falseOutside then cells.count falseOutside else 0 := by
  induction cells with
  | nil => simp
  | cons cell rest ih =>
      rw [List.countP_cons, ih]
      simp only [List.count_cons]
      cases cell <;> simp <;> split_ifs <;> omega

end CellClass

/-! ## Places -/

theorem Table.countP_cells {α : Type} (t : Table α) (p : α → Bool) :
    t.cells.countP p = #{place ∈ Finset.range t.height ×ˢ Finset.range t.width |
      (t.cell? place.1 place.2).any p} := by
  have of_row (row : Nat) : ((List.range t.width).filterMap (t.cell? row)).countP p = #{column ∈
      Finset.range t.width | (t.cell? row column).any p} := by
    rw [List.countP_filterMap, Finset.card_def, Finset.filter_val, ← Multiset.countP_eq_card_filter,
      Finset.range_val, ← Multiset.coe_range, Multiset.coe_countP]
    refine List.countP_congr fun column _ => ?_
    cases t.cell? row column <;> simp
  rw [← Raster.flatMap_cell? t, List.countP_flatMap, Finset.card_filter, Finset.sum_product]
  refine congrArg List.sum (List.map_congr_left fun row _ => ?_)
  rw [Function.comp, of_row, Finset.card_filter]

/-- The places, row and column counted from zero, at which a grid differs from another one. -/
def Grid.differences (g h : Grid) : Finset (Nat × Nat) :=
  {place ∈ Finset.range g.height ×ˢ Finset.range g.width | g.cell? place.1 place.2 ≠ h.cell? place.1 place.2}

/-! ## Comparisons -/

namespace Comparison

variable {g h : Grid} {c : Comparison}

theorem cells_left (hc : ofGrids g h = .ok c) : c.cells.map CellClass.left = g.cells := by
  obtain ⟨cells, length⟩ := cells_eq_map_zip hc
  have back : CellClass.left ∘ Function.uncurry CellClass.ofSymbols = Prod.fst :=
    funext fun pair => CellClass.left_ofSymbols pair.1 pair.2
  rw [cells, List.map_map, back, List.map_fst_zip (Nat.le_of_eq length)]

theorem cells_right (hc : ofGrids g h = .ok c) : c.cells.map CellClass.right = h.cells := by
  obtain ⟨cells, length⟩ := cells_eq_map_zip hc
  have back : CellClass.right ∘ Function.uncurry CellClass.ofSymbols = Prod.snd :=
    funext fun pair => CellClass.right_ofSymbols pair.1 pair.2
  rw [cells, List.map_map, back, List.map_snd_zip (Nat.le_of_eq length.symm)]

theorem sum_tally (c : Comparison) :
    c.tally.agreeMember + c.tally.agreeOutside + c.tally.falseMember + c.tally.falseOutside = c.width * c.height := by
  have each := CellClass.countP_eq_add (fun _ => true) c.cells
  rw [List.countP_true, c.length_cells] at each
  exact each.symm

theorem mismatched_tally (c : Comparison) : c.tally.mismatched = c.tally.falseMember + c.tally.falseOutside :=
  (CellClass.countP_eq_add _ c.cells).trans (by simp [CellClass.isAgreement, tally])

theorem member_left (hc : ofGrids g h = .ok c) :
    c.tally.agreeMember + c.tally.falseMember = g.cells.count .member := by
  rw [← cells_left hc, List.count, List.countP_map, CellClass.countP_eq_add]
  simp [CellClass.left, tally]

theorem member_right (hc : ofGrids g h = .ok c) :
    c.tally.agreeMember + c.tally.falseOutside = h.cells.count .member := by
  rw [← cells_right hc, List.count, List.countP_map, CellClass.countP_eq_add]
  simp [CellClass.right, tally]

theorem mismatched_eq_card (hc : ofGrids g h = .ok c) : c.tally.mismatched = #(g.differences h) := by
  obtain ⟨height, width, cwidth, cheight, -⟩ := ofGrids_eq_ok_iff.mp hc
  rw [tally, Table.countP_cells, Grid.differences, cwidth, cheight]
  refine congrArg Finset.card (Finset.filter_congr fun place inside => ?_)
  obtain ⟨row, column⟩ := Finset.mem_product.mp inside
  obtain ⟨s, hs⟩ := Table.exists_cell? (Finset.mem_range.mp row) (Finset.mem_range.mp column)
  obtain ⟨t, ht⟩ := Table.exists_cell? (height ▸ Finset.mem_range.mp row) (width ▸ Finset.mem_range.mp column)
  rw [cell?_of_ofGrids hc, hs, ht]
  simp [← CellClass.isAgreement_ofSymbols]

theorem mismatched_eq_zero_iff (hc : ofGrids g h = .ok c) : c.tally.mismatched = 0 ↔ g = h := by
  obtain ⟨height, width, -⟩ := ofGrids_eq_ok_iff.mp hc
  have cells : c.tally.mismatched = 0 ↔ g.cells = h.cells := by
    rw [← cells_left hc, ← cells_right hc, List.map_inj_left, tally, List.countP_eq_zero]
    simp only [← CellClass.isAgreement_iff, Bool.not_eq_true', Bool.not_eq_false]
  exact cells.trans ⟨Table.eq_of_cells width height, congrArg Table.cells⟩

/-- The counts of classes add up to the cells, to the members of either grid and to the places at which the
grids differ. Nothing is mismatched exactly when the grids are equal. -/
theorem tally_balances (hc : ofGrids g h = .ok c) :
    c.tally.agreeMember + c.tally.agreeOutside + c.tally.falseMember + c.tally.falseOutside =
        c.tally.width * c.tally.height ∧
      c.tally.width = g.width ∧ c.tally.height = g.height ∧
      c.tally.agreeMember + c.tally.falseMember = g.cells.count .member ∧
      c.tally.agreeMember + c.tally.falseOutside = h.cells.count .member ∧
      c.tally.mismatched = c.tally.falseMember + c.tally.falseOutside ∧
      c.tally.mismatched = #(g.differences h) ∧
      (c.tally.mismatched = 0 ↔ g = h) := by
  obtain ⟨width, height, -⟩ := of_ofGrids hc
  exact ⟨sum_tally c, width, height, member_left hc, member_right hc, mismatched_tally c, mismatched_eq_card hc,
    mismatched_eq_zero_iff hc⟩

theorem tally_balances_everyClass :
    ofGrids .diagonal .upper = .ok everyClass ∧
      everyClass.tally = ⟨2, 2, 1, 1, 1, 1, 2⟩ ∧
      Grid.diagonal.cells.count .member = 2 ∧ Grid.upper.cells.count .member = 2 ∧
      Grid.diagonal.differences .upper = {(0, 1), (1, 1)} ∧ Grid.diagonal ≠ .upper := by
  have hc : ofGrids .diagonal .upper = .ok everyClass := rfl
  obtain ⟨-, -, -, left, right, -, -, same⟩ := tally_balances hc
  exact ⟨hc, by decide, left.symm, right.symm, by decide, fun h => absurd (same.mpr h) (by decide)⟩

end Comparison

end MembershipGrid
