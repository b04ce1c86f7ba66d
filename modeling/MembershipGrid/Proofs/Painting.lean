import MembershipGrid.Proofs.GridTexts
import MembershipGrid.Proofs.Lemmas.Pixels

/-!
# Painting in any order

Rows are filled independently of each other, so a raster is the sequence of its cells' colors in
whatever order its rows are filled.
-/

namespace MembershipGrid.Raster

variable {α : Type} [Colored α]

theorem exists_ofCells_iff {width height : Nat} {cells : List α} :
    (∃ r, ofCells width height cells = .ok r) ↔ cells.length = width * height := by
  rw [ofCells]
  split
  · rename_i full
    exact ⟨fun _ => full, fun _ => ⟨_, rfl⟩⟩
  · rename_i uneven
    constructor
    · rintro ⟨_, h⟩
      cases h
    · exact fun full => absurd full uneven

/-- Painting asks for as many cells as there are pixels. It leaves the colors of the cells, one after
another, however the rows are ordered and whatever the buffer held: each row replaces its own bytes. -/
theorem ofCells_fills_rows_in_any_order (width height : Nat) (cells : List α) :
    ((∃ r, ofCells width height cells = .ok r) ↔ cells.length = width * height) ∧
    (cells.length ≠ width * height → ofCells width height cells =
      .error (.wrongSize width height (width * height) cells.length)) ∧
    ∀ r, ofCells width height cells = .ok r →
      r.width = width ∧ r.height = height ∧ r.data = colors cells ∧
      r.data.length = 3 * width * height ∧
      ∀ buffer : Array UInt8, buffer.size = width * height * 3 →
        (∀ row < height, (fillRow width buffer (rowCells width cells row, row)).toList =
          buffer.toList.take (row * width * 3) ++ colors (rowCells width cells row) ++
            buffer.toList.drop ((row + 1) * width * 3)) ∧
        ∀ order : List Nat, order.Perm (List.range height) →
          (fillInOrder width cells buffer order).toList = r.data := by
  refine ⟨exists_ofCells_iff, fun uneven => if_neg uneven, fun r h => ?_⟩
  have full := exists_ofCells_iff.mp ⟨r, h⟩
  obtain ⟨hw, hh, data⟩ := data_of_ofCells h
  refine ⟨hw, hh, data, ?_, fun buffer size => ⟨?_, ?_⟩⟩
  · rw [data, length_colors, full, Nat.mul_assoc]
  · intro row hr
    exact toList_fillRow hr full size
  · intro order complete
    rw [data, toList_fillInOrder full complete size]

theorem ofCells_fills_rows_upwards :
    (fillInOrder 2 Grid.diagonal.cells (Array.replicate 12 7) [1, 0]).toList =
      [150, 150, 150, 50, 50, 50, 50, 50, 50, 150, 150, 150] := by
  obtain ⟨painted, -, filled⟩ := ofCells_fills_rows_in_any_order 2 2 Grid.diagonal.cells
  obtain ⟨r, h⟩ := painted.mpr (by decide)
  obtain ⟨-, -, data, -, order⟩ := filled r h
  rw [(order (Array.replicate 12 7) rfl).2 [1, 0] (by decide), data]
  rfl

end MembershipGrid.Raster
