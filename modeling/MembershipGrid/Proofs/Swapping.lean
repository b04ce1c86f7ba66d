import MembershipGrid.Proofs.Images

/-!
# Comparing the other way round

Where two grids change places, each of the two kinds of error turns into the other one, and what agrees goes on
agreeing. That is so for the classes of the cells, for the tally and for the colors of the image.
-/

namespace MembershipGrid

/-- The class of two symbols after they have changed places. -/
def CellClass.swapped : CellClass → CellClass
  | agreeMember => agreeMember
  | agreeOutside => agreeOutside
  | falseMember => falseOutside
  | falseOutside => falseMember

def Tally.swapped (t : Tally) : Tally :=
  { t with falseMember := t.falseOutside, falseOutside := t.falseMember }

/-- Yellow for red and red for yellow. -/
def Color.swapped (c : Color) : Color :=
  if c = ⟨255, 0, 0⟩ then ⟨255, 255, 0⟩ else if c = ⟨255, 255, 0⟩ then ⟨255, 0, 0⟩ else c

def Grid.filled : Grid := ⟨2, 2, [.member, .member, .member, .member], Nat.two_pos, Nat.two_pos, rfl⟩

/-- What a diagonal comes to when every point is a member. -/
def Comparison.twoMissed : Comparison :=
  ⟨2, 2, [.agreeMember, .falseOutside, .falseOutside, .agreeMember], Nat.two_pos, Nat.two_pos, rfl⟩

/-! ## Tables -/

namespace Table

variable {α β : Type}

/-- The table with a new cell for every cell. -/
def map (f : α → β) (t : Table α) : Table β where
  width := t.width
  height := t.height
  cells := t.cells.map f
  width_pos := t.width_pos
  height_pos := t.height_pos
  length_cells := by rw [List.length_map, t.length_cells]

theorem cell?_map (f : α → β) (t : Table α) (row column : Nat) :
    (t.map f).cell? row column = (t.cell? row column).map f := by
  simp only [cell?, map, List.getElem?_map]
  split <;> rfl

end Table

/-! ## Comparisons -/

namespace CellClass

theorem ofSymbols_swapped (s t : Symbol) : ofSymbols t s = (ofSymbols s t).swapped := by
  cases s <;> cases t <;> rfl

theorem swapped_injective : Function.Injective swapped := by
  intro a b
  cases a <;> cases b <;> decide

theorem isAgreement_swapped (a : CellClass) : a.swapped.isAgreement = a.isAgreement := by
  cases a <;> rfl

theorem color_swapped (a : CellClass) : Colored.color a.swapped = (Colored.color a).swapped := by
  cases a <;> rfl

end CellClass

namespace Comparison

variable {g h : Grid} {c : Comparison}

theorem ofGrids_swapped (hc : ofGrids g h = .ok c) : ofGrids h g = .ok (c.map CellClass.swapped) := by
  obtain ⟨height, width, cwidth, cheight, cells⟩ := ofGrids_eq_ok_iff.mp hc
  refine ofGrids_eq_ok_iff.mpr ⟨height.symm, width.symm, cwidth.trans width, cheight.trans height, ?_⟩
  change c.cells.map CellClass.swapped = _
  rw [cells, List.map_zipWith, List.zipWith_comm]
  simp only [← CellClass.ofSymbols_swapped]

theorem tally_swapped (c : Comparison) : tally (c.map CellClass.swapped) = c.tally.swapped := by
  have counts (a : CellClass) : (c.cells.map CellClass.swapped).count a.swapped = c.cells.count a :=
    List.count_map_of_injective _ _ CellClass.swapped_injective a
  simp only [tally, Tally.swapped, Table.map, Tally.mk.injEq, true_and]
  refine ⟨counts .agreeMember, counts .agreeOutside, counts .falseOutside, counts .falseMember, ?_⟩
  rw [List.countP_map]
  exact List.countP_congr fun a _ => by rw [Function.comp, CellClass.isAgreement_swapped]

end Comparison

/-! ## Images -/

namespace Raster

variable {α : Type} [Colored α] {f : Color → Color}

/-- Pixels with a new color for every color. -/
def recolor (f : Color → Color) : Bytes → Bytes
  | red :: green :: blue :: rest => (f ⟨red, green, blue⟩).channels ++ recolor f rest
  | rest => rest

theorem length_recolor (f : Color → Color) : (data : Bytes) → (recolor f data).length = data.length
  | red :: green :: blue :: rest => by
      rw [recolor, List.length_append, length_recolor f rest, Color.channels]
      simp only [List.length_cons, List.length_nil]
      omega
  | [] | [_] | [_, _] => rfl

def recolored (f : Color → Color) (r : Raster) : Raster where
  width := r.width
  height := r.height
  data := recolor f r.data
  length_data := by rw [length_recolor, r.length_data]

theorem recolor_drop (f : Color → Color) (n : Nat) (data : Bytes) :
    recolor f (data.drop (3 * n)) = (recolor f data).drop (3 * n) := by
  induction n generalizing data with
  | zero => rfl
  | succ n ih =>
      rw [Nat.mul_succ, Nat.add_comm, ← List.drop_drop, ← List.drop_drop]
      -- what is no whole pixel is dropped on both sides
      rcases data with _ | ⟨red, _ | ⟨green, _ | ⟨blue, rest⟩⟩⟩
      · exact ih []
      · exact ih []
      · exact ih []
      · exact ih rest

theorem ofBytes?_recolor (f : Color → Color) (data : Bytes) :
    Color.ofBytes? (recolor f data) = (Color.ofBytes? data).map f := by
  rcases data with _ | ⟨red, _ | ⟨green, _ | ⟨blue, rest⟩⟩⟩ <;> rfl

theorem pixel?_recolored (f : Color → Color) (r : Raster) (column row : Nat) :
    (r.recolored f).pixel? column row = (r.pixel? column row).map f := by
  simp only [pixel?, recolored, ← recolor_drop, ofBytes?_recolor]
  split <;> rfl

theorem colors_map {k : α → α} (commutes : ∀ a, Colored.color (k a) = f (Colored.color a)) (cells : List α) :
    colors (cells.map k) = recolor f (colors cells) := by
  induction cells with
  | nil => rfl
  | cons a cells ih =>
      rw [List.map_cons, colors_cons, colors_cons, ih, commutes]
      rfl

theorem ofCells_map {k : α → α} (commutes : ∀ a, Colored.color (k a) = f (Colored.color a)) {t : Table α}
    {r : Raster} (hr : ofCells t.width t.height t.cells = .ok r) :
    ofCells (t.map k).width (t.map k).height (t.map k).cells = .ok (r.recolored f) := by
  obtain ⟨s, hs⟩ := exists_ofCells_iff.mpr (t.map k).length_cells
  obtain ⟨width, height, data⟩ := data_of_ofCells hr
  obtain ⟨width', height', data'⟩ := data_of_ofCells hs
  have same : s = r.recolored f := by
    apply Raster.ext
    · exact width'.trans width.symm
    · exact height'.trans height.symm
    · rw [data', Table.map, colors_map commutes, ← data, recolored]
  rw [hs, same]

end Raster

/-! ## The whole comparison -/

namespace Comparison

/-- Two grids can be compared either way round or not at all. Where they change places, each kind of error
is taken for the other one in every cell, in the tally and in every pixel, and nothing else changes. -/
theorem swapping_exchanges_errors (g h : Grid) :
    ((∃ c, ofGrids g h = .ok c) ↔ ∃ d, ofGrids h g = .ok d) ∧
    ∀ c, ofGrids g h = .ok c →
      ∃ d r s, ofGrids h g = .ok d ∧ Raster.ofCells c.width c.height c.cells = .ok r ∧
        Raster.ofCells d.width d.height d.cells = .ok s ∧
        d.width = c.width ∧ d.height = c.height ∧
        (∀ row column, d.cell? row column = (c.cell? row column).map CellClass.swapped) ∧
        d.tally = c.tally.swapped ∧
        s = r.recolored Color.swapped ∧
        ∀ column row, s.pixel? column row = (r.pixel? column row).map Color.swapped := by
  refine ⟨⟨fun ⟨c, hc⟩ => ⟨_, ofGrids_swapped hc⟩, fun ⟨d, hd⟩ => ⟨_, ofGrids_swapped hd⟩⟩, fun c hc => ?_⟩
  obtain ⟨r, hr⟩ := Raster.exists_ofCells_iff.mpr c.length_cells
  refine ⟨c.map CellClass.swapped, r, r.recolored Color.swapped, ofGrids_swapped hc, hr, ?_⟩
  exact ⟨Raster.ofCells_map CellClass.color_swapped hr, rfl, rfl, Table.cell?_map _ c, tally_swapped c, rfl,
    Raster.pixel?_recolored _ r⟩

theorem swapping_exchanges_errors_filled :
    ofGrids .diagonal .filled = .ok .twoMissed ∧
      ∃ d r s, ofGrids .filled .diagonal = .ok d ∧ Raster.ofCells 2 2 Comparison.twoMissed.cells = .ok r ∧
        Raster.ofCells d.width d.height d.cells = .ok s ∧
        d.cell? 0 1 = some .falseMember ∧ d.tally = ⟨2, 2, 2, 0, 2, 0, 2⟩ ∧
        r.pixel? 1 0 = some ⟨255, 255, 0⟩ ∧ s.pixel? 1 0 = some ⟨255, 0, 0⟩ := by
  have hc : ofGrids .diagonal .filled = .ok .twoMissed := rfl
  obtain ⟨-, exchanged⟩ := swapping_exchanges_errors .diagonal .filled
  obtain ⟨d, r, s, hd, hr, hs, -, -, cells, tally, -, pixels⟩ := exchanged _ hc
  have missed : r.pixel? 1 0 = some ⟨255, 255, 0⟩ := Raster.pixel?_of_ofCells hr 1 0
  refine ⟨hc, d, r, s, hd, hr, hs, cells 0 1, ?_, missed, ?_⟩
  · rw [tally]
    decide
  · rw [pixels, missed]
    decide

end Comparison

end MembershipGrid
