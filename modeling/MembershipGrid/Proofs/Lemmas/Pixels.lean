import MembershipGrid.Raster.Painting
import MembershipGrid.Table
import Mathlib.Data.List.Basic

/-!
# Rows and pixels of painted rasters

The part of the buffer that one row fills, and the color that a painted raster has in a place.
-/

namespace MembershipGrid

def Color.ofBytes? : Bytes → Option Color
  | red :: green :: blue :: _ => some ⟨red, green, blue⟩
  | _ => none

namespace Raster

/-- The color of the pixel in a column and a row, both counted from zero. -/
def pixel? (r : Raster) (column row : Nat) : Option Color :=
  if column < r.width then Color.ofBytes? (r.data.drop (3 * (row * r.width + column))) else none

def pixels (r : Raster) : List Color :=
  (List.range r.height).flatMap fun row => (List.range r.width).filterMap (r.pixel? · row)

variable {α : Type} {width height row : Nat} {cells : List α}

def rowCells (width : Nat) (cells : List α) (row : Nat) : List α :=
  (cells.drop (row * width)).take width

theorem length_rowCells (hr : row < height) (full : cells.length = width * height) :
    (rowCells width cells row).length = width := by
  have last := Nat.mul_le_mul_left width (Nat.succ_le_of_lt hr)
  rw [Nat.mul_succ] at last
  rw [rowCells, List.length_take, List.length_drop, full, Nat.mul_comm row]
  omega

theorem zipIdx_rows (width height : Nat) (cells : List α) :
    (RowMajor.rows width height cells).zipIdx =
      (List.range height).map fun row => (rowCells width cells row, row) := by
  apply List.ext_getElem?
  intro row
  rw [List.getElem?_zipIdx, List.getElem?_map]
  by_cases hr : row < height
  · rw [RowMajor.getElem?_rows hr, List.getElem?_range hr, Nat.zero_add]
    rfl
  · have hrows : (RowMajor.rows width height cells)[row]? = none := by
      rw [List.getElem?_eq_none_iff, RowMajor.length_rows]
      exact Nat.not_lt.mp hr
    have hrange : (List.range height)[row]? = none := by
      rw [List.getElem?_eq_none_iff, List.length_range]
      exact Nat.not_lt.mp hr
    rw [hrows, hrange]
    rfl

theorem rows_eq_map_rowCells (width height : Nat) (cells : List α) :
    RowMajor.rows width height cells = (List.range height).map (rowCells width cells) := by
  have numbered := congrArg (List.map Prod.fst) (zipIdx_rows width height cells)
  rw [List.zipIdx_map_fst, List.map_map] at numbered
  exact numbered

theorem filterMap_range (items : List α) (n : Nat) : (List.range n).filterMap (items[·]?) = items.take n := by
  induction n with
  | zero => rfl
  | succ n ih =>
      rw [List.range_succ, List.filterMap_append, ih, List.take_add_one]
      rfl

theorem flatMap_cell? (t : Table α) :
    (List.range t.height).flatMap (fun row => (List.range t.width).filterMap (t.cell? row)) = t.cells := by
  have row_eq : ∀ row, (List.range t.width).filterMap (t.cell? row) = rowCells t.width t.cells row := by
    intro row
    rw [rowCells, ← filterMap_range]
    refine List.filterMap_congr fun column hc => ?_
    rw [Table.cell?, if_pos (List.mem_range.mp hc), List.getElem?_drop]
  rw [List.flatMap_congr fun row _ => row_eq row, List.flatMap_def, ← rows_eq_map_rowCells]
  exact t.flatten_rows

variable [Colored α]

def fillInOrder (width : Nat) (cells : List α) (buffer : Array UInt8) (order : List Nat) : Array UInt8 :=
  order.foldl (fun buffer row => fillRow width buffer (rowCells width cells row, row)) buffer

/-! ## Colors -/

theorem colors_cons (cell : α) (rest : List α) :
    colors (cell :: rest) = (Colored.color cell).channels ++ colors rest := rfl

theorem length_colors (cells : List α) : (colors cells).length = 3 * cells.length := by
  induction cells with
  | nil => rfl
  | cons cell rest ih =>
      rw [colors_cons, List.length_append, ih, List.length_cons, Nat.mul_succ, Nat.add_comm]
      rfl

theorem drop_colors (cells : List α) (n : Nat) : (colors cells).drop (3 * n) = colors (cells.drop n) := by
  induction n generalizing cells with
  | zero => rfl
  | succ n ih =>
      cases cells with
      | nil => rw [List.drop_nil]; exact List.drop_nil
      | cons cell rest =>
          rw [Nat.mul_succ, Nat.add_comm, ← List.drop_drop, List.drop_succ_cons, ← ih]
          rfl

theorem ofBytes?_colors (cells : List α) :
    Color.ofBytes? (colors cells) = cells.head?.map Colored.color := by
  cases cells <;> rfl

theorem color_injective_symbol : Function.Injective (Colored.color : Symbol → Color) := by
  intro s t
  cases s <;> cases t <;> decide

theorem color_injective_class : Function.Injective (Colored.color : CellClass → Color) := by
  intro a b
  cases a <;> cases b <;> decide

/-! ## Rows -/

theorem toList_fillRow (hr : row < height) (full : cells.length = width * height)
    {buffer : Array UInt8} (size : buffer.size = width * height * 3) :
    (fillRow width buffer (rowCells width cells row, row)).toList =
      buffer.toList.take (row * width * 3) ++ colors (rowCells width cells row) ++
        buffer.toList.drop ((row + 1) * width * 3) := by
  have last := Nat.mul_le_mul_right width (Nat.succ_le_of_lt hr)
  rw [Nat.succ_mul, Nat.mul_comm height] at last
  have length := size
  rw [← Array.length_toList] at length
  have stop : (row + 1) * width * 3 = row * width * 3 + width * 3 := by
    rw [Nat.succ_mul, Nat.add_mul]
  change (putCells buffer (row * width) (rowCells width cells row)).toList = _
  apply putCells_split _ ((buffer.toList.drop (row * width * 3)).take (width * 3))
  · rw [stop, ← List.drop_drop, List.append_assoc, List.take_append_drop, List.take_append_drop]
  · rw [List.length_take]
    omega
  · rw [length_rowCells hr full, List.length_take, List.length_drop]
    omega

theorem toList_fillInOrder (full : cells.length = width * height) {order : List Nat}
    (complete : order.Perm (List.range height)) {buffer : Array UInt8}
    (size : buffer.size = width * height * 3) :
    (fillInOrder width cells buffer order).toList = colors cells := by
  have listed := complete.map fun row => (rowCells width cells row, row)
  rw [← zipIdx_rows] at listed
  have filled := fillRows_perm full listed buffer
  rw [fillRows, List.foldl_map] at filled
  rw [fillInOrder, filled, toList_putCells]
  rw [size, full, Nat.mul_comm]

/-! ## Pixels -/

theorem pixel?_of_ofCells {t : Table α} {r : Raster}
    (h : ofCells t.width t.height t.cells = .ok r) (column row : Nat) :
    r.pixel? column row = (t.cell? row column).map Colored.color := by
  obtain ⟨width, -, data⟩ := data_of_ofCells h
  rw [pixel?, Table.cell?, width, data]
  split
  · rw [drop_colors, ofBytes?_colors, List.head?_drop]
  · rfl

theorem pixels_of_ofCells {t : Table α} {r : Raster} (h : ofCells t.width t.height t.cells = .ok r) :
    r.pixels = t.cells.map Colored.color := by
  obtain ⟨width, height, -⟩ := data_of_ofCells h
  rw [← flatMap_cell? t, List.map_flatMap, pixels, width, height]
  refine List.flatMap_congr fun row _ => ?_
  rw [List.map_filterMap]
  exact List.filterMap_congr fun column _ => pixel?_of_ofCells h column row

/-- Where no two cells share a color, a raster shows which table it was painted from. -/
theorem eq_of_ofCells (distinct : Function.Injective (Colored.color : α → Color)) {t u : Table α} {r : Raster}
    (ht : ofCells t.width t.height t.cells = .ok r) (hu : ofCells u.width u.height u.cells = .ok r) :
    t = u := by
  obtain ⟨twidth, theight, -⟩ := data_of_ofCells ht
  obtain ⟨uwidth, uheight, -⟩ := data_of_ofCells hu
  have cells : t.cells.map Colored.color = u.cells.map Colored.color := by
    rw [← pixels_of_ofCells ht, ← pixels_of_ofCells hu]
  exact Table.eq_of_cells (twidth.symm.trans uwidth) (theight.symm.trans uheight) (distinct.list_map cells)

end Raster

end MembershipGrid
