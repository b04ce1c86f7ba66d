import MembershipGrid.Color
import MembershipGrid.GridError
import MembershipGrid.Table
import MembershipGrid.Text.Utf8

/-!
# Rasters

A raster holds three bytes for each pixel, row after row. It is painted from cells row by row: each
row fills its own part of a blank buffer, so the rows can be filled in any order.
-/

namespace MembershipGrid

@[ext]
structure Raster where
  width : Nat
  height : Nat
  data : Bytes
  length_data : data.length = width * height * 3
  deriving DecidableEq

namespace Raster

variable {α : Type} [Colored α]

/-! ## Filling a buffer -/

def putPixel (buffer : Array UInt8) (pixel : Nat) (c : Color) : Array UInt8 :=
  ((buffer.setIfInBounds (3 * pixel) c.red).setIfInBounds (3 * pixel + 1) c.green).setIfInBounds
    (3 * pixel + 2) c.blue

def putCells (buffer : Array UInt8) : (pixel : Nat) → List α → Array UInt8
  | _, [] => buffer
  | pixel, cell :: rest => putCells (putPixel buffer pixel (Colored.color cell)) (pixel + 1) rest

/-- Fills row `row.2` of a buffer with the cells `row.1`. -/
def fillRow (width : Nat) (buffer : Array UInt8) (row : List α × Nat) : Array UInt8 :=
  putCells buffer (row.2 * width) row.1

def fillRows (width : Nat) (buffer : Array UInt8) (rows : List (List α × Nat)) : Array UInt8 :=
  rows.foldl (fillRow width) buffer

/-- The rows of a list of cells with their numbers; there are none to fill where they are empty. -/
def numberedRows (width height : Nat) (cells : List α) : List (List α × Nat) :=
  if width = 0 then [] else (RowMajor.rows width height cells).zipIdx

/-! ## Sizes -/

theorem size_putPixel (buffer : Array UInt8) (pixel : Nat) (c : Color) :
    (putPixel buffer pixel c).size = buffer.size := by
  simp [putPixel]

theorem size_putCells (buffer : Array UInt8) (pixel : Nat) (cells : List α) :
    (putCells buffer pixel cells).size = buffer.size := by
  induction cells generalizing buffer pixel with
  | nil => rfl
  | cons cell rest ih => rw [putCells, ih, size_putPixel]

theorem size_fillRows (width : Nat) (buffer : Array UInt8) (rows : List (List α × Nat)) :
    (fillRows width buffer rows).size = buffer.size := by
  induction rows generalizing buffer with
  | nil => rfl
  | cons row rest ih =>
    rw [fillRows, List.foldl_cons, ← fillRows, ih, fillRow, size_putCells]

/-! ## Painting -/

/-- Paints cells that are listed row by row. Their number must be that of the pixels. -/
def ofCells (width height : Nat) (cells : List α) : Except GridError Raster :=
  if cells.length = width * height then
    .ok
      { width
        height
        data :=
          (fillRows width (Array.replicate (width * height * 3) 0)
            (numberedRows width height cells)).toList
        length_data := by rw [Array.length_toList, size_fillRows, Array.size_replicate] }
  else .error (.wrongSize width height (width * height) cells.length)

/-- The image that bytes make up, if there are enough of them. What is left over is dropped. -/
def ofBytes? (width height : Nat) (data : Bytes) : Option Raster :=
  if enough : width * height * 3 ≤ data.length then
    some
      { width
        height
        data := data.take (width * height * 3)
        length_data := List.length_take_of_le enough }
  else none

theorem ofBytes?_data (r : Raster) : ofBytes? r.width r.height r.data = some r := by
  rw [ofBytes?, dif_pos (Nat.le_of_eq r.length_data.symm)]
  simp only [← r.length_data, List.take_length]

/-! ## Rows -/

def rows (r : Raster) : List Bytes := RowMajor.rows (r.width * 3) r.height r.data

theorem length_rows (r : Raster) : r.rows.length = r.height := RowMajor.length_rows _ _ _

theorem length_of_mem_rows {r : Raster} {row : Bytes} (h : row ∈ r.rows) :
    row.length = r.width * 3 :=
  RowMajor.length_of_mem_full_rows (by rw [r.length_data]; ac_rfl) h

theorem flatten_rows (r : Raster) : r.rows.flatten = r.data := by
  rw [rows, RowMajor.flatten_rows]
  apply List.take_of_length_le
  rw [r.length_data]
  exact Nat.le_of_eq (by ac_rfl)

end Raster

end MembershipGrid
