/-!
# Row-major lists

A list that holds a rectangle row after row can be cut back into its rows. Cutting loses nothing of
a list of the right length (`flatten_rows`), and cutting into pieces loses nothing of any list
(`flatten_pieces`).
-/

namespace MembershipGrid.RowMajor

variable {α : Type}

/-- The first `height` rows of a list, each of `width` items as long as they last. -/
def rows (width : Nat) : (height : Nat) → List α → List (List α)
  | 0, _ => []
  | height + 1, items => items.take width :: rows width height (items.drop width)

/-- Cuts a list into pieces of `size` items; the last one may be shorter. -/
def pieces (size : Nat) (items : List α) : List (List α) :=
  rows size ((items.length + size - 1) / size) items

theorem length_rows (width height : Nat) (items : List α) :
    (rows width height items).length = height := by
  induction height generalizing items with
  | zero => rfl
  | succ height ih => simp [rows, ih]

theorem flatten_rows (width height : Nat) (items : List α) :
    (rows width height items).flatten = items.take (width * height) := by
  induction height generalizing items with
  | zero => simp [rows]
  | succ height ih =>
    rw [rows, List.flatten_cons, ih, Nat.mul_succ, Nat.add_comm, List.take_add]

theorem getElem?_rows {width height row : Nat} (h : row < height) (items : List α) :
    (rows width height items)[row]? = some ((items.drop (row * width)).take width) := by
  induction height generalizing items row with
  | zero => cases h
  | succ height ih =>
    cases row with
    | zero => simp [rows]
    | succ row =>
      rw [rows, List.getElem?_cons_succ, ih (Nat.lt_of_succ_lt_succ h), List.drop_drop,
        Nat.succ_mul, Nat.add_comm]

theorem flatten_pieces {size : Nat} (size_pos : 0 < size) (items : List α) :
    (pieces size items).flatten = items := by
  rw [pieces, flatten_rows]
  apply List.take_of_length_le
  have := Nat.div_add_mod (items.length + size - 1) size
  have := Nat.mod_lt (items.length + size - 1) size_pos
  omega

theorem length_of_mem_rows {width height : Nat} {items row : List α}
    (h : row ∈ rows width height items) : row.length ≤ width := by
  induction height generalizing items with
  | zero => simp [rows] at h
  | succ height ih =>
    rcases List.mem_cons.1 h with rfl | later
    · exact List.length_take_le width items
    · exact ih later

theorem length_of_mem_pieces {size : Nat} {items piece : List α} (h : piece ∈ pieces size items) :
    piece.length ≤ size :=
  length_of_mem_rows h

theorem length_of_mem_full_rows {width height : Nat} {items row : List α}
    (full : items.length = width * height) (h : row ∈ rows width height items) :
    row.length = width := by
  induction height generalizing items with
  | zero => simp [rows] at h
  | succ height ih =>
    rw [Nat.mul_succ] at full
    rcases List.mem_cons.1 h with rfl | later
    · rw [List.length_take]; omega
    · exact ih (by rw [List.length_drop]; omega) later

/-- Pieces as long as a row are the rows, if the last row is full. -/
theorem pieces_eq_rows {width height : Nat} {items : List α} (width_pos : 0 < width)
    (full : items.length = width * height) : pieces width items = rows width height items := by
  have count : (width * height + width - 1) / width = height := by
    rw [Nat.add_sub_assoc width_pos, Nat.mul_add_div width_pos,
      Nat.div_eq_of_lt (Nat.sub_lt width_pos Nat.one_pos), Nat.add_zero]
  rw [pieces, full, count]

theorem length_flatten {width : Nat} {lists : List (List α)}
    (even : ∀ row ∈ lists, row.length = width) : lists.flatten.length = width * lists.length := by
  induction lists with
  | nil => rfl
  | cons row more ih =>
    rw [List.flatten_cons, List.length_append, even row List.mem_cons_self,
      ih fun r h => even r (List.mem_cons_of_mem _ h), List.length_cons, Nat.mul_succ, Nat.add_comm]

theorem rows_flatten {width : Nat} {lists : List (List α)}
    (even : ∀ row ∈ lists, row.length = width) : rows width lists.length lists.flatten = lists := by
  induction lists with
  | nil => rfl
  | cons row more ih =>
    have length_row := even row List.mem_cons_self
    simp only [List.length_cons, List.flatten_cons, rows, ← length_row, List.take_left,
      List.drop_left]
    rw [length_row, ih fun r h => even r (List.mem_cons_of_mem _ h)]

end MembershipGrid.RowMajor
