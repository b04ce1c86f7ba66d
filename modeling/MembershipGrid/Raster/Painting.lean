import MembershipGrid.Raster

/-!
# Painting

The bytes of a painted raster are the colors of its cells, one after another. That holds in whatever
order the rows are filled (`fillRows_perm`), since no row touches the pixels of another, and whatever
the buffer held before (`toList_putCells`).
-/

namespace MembershipGrid.Raster

variable {α : Type} [Colored α]

def colors (cells : List α) : Bytes := cells.flatMap fun cell => (Colored.color cell).channels

/-! ## Order -/

theorem putPixel_comm {p q : Nat} (apart : p ≠ q) (buffer : Array UInt8) (c d : Color) :
    putPixel (putPixel buffer p c) q d = putPixel (putPixel buffer q d) p c := by
  apply Array.ext_getElem?
  intro i
  simp only [putPixel, Array.getElem?_setIfInBounds, Array.size_setIfInBounds]
  grind

theorem putPixel_putCells_comm {p q : Nat} (cells : List α) (apart : q < p ∨ p + cells.length ≤ q)
    (buffer : Array UInt8) (c : Color) :
    putPixel (putCells buffer p cells) q c = putCells (putPixel buffer q c) p cells := by
  induction cells generalizing buffer p with
  | nil => rfl
  | cons cell rest ih =>
    simp only [List.length_cons] at apart
    rw [putCells, putCells, ih (by omega), putPixel_comm (by omega)]

theorem putCells_comm {p q : Nat} (cells others : List α)
    (apart : q + others.length ≤ p ∨ p + cells.length ≤ q) (buffer : Array UInt8) :
    putCells (putCells buffer p cells) q others = putCells (putCells buffer q others) p cells := by
  induction others generalizing buffer q with
  | nil => rfl
  | cons other rest ih =>
    simp only [List.length_cons] at apart
    rw [putCells, putCells, putPixel_putCells_comm cells (by omega), ih (by omega)]

theorem putCells_append (buffer : Array UInt8) (p : Nat) (cells others : List α) :
    putCells buffer p (cells ++ others) =
      putCells (putCells buffer p cells) (p + cells.length) others := by
  induction cells generalizing buffer p with
  | nil => rfl
  | cons cell rest ih =>
    rw [List.cons_append, putCells, putCells, ih, List.length_cons, Nat.add_right_comm,
      Nat.add_assoc]

/-! ## Content -/

theorem putCells_split (before pixels after : Bytes) {p : Nat} {cells : List α}
    {buffer : Array UInt8} (split : buffer.toList = before ++ pixels ++ after)
    (start : before.length = 3 * p) (room : pixels.length = 3 * cells.length) :
    (putCells buffer p cells).toList = before ++ colors cells ++ after := by
  induction cells generalizing buffer before pixels p with
  | nil =>
    have none_left : pixels = [] := List.length_eq_zero_iff.1 room
    simp [putCells, colors, split, none_left]
  | cons cell rest ih =>
    obtain ⟨x, y, z, more, rfl⟩ : ∃ x y z more, pixels = x :: y :: z :: more := by
      rw [List.length_cons] at room
      rcases pixels with _ | ⟨x, _ | ⟨y, _ | ⟨z, more⟩⟩⟩
      · cases room
      · simp only [List.length_cons, List.length_nil] at room
        omega
      · simp only [List.length_cons, List.length_nil] at room
        omega
      · exact ⟨x, y, z, more, rfl⟩
    have painted : (putPixel buffer p (Colored.color cell)).toList =
        (before ++ (Colored.color cell).channels) ++ more ++ after := by
      simp only [putPixel, Array.toList_setIfInBounds, split, ← start]
      simp [Color.channels]
    rw [putCells, ih _ _ painted (by simp [start, Color.channels]; omega) (by simp at room; omega)]
    simp [colors]

theorem foldl_fillRow_zipIdx {width height : Nat} {cells : List α}
    (full : cells.length = width * height) (buffer : Array UInt8) (first : Nat) :
    ((RowMajor.rows width height cells).zipIdx first).foldl (fillRow width) buffer =
      putCells buffer (first * width) cells := by
  induction height generalizing buffer cells first with
  | zero =>
    have none_left : cells = [] := List.length_eq_zero_iff.1 full
    rw [none_left]
    rfl
  | succ height ih =>
    rw [Nat.mul_succ] at full
    have first_length : (cells.take width).length = width := by
      rw [List.length_take]
      omega
    have rest_length : (cells.drop width).length = width * height := by
      rw [List.length_drop]
      omega
    rw [RowMajor.rows, List.zipIdx_cons, List.foldl_cons, ih rest_length, fillRow]
    have joined := putCells_append buffer (first * width) (cells.take width) (cells.drop width)
    rw [List.take_append_drop, first_length, ← Nat.succ_mul] at joined
    exact joined.symm

/-! ## Rows -/

theorem fillRow_comm {width height : Nat} {cells : List α} (buffer : Array UInt8)
    {row other : List α × Nat} (row_mem : row ∈ (RowMajor.rows width height cells).zipIdx)
    (other_mem : other ∈ (RowMajor.rows width height cells).zipIdx) :
    fillRow width (fillRow width buffer row) other =
      fillRow width (fillRow width buffer other) row := by
  obtain ⟨cells₁, i⟩ := row
  obtain ⟨cells₂, j⟩ := other
  rw [List.mem_zipIdx_iff_getElem?] at row_mem other_mem
  by_cases same : i = j
  · subst same
    cases Option.some.inj (row_mem.symm.trans other_mem)
    rfl
  · have length₁ := RowMajor.length_of_mem_rows (List.mem_of_getElem? row_mem)
    have length₂ := RowMajor.length_of_mem_rows (List.mem_of_getElem? other_mem)
    apply putCells_comm
    rcases Nat.lt_or_gt_of_ne same with less | more
    · right
      have := Nat.mul_le_mul_right width less
      rw [Nat.succ_mul] at this
      simp only at length₁ ⊢
      omega
    · left
      have := Nat.mul_le_mul_right width more
      rw [Nat.succ_mul] at this
      simp only at length₂ ⊢
      omega

theorem fillRows_numberedRows {width height : Nat} {cells : List α}
    (full : cells.length = width * height) (buffer : Array UInt8) :
    fillRows width buffer (numberedRows width height cells) = putCells buffer 0 cells := by
  rw [fillRows, numberedRows]
  split
  · rename_i no_width
    have none_left : cells = [] := by
      rw [no_width, Nat.zero_mul] at full
      exact List.length_eq_zero_iff.1 full
    rw [none_left]
    rfl
  · rw [foldl_fillRow_zipIdx full, Nat.zero_mul]

theorem fillRows_perm {width height : Nat} {cells : List α} (full : cells.length = width * height)
    {order : List (List α × Nat)} (complete : order.Perm (RowMajor.rows width height cells).zipIdx)
    (buffer : Array UInt8) : fillRows width buffer order = putCells buffer 0 cells := by
  have natural := foldl_fillRow_zipIdx full buffer 0
  rw [Nat.zero_mul] at natural
  rw [← natural, fillRows]
  apply complete.foldl_eq'
  intro row row_mem other other_mem buffer
  rw [complete.mem_iff] at row_mem other_mem
  exact fillRow_comm buffer row_mem other_mem

theorem toList_putCells {cells : List α} {buffer : Array UInt8}
    (size : buffer.size = 3 * cells.length) : (putCells buffer 0 cells).toList = colors cells := by
  rw [putCells_split [] buffer.toList [] (by simp) rfl size, List.nil_append, List.append_nil]

theorem data_of_ofCells {width height : Nat} {cells : List α} {r : Raster}
    (painted : ofCells width height cells = .ok r) :
    r.width = width ∧ r.height = height ∧ r.data = colors cells := by
  rw [ofCells] at painted
  split at painted
  · rename_i full
    cases painted
    have size : (Array.replicate (width * height * 3) (0 : UInt8)).size = 3 * cells.length := by
      rw [Array.size_replicate, full, Nat.mul_comm]
    have bytes := toList_putCells size
    rw [← fillRows_numberedRows full] at bytes
    exact ⟨rfl, rfl, bytes⟩
  · cases painted

end MembershipGrid.Raster
