import MembershipGrid.Png.Filter

/-!
# Scanlines

The rows of an image are stored as lines: the mark of a filter, and the row with the filter applied.
The rows are read back from their lines, whichever filters were chosen (`readRows?_lines`).
-/

namespace MembershipGrid.Png.Scanline

def line (f : Filter) (above row : Bytes) : Bytes := f.mark :: f.apply above row

/-- The lines of rows, each with the filter that is chosen for it and the row above it. -/
def lines (choose : Bytes → Bytes → Filter) (above : Bytes) (rows : List Bytes) : List Bytes :=
  List.zipWith (fun above row => line (choose above row) above row) (above :: rows) rows

def readRow? (above : Bytes) : Bytes → Option Bytes
  | [] => none
  | mark :: differences => (Filter.ofMark? mark).map (·.undo above differences)

/-- Reads the rows of lines, the first one below the row `above`. The rows that are done are held
last first. -/
def readRows? (above : Bytes) : List Bytes → (done : List Bytes) → Option (List Bytes)
  | [], done => some done.reverse
  | line :: lines, done => do
    let row ← readRow? above line
    readRows? row lines (row :: done)

/-! ## Reading what was written -/

theorem readRow?_line (f : Filter) {above row : Bytes} (same : row.length = above.length) :
    readRow? above (line f above row) = some row := by
  simp only [readRow?, line, Filter.ofMark?_mark, Option.map_some, Filter.undo_apply f same]

theorem length_line (f : Filter) {above row : Bytes} (same : row.length = above.length) :
    (line f above row).length = row.length + 1 := by
  rw [line, List.length_cons, Filter.length_apply f same]

theorem readRows?_append (choose : Bytes → Bytes → Filter) {width : Nat} {above : Bytes}
    {rows : List Bytes} (above_even : above.length = width)
    (even : ∀ row ∈ rows, row.length = width) (done : List Bytes) :
    readRows? above (lines choose above rows) done = some (done.reverse ++ rows) := by
  induction rows generalizing above done with
  | nil => rw [List.append_nil]; rfl
  | cons row more ih =>
    have row_even := even row List.mem_cons_self
    have read := readRow?_line (choose above row) (row_even.trans above_even.symm)
    have later := ih row_even (fun r h => even r (List.mem_cons_of_mem _ h)) (row :: done)
    rw [List.reverse_cons, List.append_assoc, List.singleton_append] at later
    simp only [lines, List.zipWith_cons_cons, readRows?, read, Option.bind_eq_bind,
      Option.bind_some]
    exact later

theorem readRows?_lines (choose : Bytes → Bytes → Filter) {width : Nat} {above : Bytes}
    {rows : List Bytes} (above_even : above.length = width)
    (even : ∀ row ∈ rows, row.length = width) :
    readRows? above (lines choose above rows) [] = some rows :=
  readRows?_append choose above_even even []

theorem length_lines (choose : Bytes → Bytes → Filter) (above : Bytes) (rows : List Bytes) :
    (lines choose above rows).length = rows.length := by
  rw [lines, List.length_zipWith, List.length_cons]
  omega

theorem length_of_mem_lines (choose : Bytes → Bytes → Filter) {width : Nat} {above : Bytes}
    {rows : List Bytes} (above_even : above.length = width)
    (even : ∀ row ∈ rows, row.length = width) {l : Bytes} (mem : l ∈ lines choose above rows) :
    l.length = width + 1 := by
  induction rows generalizing above with
  | nil => simp [lines] at mem
  | cons row more ih =>
    have row_even := even row List.mem_cons_self
    rcases List.mem_cons.1 mem with rfl | later
    · exact (length_line _ (row_even.trans above_even.symm)).trans (congrArg (· + 1) row_even)
    · exact ih row_even (fun r h => even r (List.mem_cons_of_mem _ h)) later

end MembershipGrid.Png.Scanline
