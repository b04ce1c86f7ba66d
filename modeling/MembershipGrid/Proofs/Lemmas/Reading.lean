import MembershipGrid.Grid.Reader
import MembershipGrid.Proofs.Lemmas.Lines
import Mathlib.Data.Set.List

/-!
# What the grid reader accepts

A text is read as a grid exactly when its lines are the rows of that grid, written out
(`ofText_eq_ok_iff`). Everything else that is said of accepted texts is read off this.
-/

namespace MembershipGrid.Grid

def rowTexts (g : Grid) : List (List Char) := g.rows.map (·.map Symbol.toChar)

variable {text : String} {g : Grid}

/-! ## Symbols -/

theorem toChar_injective : Function.Injective Symbol.toChar := by
  intro s t h
  cases s <;> cases t <;> first | rfl | simp [Symbol.toChar] at h

theorem exists_toChar_iff {c : Char} : (∃ s, Symbol.toChar s = c) ↔ c = 'x' ∨ c = '.' := by
  constructor
  · rintro ⟨s, rfl⟩
    cases s
    · exact Or.inl rfl
    · exact Or.inr rfl
  · rintro (rfl | rfl)
    · exact ⟨.member, rfl⟩
    · exact ⟨.outside, rfl⟩

theorem exists_map_toChar_iff {line : List Char} :
    (∃ symbols : List Symbol, symbols.map Symbol.toChar = line) ↔ ∀ c ∈ line, c = 'x' ∨ c = '.' := by
  simp only [← exists_toChar_iff]
  exact Set.ext_iff.mp (Set.range_list_map Symbol.toChar) line

/-! ## One line -/

theorem readCells_eq_ok_iff {line column : Nat} {row : List Char} {cells : List Symbol} :
    readCells line column row = .ok cells ↔ row = cells.map Symbol.toChar := by
  induction row generalizing column cells with
  | nil =>
      cases cells with
      | nil => exact ⟨fun _ => rfl, fun _ => rfl⟩
      | cons s rest => constructor <;> intro h <;> cases h
  | cons c row ih =>
      simp only [readCells]
      split
      · rename_i hn
        constructor
        · intro h
          cases h
        · intro h
          obtain ⟨s, rest, rfl, hs, -⟩ := List.map_eq_cons_iff.mp h.symm
          rw [Symbol.ofChar?_eq_some_iff.mpr hs.symm] at hn
          cases hn
      · rename_i s hs
        rw [Symbol.ofChar?_eq_some_iff] at hs
        subst hs
        cases more : readCells line (column + 1) row with
        | error e =>
            constructor
            · intro h
              cases h
            · intro h
              obtain ⟨_, rest, rfl, -, hr⟩ := List.map_eq_cons_iff.mp h.symm
              rw [ih.mpr hr.symm] at more
              cases more
        | ok tail =>
            have ht := ih.mp more
            subst ht
            constructor
            · intro h
              cases h
              rfl
            · intro h
              rw [← List.map_cons] at h
              rw [toChar_injective.list_map h.symm]
              rfl

theorem readRow_eq_ok_iff {width line : Nat} {row : List Char} {cells : List Symbol} :
    readRow width line row = .ok cells ↔ row = cells.map Symbol.toChar ∧ cells.length = width := by
  rw [readRow]
  split
  · rename_i hw
    rw [readCells_eq_ok_iff]
    refine ⟨fun h => ⟨h, ?_⟩, And.left⟩
    rw [← hw, h, List.length_map]
  · rename_i hw
    constructor
    · intro h
      cases h
    · rintro ⟨rfl, h⟩
      exact absurd (by rw [List.length_map, h]) hw

/-! ## All lines -/

theorem readRows_eq_ok_iff {width line : Nat} {rows : List (List Char)} {cells : List Symbol} :
    readRows width line rows = .ok cells ↔
      ∃ table : List (List Symbol), rows = table.map (·.map Symbol.toChar) ∧
        (∀ row ∈ table, row.length = width) ∧ cells = table.flatten := by
  induction rows generalizing line cells with
  | nil =>
      constructor
      · intro h
        cases h
        exact ⟨[], rfl, by simp, rfl⟩
      · rintro ⟨table, h, -, rfl⟩
        rw [List.map_eq_nil_iff.mp h.symm]
        rfl
  | cons row rows ih =>
      simp only [readRows]
      constructor
      · intro h
        cases first : readRow width line row with
        | error e =>
            rw [first] at h
            cases h
        | ok head =>
            cases more : readRows width (line + 1) rows with
            | error e =>
                rw [first, more] at h
                cases h
            | ok tail =>
                rw [first, more] at h
                cases h
                obtain ⟨rfl, hw⟩ := readRow_eq_ok_iff.mp first
                obtain ⟨table, rfl, hs, rfl⟩ := ih.mp more
                exact ⟨head :: table, rfl, List.forall_mem_cons.mpr ⟨hw, hs⟩, rfl⟩
      · rintro ⟨table, h, hs, rfl⟩
        obtain ⟨head, rest, rfl, rfl, rfl⟩ := List.map_eq_cons_iff.mp h.symm
        obtain ⟨hw, hs⟩ := List.forall_mem_cons.mp hs
        rw [readRow_eq_ok_iff.mpr ⟨rfl, hw⟩, ih.mpr ⟨rest, rfl, hs, rfl⟩]
        rfl

theorem readRows_append (width line : Nat) (upper lower : List (List Char)) :
    readRows width line (upper ++ lower) = do
      let cells ← readRows width line upper
      return cells ++ (← readRows width (line + upper.length) lower) := by
  induction upper generalizing line with
  | nil =>
      change readRows width line lower = (do return [] ++ (← readRows width line lower))
      cases readRows width line lower <;> rfl
  | cons row upper ih =>
      rw [List.cons_append, readRows, readRows, ih, List.length_cons, Nat.add_right_comm, ← Nat.add_assoc]
      cases readRow width line row with
      | error e => rfl
      | ok cells =>
          cases readRows width (line + 1) upper with
          | error e => rfl
          | ok above =>
              cases readRows width (line + upper.length + 1) lower with
              | error e => rfl
              | ok below => exact congrArg Except.ok (List.append_assoc cells above below).symm

theorem readRows_of_uneven {width line : Nat} {row : List Char} (h : row.length ≠ width)
    (rest : List (List Char)) :
    readRows width line (row :: rest) = .error (.unevenRow line width row.length) := by
  rw [readRows, readRow, if_neg h]
  rfl

/-! ## Whole texts -/

theorem eq_of_rowTexts {g h : Grid} (same : rowTexts g = rowTexts h) : g = h :=
  Table.eq_of_rows (toChar_injective.list_map.list_map same)

theorem rowTexts_of_ofText (h : ofText text = .ok g) : Text.lines text.toList = rowTexts g := by
  unfold ofText at h
  split at h
  · cases h
  · rename_i first rest hl
    split at h
    · cases h
    · rename_i cells read
      split at h
      · cases h
        obtain ⟨table, hr, hs, rfl⟩ := readRows_eq_ok_iff.mp read
        have height : table.length = rest.length + 1 := by
          rw [← List.length_map (·.map Symbol.toChar), ← hr, List.length_cons]
        simp only [rowTexts, Table.rows]
        rw [hl, hr, ← height, RowMajor.rows_flatten hs]
      · cases h

theorem readRows_rowTexts (g : Grid) (line : Nat) : readRows g.width line (rowTexts g) = .ok g.cells :=
  readRows_eq_ok_iff.mpr ⟨g.rows, rfl, fun _ hr => Table.length_of_mem_rows hr, g.flatten_rows.symm⟩

theorem ofText_of_readRows_error {first : List Char} {rest : List (List Char)} {e : GridError}
    (hl : Text.lines text.toList = first :: rest) (h : readRows first.length 1 (first :: rest) = .error e) :
    ofText text = .error e := by
  unfold ofText
  split
  · rename_i none
    cases hl.symm.trans none
  · rename_i first' rest' hl'
    cases hl.symm.trans hl'
    split
    · rename_i e' he
      cases h.symm.trans he
      rfl
    · rename_i cells hc
      cases h.symm.trans hc

theorem exists_ofText_of_rowTexts (h : Text.lines text.toList = rowTexts g) :
    ∃ g', ofText text = .ok g' := by
  unfold ofText
  split
  · rename_i hl
    have none : g.rows = [] := List.map_eq_nil_iff.mp (h.symm.trans hl)
    exact absurd (g.length_rows.symm.trans (congrArg List.length none)) (Nat.ne_of_gt g.height_pos)
  · rename_i first rest hl
    have width : first.length = g.width := by
      obtain ⟨row, hr, rfl⟩ := List.mem_map.mp (show first ∈ rowTexts g from h ▸ hl ▸ List.mem_cons_self)
      rw [List.length_map, Table.length_of_mem_rows hr]
    have read : readRows first.length 1 (first :: rest) = .ok g.cells := by
      rw [width, ← hl, h, readRows_rowTexts]
    split
    · rename_i e he
      rw [read] at he
      cases he
    · rw [dif_pos (width ▸ g.width_pos)]
      exact ⟨_, rfl⟩

theorem ofText_eq_ok_iff : ofText text = .ok g ↔ Text.lines text.toList = rowTexts g := by
  refine ⟨rowTexts_of_ofText, fun h => ?_⟩
  obtain ⟨g', hg'⟩ := exists_ofText_of_rowTexts h
  rw [hg', eq_of_rowTexts ((rowTexts_of_ofText hg').symm.trans h)]

/-! ## The rows of a grid as lines -/

theorem toList_toText (g : Grid) : g.toText.toList = Text.unlines (rowTexts g) := by
  rw [toText, String.toList_ofList, Text.unlines, rowTexts, List.flatMap_map]

theorem length_rowTexts (g : Grid) : (rowTexts g).length = g.height := by
  rw [rowTexts, List.length_map, g.length_rows]

theorem length_of_mem_rowTexts {line : List Char} (h : line ∈ rowTexts g) : line.length = g.width := by
  obtain ⟨row, hr, rfl⟩ := List.mem_map.mp h
  rw [List.length_map, Table.length_of_mem_rows hr]

theorem symbol_of_mem_rowTexts {line : List Char} {c : Char} (h : line ∈ rowTexts g) (hc : c ∈ line) :
    c = 'x' ∨ c = '.' := by
  obtain ⟨row, -, rfl⟩ := List.mem_map.mp h
  exact exists_map_toChar_iff.mp ⟨row, rfl⟩ c hc

theorem charAt?_rowTexts (g : Grid) (row column : Nat) :
    Text.charAt? (rowTexts g) row column = (g.cell? row column).map Symbol.toChar := by
  rw [Table.cell?_eq_getElem?_rows, Text.charAt?, rowTexts, List.getElem?_map]
  cases g.rows[row]? with
  | none => rfl
  | some cells => rw [Option.map_some, Option.bind_some, Option.bind_some, List.getElem?_map]

theorem exists_rowTexts_iff {ls : List (List Char)} :
    (∃ g : Grid, ls = rowTexts g) ↔
      ls ≠ [] ∧ ∃ width, 0 < width ∧
        ∀ line ∈ ls, line.length = width ∧ ∀ c ∈ line, c = 'x' ∨ c = '.' := by
  constructor
  · rintro ⟨g, rfl⟩
    refine ⟨?_, g.width, g.width_pos, fun line hl =>
      ⟨length_of_mem_rowTexts hl, fun c hc => symbol_of_mem_rowTexts hl hc⟩⟩
    intro none
    exact Nat.ne_of_gt g.height_pos (by rw [← length_rowTexts, none, List.length_nil])
  · rintro ⟨hne, width, hpos, hl⟩
    obtain ⟨table, rfl⟩ : ls ∈ Set.range (List.map (List.map Symbol.toChar)) := by
      rw [Set.range_list_map]
      exact fun line h => exists_map_toChar_iff.mpr (hl line h).2
    have even : ∀ row ∈ table, row.length = width := by
      intro row hr
      rw [← (hl _ (List.mem_map_of_mem hr)).1, List.length_map]
    obtain ⟨g, rfl⟩ := Table.exists_rows_eq (by simpa using hne) even hpos
    exact ⟨g, rfl⟩

theorem exists_ofText_iff :
    (∃ g, ofText text = .ok g) ↔
      Text.lines text.toList ≠ [] ∧ ∃ width, 0 < width ∧
        ∀ line ∈ Text.lines text.toList, line.length = width ∧ ∀ c ∈ line, c = 'x' ∨ c = '.' := by
  simp only [ofText_eq_ok_iff, exists_rowTexts_iff]

end MembershipGrid.Grid
