import MembershipGrid.Proofs.Lemmas.Reading

/-!
# Texts of grids

Which texts are read as grids and what the grids then hold, and how far reading and writing a grid
undo each other.
-/

namespace MembershipGrid.Grid

def diagonal : Grid := ⟨2, 2, [.member, .outside, .outside, .member], by decide, by decide, by decide⟩

/-! ## The language of the reader -/

/-- A text is read exactly when it has lines, all of one positive length, of nothing but the two
symbols, and then no character is lost: each decides the cell in its place. -/
theorem ofText_accepts_exactly (text : String) :
    (∀ ls, Text.FallsInto text.toList ls ↔ ls = Text.lines text.toList) ∧
    ((∃ g, ofText text = .ok g) ↔
      Text.lines text.toList ≠ [] ∧ ∃ width, 0 < width ∧
        ∀ line ∈ Text.lines text.toList, line.length = width ∧ ∀ c ∈ line, c = 'x' ∨ c = '.') ∧
    ∀ g, ofText text = .ok g →
      (∀ line ∈ Text.lines text.toList, line.length = g.width) ∧
      (Text.lines text.toList).length = g.height ∧
      g.cells.length = g.width * g.height ∧
      ∀ row < g.height, ∀ column < g.width,
        (g.cells[row * g.width + column]? = some .member ↔
          Text.charAt? (Text.lines text.toList) row column = some 'x') := by
  refine ⟨fun ls => Text.fallsInto_iff, exists_ofText_iff, fun g hg => ?_⟩
  have hl := ofText_eq_ok_iff.mp hg
  refine ⟨fun line h => length_of_mem_rowTexts (hl ▸ h), ?_, g.length_cells, ?_⟩
  · rw [hl, length_rowTexts]
  · intro row _ column hc
    have cell : g.cell? row column = g.cells[row * g.width + column]? := if_pos hc
    rw [hl, charAt?_rowTexts, cell]
    constructor
    · intro h
      rw [h]
      rfl
    · intro h
      obtain ⟨s, hs, e⟩ := Option.map_eq_some_iff.mp h
      have member : s = .member := toChar_injective e
      rw [hs, member]

theorem ofText_accepts_diagonal :
    ofText "x.\r\n.x" = .ok diagonal ∧
      ∀ row < 2, ∀ column < 2, (diagonal.cells[row * 2 + column]? = some .member ↔
        Text.charAt? (Text.lines "x.\r\n.x".toList) row column = some 'x') := by
  have read : ofText "x.\r\n.x" = .ok diagonal := by decide
  exact ⟨read, ((ofText_accepts_exactly "x.\r\n.x").2.2 diagonal read).2.2.2⟩

/-! ## Reading and writing -/

theorem ofText_toText (g : Grid) : ofText g.toText = .ok g := by
  rw [ofText_eq_ok_iff, toList_toText]
  apply Text.lines_unlines
  intro line hl
  constructor <;> intro h <;> rcases symbol_of_mem_rowTexts hl h with e | e <;> cases e

theorem toText_eq_iff {text : String} {g : Grid} (h : ofText text = .ok g) :
    g.toText = text ↔ '\r' ∉ text.toList ∧ text.toList.getLast? = some '\n' := by
  have hl := ofText_eq_ok_iff.mp h
  constructor
  · rintro rfl
    rw [toList_toText]
    constructor
    · intro hr
      obtain ⟨line, hline, hr⟩ := List.mem_flatMap.mp hr
      rcases List.mem_append.mp hr with hr | hr
      · rcases symbol_of_mem_rowTexts hline hr with e | e <;> cases e
      · cases List.mem_singleton.mp hr
    · exact Text.getLast?_unlines (exists_rowTexts_iff.mp ⟨g, rfl⟩).1
  · rintro ⟨hr, hn⟩
    rw [← String.toList_inj, toList_toText, ← hl, Text.unlines_lines hr fun _ => hn]

/-- Writing and reading undo each other. What reading forgets of a text is no more than how its lines
end. -/
theorem ofText_toText_inverse :
    (∀ g : Grid, ofText g.toText = .ok g) ∧
    (∀ text g, ofText text = .ok g →
      (g.toText = text ↔ '\r' ∉ text.toList ∧ text.toList.getLast? = some '\n')) ∧
    ∀ s t g h, ofText s = .ok g → ofText t = .ok h →
      (g = h ↔ ∃ ls, Text.FallsInto s.toList ls ∧ Text.FallsInto t.toList ls) := by
  refine ⟨ofText_toText, fun _ _ => toText_eq_iff, fun s t g h hg hh => ?_⟩
  simp only [Text.fallsInto_iff, exists_eq_left]
  rw [ofText_eq_ok_iff.mp hg, ofText_eq_ok_iff.mp hh]
  constructor
  · rintro rfl
    rfl
  · exact eq_of_rowTexts

theorem ofText_toText_inverse_diagonal :
    ofText "x.\r\n.x" = .ok diagonal ∧ diagonal.toText ≠ "x.\r\n.x" ∧
      ∃ ls, Text.FallsInto "x.\r\n.x".toList ls ∧ Text.FallsInto diagonal.toText.toList ls := by
  obtain ⟨written, kept, same⟩ := ofText_toText_inverse
  have read : ofText "x.\r\n.x" = .ok diagonal := by decide
  refine ⟨read, ?_, (same _ _ diagonal diagonal read (written diagonal)).mp rfl⟩
  intro h
  exact absurd ((kept _ _ read).mp h).1 (by decide)

end MembershipGrid.Grid
