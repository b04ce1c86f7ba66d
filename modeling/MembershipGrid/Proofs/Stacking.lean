import MembershipGrid.Proofs.Images

/-!
# Grids above one another

Putting one grid above another is the same at every stage: texts that follow each other are read as the one
grid above the other, and comparing, counting and painting go on below the seam as they would from the top.
-/

namespace MembershipGrid

/-! ## Tables -/

namespace Table

variable {α : Type}

/-- The rows of one table followed by the rows of another. -/
def atop (upper lower : Table α) (same : upper.width = lower.width) : Table α where
  width := upper.width
  height := upper.height + lower.height
  cells := upper.cells ++ lower.cells
  width_pos := upper.width_pos
  height_pos := Nat.add_pos_left upper.height_pos _
  length_cells := by
    rw [List.length_append, upper.length_cells, lower.length_cells, ← same, Nat.mul_add]

theorem rows_atop (upper lower : Table α) (same : upper.width = lower.width) :
    (upper.atop lower same).rows = upper.rows ++ lower.rows := by
  have even : ∀ row ∈ upper.rows ++ lower.rows, row.length = upper.width := by
    intro row hr
    rcases List.mem_append.mp hr with above | below
    · exact length_of_mem_rows above
    · rw [length_of_mem_rows below, same]
  have cut := RowMajor.rows_flatten even
  rwa [List.length_append, length_rows, length_rows, List.flatten_append, flatten_rows, flatten_rows] at cut

end Table

/-! ## Reading -/

namespace Grid

variable {upper lower : String} {g h : Grid}

theorem rowTexts_atop (same : g.width = h.width) : rowTexts (g.atop h same) = rowTexts g ++ rowTexts h := by
  rw [rowTexts, Table.rows_atop, List.map_append, rowTexts, rowTexts]

theorem lines_append_of_ofText (hg : ofText upper = .ok g) (hh : ofText lower = .ok h)
    (ended : upper.toList.getLast? = some '\n') :
    Text.lines (upper ++ lower).toList = rowTexts g ++ rowTexts h := by
  rw [String.toList_append, ← ofText_eq_ok_iff.mp hg, ← ofText_eq_ok_iff.mp hh]
  exact ((Text.fallsInto_lines _).append (fun _ => ended) (Text.fallsInto_lines _)).lines_eq

theorem exists_rowTexts_cons (g : Grid) :
    ∃ first rest, rowTexts g = first :: rest ∧ first.length = g.width := by
  obtain ⟨first, rest, cut⟩ := List.exists_cons_of_ne_nil (exists_rowTexts_iff.mp ⟨g, rfl⟩).1
  exact ⟨first, rest, cut, length_of_mem_rowTexts (cut ▸ List.mem_cons_self)⟩

theorem readRows_rowTexts_of_ne (apart : g.width ≠ h.width) :
    readRows g.width 1 (rowTexts g ++ rowTexts h) = .error (.unevenRow (g.height + 1) g.width h.width) := by
  obtain ⟨row, rest, cut, width⟩ := h.exists_rowTexts_cons
  rw [readRows_append, readRows_rowTexts, length_rowTexts, cut, readRows_of_uneven (width ▸ apart.symm), width,
    Nat.add_comm 1]
  rfl

theorem ofText_append (hg : ofText upper = .ok g) (hh : ofText lower = .ok h)
    (ended : upper.toList.getLast? = some '\n') :
    ofText (upper ++ lower) =
      if same : g.width = h.width then .ok (g.atop h same)
      else .error (.unevenRow (g.height + 1) g.width h.width) := by
  have cut := lines_append_of_ofText hg hh ended
  split
  · rename_i same
    rw [ofText_eq_ok_iff, cut, rowTexts_atop]
  · rename_i apart
    have uneven := readRows_rowTexts_of_ne apart
    obtain ⟨first, rest, top, width⟩ := g.exists_rowTexts_cons
    rw [top, List.cons_append] at cut uneven
    rw [← width] at uneven ⊢
    exact ofText_of_readRows_error cut uneven

end Grid

/-! ## Comparing -/

namespace Comparison

variable {left left' right right' : Grid} {c c' : Comparison}

theorem ofGrids_atop (hc : ofGrids left right = .ok c) (hc' : ofGrids left' right' = .ok c')
    (same_left : left.width = left'.width) (same_right : right.width = right'.width)
    (same : c.width = c'.width) :
    ofGrids (left.atop left' same_left) (right.atop right' same_right) = .ok (c.atop c' same) := by
  rw [ofGrids_eq_ok_iff] at hc hc' ⊢
  obtain ⟨height, width, cwidth, cheight, ccells⟩ := hc
  obtain ⟨height', width', -, cheight', ccells'⟩ := hc'
  refine ⟨congrArg₂ (· + ·) height height', width, cwidth, congrArg₂ (· + ·) cheight cheight', ?_⟩
  -- The seam of the two lists is at one place on both sides.
  have length : left.cells.length = right.cells.length := by
    rw [left.length_cells, right.length_cells, width, height]
  calc c.cells ++ c'.cells
      = List.zipWith CellClass.ofSymbols left.cells right.cells ++
          List.zipWith CellClass.ofSymbols left'.cells right'.cells := congrArg₂ (· ++ ·) ccells ccells'
    _ = List.zipWith CellClass.ofSymbols (left.cells ++ left'.cells) (right.cells ++ right'.cells) :=
        (List.zipWith_append length).symm

theorem tally_atop (same : c.width = c'.width) :
    tally (c.atop c' same) =
      { width := c.tally.width
        height := c.tally.height + c'.tally.height
        agreeMember := c.tally.agreeMember + c'.tally.agreeMember
        agreeOutside := c.tally.agreeOutside + c'.tally.agreeOutside
        falseMember := c.tally.falseMember + c'.tally.falseMember
        falseOutside := c.tally.falseOutside + c'.tally.falseOutside
        mismatched := c.tally.mismatched + c'.tally.mismatched } := by
  simp only [tally, Table.atop, List.count_append, List.countP_append]

end Comparison

/-! ## Painting -/

namespace Raster

variable {α : Type} [Colored α]

theorem colors_append (cells others : List α) : colors (cells ++ others) = colors cells ++ colors others :=
  List.flatMap_append

theorem exists_ofCells_atop (t u : Table α) (same : t.width = u.width) :
    ∃ r s both, ofCells t.width t.height t.cells = .ok r ∧ ofCells u.width u.height u.cells = .ok s ∧
      ofCells (t.atop u same).width (t.atop u same).height (t.atop u same).cells = .ok both ∧
      both.width = r.width ∧ both.height = r.height + s.height ∧ both.data = r.data ++ s.data := by
  obtain ⟨r, hr⟩ := exists_ofCells_iff.mpr t.length_cells
  obtain ⟨s, hs⟩ := exists_ofCells_iff.mpr u.length_cells
  obtain ⟨both, hb⟩ := exists_ofCells_iff.mpr (t.atop u same).length_cells
  obtain ⟨rwidth, rheight, rdata⟩ := data_of_ofCells hr
  obtain ⟨-, sheight, sdata⟩ := data_of_ofCells hs
  obtain ⟨bwidth, bheight, bdata⟩ := data_of_ofCells hb
  refine ⟨r, s, both, hr, hs, hb, ?_, ?_, ?_⟩
  · exact bwidth.trans rwidth.symm
  · rw [bheight, rheight, sheight]
    rfl
  · rw [bdata, rdata, sdata, ← colors_append]
    rfl

end Raster

/-! ## The whole way -/

/-- The rows of a text that comes after the end of a line go below those before it, or the first of them is
refused for its length. What two grids, one above the other, come to when they are compared, counted and
painted is what the parts come to, one after the other or added up. -/
theorem stacking_distributes :
    (∀ upper lower g h, Grid.ofText upper = .ok g → Grid.ofText lower = .ok h →
      upper.toList.getLast? = some '\n' →
      Grid.ofText (upper ++ lower) =
        if same : g.width = h.width then .ok (g.atop h same)
        else .error (.unevenRow (g.height + 1) g.width h.width)) ∧
    ∀ (left left' right right' : Grid) (same_left : left.width = left'.width)
      (same_right : right.width = right'.width),
      left.width = right.width → left.height = right.height → left'.height = right'.height →
      ∃ c c' both r r' image,
        Comparison.ofGrids left right = .ok c ∧ Comparison.ofGrids left' right' = .ok c' ∧
        Comparison.ofGrids (left.atop left' same_left) (right.atop right' same_right) = .ok both ∧
        both.width = c.width ∧ both.height = c.height + c'.height ∧ both.cells = c.cells ++ c'.cells ∧
        both.tally =
          { width := c.tally.width
            height := c.tally.height + c'.tally.height
            agreeMember := c.tally.agreeMember + c'.tally.agreeMember
            agreeOutside := c.tally.agreeOutside + c'.tally.agreeOutside
            falseMember := c.tally.falseMember + c'.tally.falseMember
            falseOutside := c.tally.falseOutside + c'.tally.falseOutside
            mismatched := c.tally.mismatched + c'.tally.mismatched } ∧
        Raster.ofCells c.width c.height c.cells = .ok r ∧
        Raster.ofCells c'.width c'.height c'.cells = .ok r' ∧
        Raster.ofCells both.width both.height both.cells = .ok image ∧
        image.width = r.width ∧ image.height = r.height + r'.height ∧ image.data = r.data ++ r'.data := by
  constructor
  · intro upper lower g h hg hh ended
    exact Grid.ofText_append hg hh ended
  · intro left left' right right' same_left same_right width height height'
    have width' : left'.width = right'.width := same_left.symm.trans (width.trans same_right)
    obtain ⟨c, hc⟩ := Comparison.exists_ofGrids_iff.mpr ⟨height, width⟩
    obtain ⟨c', hc'⟩ := Comparison.exists_ofGrids_iff.mpr ⟨height', width'⟩
    have same : c.width = c'.width := by
      rw [(Comparison.of_ofGrids hc).1, (Comparison.of_ofGrids hc').1, same_left]
    have stacked := Comparison.ofGrids_atop hc hc' same_left same_right same
    obtain ⟨r, r', image, hr, hr', hi, painted⟩ := Raster.exists_ofCells_atop c c' same
    exact ⟨c, c', c.atop c' same, r, r', image, hc, hc', stacked, rfl, rfl, rfl, Comparison.tally_atop same,
      hr, hr', hi, painted⟩

theorem stacking_distributes_diagonal :
    Grid.ofText ("x.\n.x\n" ++ "xx\r\n..") = .ok (Grid.diagonal.atop Grid.upper rfl) ∧
    Grid.ofText ("x.\n.x\n" ++ "x") = .error (.unevenRow 3 2 1) ∧
    ∃ both image,
      Comparison.ofGrids (Grid.diagonal.atop Grid.upper rfl) (Grid.upper.atop Grid.upper rfl) = .ok both ∧
      both.cells = [.agreeMember, .falseOutside, .agreeOutside, .falseMember] ++
        [.agreeMember, .agreeMember, .agreeOutside, .agreeOutside] ∧
      both.tally = ⟨2, 4, 3, 3, 1, 1, 2⟩ ∧
      Raster.ofCells 2 4 both.cells = .ok image ∧
      image.data = [150, 150, 150, 255, 255, 0, 50, 50, 50, 255, 0, 0] ++
        [150, 150, 150, 150, 150, 150, 50, 50, 50, 50, 50, 50] := by
  obtain ⟨reading, comparing⟩ := stacking_distributes
  have above : Grid.ofText "x.\n.x\n" = .ok .diagonal := by decide
  have below : Grid.ofText "xx\r\n.." = .ok .upper := by decide
  have narrow : Grid.ofText "x" = .ok ⟨1, 1, [.member], Nat.one_pos, Nat.one_pos, rfl⟩ := by decide
  refine ⟨reading _ _ _ _ above below (by decide), reading _ _ _ _ above narrow (by decide), ?_⟩
  obtain ⟨c, c', both, r, r', image, hc, hc', hb, width, height, cells, tally, hr, hr', hi, -, -, data⟩ :=
    comparing .diagonal .upper .upper .upper rfl rfl rfl rfl rfl
  cases hc.symm.trans (show _ = Except.ok Comparison.everyClass from rfl)
  cases hc'
  rw [width, height] at hi
  rw [(Raster.data_of_ofCells hr).2.2, (Raster.data_of_ofCells hr').2.2] at data
  exact ⟨both, image, hb, cells, tally, hi, data⟩

end MembershipGrid
