import MembershipGrid.Png.RoundTrip
import MembershipGrid.Proofs.Lemmas.Jobs
import MembershipGrid.Proofs.Painting

/-!
# From texts to pixels

Comparing two files, from the bytes that are read to the image that can be read back.
-/

namespace MembershipGrid

def pixelColor : (left right : Char) → Option Color
  | 'x', 'x' => some ⟨150, 150, 150⟩
  | '.', '.' => some ⟨50, 50, 50⟩
  | 'x', '.' => some ⟨255, 0, 0⟩
  | '.', 'x' => some ⟨255, 255, 0⟩
  | _, _ => none

/-- An image with a pixel for every character, colored by what the two texts have in its place. -/
structure ShowsDifferences (left right : String) (image : Raster) : Prop where
  lines_left : (Text.lines left.toList).length = image.height
  lines_right : (Text.lines right.toList).length = image.height
  characters : ∀ line ∈ Text.lines left.toList ++ Text.lines right.toList, line.length = image.width
  pixels : ∀ row < image.height, ∀ column < image.width, ∃ x y color,
    Text.charAt? (Text.lines left.toList) row column = some x ∧
      Text.charAt? (Text.lines right.toList) row column = some y ∧
      pixelColor x y = some color ∧ image.pixel? column row = some color

/-! ## The image -/

theorem ShowsDifferences.pixel_eq {left right : String} {image : Raster} {row column : Nat} {x y : Char}
    (h : ShowsDifferences left right image)
    (hx : Text.charAt? (Text.lines left.toList) row column = some x)
    (hy : Text.charAt? (Text.lines right.toList) row column = some y) :
    image.pixel? column row = pixelColor x y := by
  obtain ⟨line, hline, hcolumn⟩ := Option.bind_eq_some_iff.mp hx
  obtain ⟨hrow, rfl⟩ := List.getElem?_eq_some_iff.mp hline
  obtain ⟨hcolumn, -⟩ := List.getElem?_eq_some_iff.mp hcolumn
  rw [h.characters _ (List.mem_append_left _ (List.getElem_mem hrow))] at hcolumn
  obtain ⟨x', y', color, hx', hy', hc, hp⟩ := h.pixels row (h.lines_left ▸ hrow) column hcolumn
  rw [hx] at hx'
  rw [hy] at hy'
  cases hx'
  cases hy'
  rw [hp, hc]

theorem pixelColor_toChar (s t : Symbol) :
    pixelColor s.toChar t.toChar = some (Colored.color (CellClass.ofSymbols s t)) := by
  cases s <;> cases t <;> rfl

theorem showsDifferences_of_ofCells {left right : String} {g h : Grid} {c : Comparison} {r : Raster}
    (hg : Grid.ofText left = .ok g) (hh : Grid.ofText right = .ok h) (hc : Comparison.ofGrids g h = .ok c)
    (hr : Raster.ofCells c.width c.height c.cells = .ok r) : ShowsDifferences left right r := by
  obtain ⟨height, width⟩ := Comparison.exists_ofGrids_iff.mp ⟨c, hc⟩
  obtain ⟨cwidth, cheight, -⟩ := Comparison.of_ofGrids hc
  obtain ⟨rwidth, rheight, -⟩ := Raster.data_of_ofCells hr
  have hl := Grid.ofText_eq_ok_iff.mp hg
  have hm := Grid.ofText_eq_ok_iff.mp hh
  refine ⟨?_, ?_, ?_, ?_⟩
  · rw [hl, Grid.length_rowTexts, rheight, cheight]
  · rw [hm, Grid.length_rowTexts, rheight, cheight, height]
  · intro line hline
    rw [rwidth, cwidth]
    rcases List.mem_append.mp hline with hline | hline
    · exact Grid.length_of_mem_rowTexts (hl ▸ hline)
    · rw [width]
      exact Grid.length_of_mem_rowTexts (hm ▸ hline)
  · intro row hrow column hcolumn
    rw [rheight, cheight] at hrow
    rw [rwidth, cwidth] at hcolumn
    obtain ⟨s, hs⟩ := Table.exists_cell? hrow hcolumn
    obtain ⟨t, ht⟩ := Table.exists_cell? (height ▸ hrow) (width ▸ hcolumn)
    refine ⟨s.toChar, t.toChar, _, ?_, ?_, pixelColor_toChar s t, ?_⟩
    · rw [hl, Grid.charAt?_rowTexts, hs]
      rfl
    · rw [hm, Grid.charAt?_rowTexts, ht]
      rfl
    · rw [Raster.pixel?_of_ofCells hr, Comparison.cell?_of_ofGrids hc, hs, ht]
      rfl

namespace Job

variable {l : Logger} {left right output : String} {w : World} {L R : Bytes} {c : Comparison}

/-! ## The files -/

theorem onDisk_eq_ok_iff_of_read (hl : w.disk.read left = .ok L) (hr : w.disk.read right = .ok R)
    (c : Comparison) :
    Comparison.onDisk w.disk left right = .ok c ↔
      ∃ s t g h, Text.decode? L = some s ∧ Text.decode? R = some t ∧
        Grid.ofText s = .ok g ∧ Grid.ofText t = .ok h ∧ Comparison.ofGrids g h = .ok c := by
  simp only [Comparison.onDisk_eq_ok_iff, Grid.onDisk_eq_ok_iff_of_read hl, Grid.onDisk_eq_ok_iff_of_read hr]
  constructor
  · rintro ⟨g, h, ⟨s, hs, hg⟩, ⟨t, ht, hh⟩, hc⟩
    exact ⟨s, t, g, h, hs, ht, hg, hh, hc⟩
  · rintro ⟨s, t, g, h, hs, ht, hg, hh, hc⟩
    exact ⟨g, h, ⟨s, hs, hg⟩, ⟨t, ht, hh⟩, hc⟩

theorem exists_compare_of_onDisk
    (hc : Comparison.onDisk (atReading l left right output w).disk left right = .ok c)
    (fits : c.width ≤ Png.maxSide ∧ c.height ≤ Png.maxSide) {place : Location}
    (writable : w.disk.target output = .ok place) (apart : ∀ log ∈ l.files, w.disk.Apart log output) :
    ∃ r v, Raster.ofCells c.width c.height c.cells = .ok r ∧
      (compare l left right output none).run.run w = (.ok c.tally, v) ∧
      v.disk.read output = .ok (Png.encode r) := by
  obtain ⟨r, hr⟩ := Raster.exists_ofCells_iff.mpr c.length_cells
  have ran := run_compare_of_saves none ⟨hc, hr, fits, writable⟩
  refine ⟨r, _, hr, ran.trans (run_finish_none l c.tally _), ?_⟩
  -- the image is written before the last entry of the log
  have saved := changedAt_atSaved writable l left right c r
  exact (Logger.read_after_iff saved apart).mpr (read_atSaved writable l left right c r)

/-! ## The whole way -/

/-- Comparing two files succeeds exactly when both hold texts of grids of one shape, and then the image
that was written shows where the texts differ. -/
theorem compare_draws_texts (l : Logger) (left right output : String) (w : World)
    (hl : w.disk.read left = .ok L) (hr : w.disk.read right = .ok R)
    (writable : ∃ place, w.disk.target output = .ok place)
    (apart : ∀ log ∈ l.files, w.disk.Apart log left ∧ w.disk.Apart log right ∧ w.disk.Apart log output)
    (fits : ∀ s g, Text.decode? L = some s → Grid.ofText s = .ok g →
      g.width ≤ Png.maxSide ∧ g.height ≤ Png.maxSide) :
    ((∃ tally, ((compare l left right output none).run.run w).1 = .ok tally) ↔
      ∃ s t g h, Text.decode? L = some s ∧ Text.decode? R = some t ∧
        Grid.ofText s = .ok g ∧ Grid.ofText t = .ok h ∧ g.height = h.height ∧ g.width = h.width) ∧
    ∀ tally, ((compare l left right output none).run.run w).1 = .ok tally →
      ∃ s t bytes image, Text.decode? L = some s ∧ Text.decode? R = some t ∧
        ((compare l left right output none).run.run w).2.disk.read output = .ok bytes ∧
        Png.decode? bytes = some image ∧ ShowsDifferences s t image := by
  obtain ⟨place, writable⟩ := writable
  have files (c : Comparison) := (onDisk_atReading_iff output (fun log h => (apart log h).1)
    fun log h => (apart log h).2.1).trans (onDisk_eq_ok_iff_of_read hl hr c)
  cases hc : Comparison.onDisk (atReading l left right output w).disk left right with
  | error e =>
      rw [run_compare_of_error hc]
      refine ⟨⟨?_, ?_⟩, ?_⟩
      · rintro ⟨_, h⟩
        cases h
      · rintro ⟨s, t, g, h, hs, ht, hg, hh, shape⟩
        obtain ⟨c, same⟩ := Comparison.exists_ofGrids_iff.mpr shape
        rw [(files c).mpr ⟨s, t, g, h, hs, ht, hg, hh, same⟩] at hc
        cases hc
      · intro _ h
        cases h
  | ok c =>
      obtain ⟨s, t, g, h, hs, ht, hg, hh, same⟩ := (files c).mp hc
      obtain ⟨cwidth, cheight, -⟩ := Comparison.of_ofGrids same
      have sides : c.width ≤ Png.maxSide ∧ c.height ≤ Png.maxSide := by
        rw [cwidth, cheight]
        exact fits s g hs hg
      obtain ⟨r, v, painted, ran, written⟩ :=
        exists_compare_of_onDisk hc sides writable fun log h => (apart log h).2.2
      obtain ⟨rwidth, rheight, -⟩ := Raster.data_of_ofCells painted
      have decoded : Png.decode? (Png.encode r) = some r := by
        have whole := Png.decode?_encode (rwidth ▸ sides.1) (rheight ▸ sides.2) []
        rwa [List.append_nil] at whole
      rw [ran]
      refine ⟨⟨fun _ => ?_, fun _ => ⟨_, rfl⟩⟩, fun _ _ => ?_⟩
      · exact ⟨s, t, g, h, hs, ht, hg, hh, Comparison.exists_ofGrids_iff.mp ⟨c, same⟩⟩
      · exact ⟨s, t, _, r, hs, ht, written, decoded, showsDifferences_of_ofCells hg hh same painted⟩

def twoTexts : World where
  disk :=
    { workingDirectory := ["desk"]
      entries :=
        [(["desk"], .directory),
          (["desk", "a"], .file (Text.encode "x.\n.x")),
          (["desk", "b"], .file (Text.encode "xx\r\n.x\r\n"))] }
  clock := fun _ => ⟨2024, 1, 1, 0, 0, 0, 0, 0⟩
  looks := 0

theorem onDisk_twoTexts :
    Grid.onDisk twoTexts.disk "a" = .ok .diagonal ∧ Grid.onDisk twoTexts.disk "b" =
      .ok ⟨2, 2, [.member, .member, .outside, .member], by decide, by decide, by decide⟩ :=
  ⟨(Grid.onDisk_eq_ok_iff_of_read rfl).mpr ⟨_, Text.decode?_encode "x.\n.x", by decide⟩,
    (Grid.onDisk_eq_ok_iff_of_read rfl).mpr ⟨_, Text.decode?_encode "xx\r\n.x\r\n", by decide⟩⟩

theorem compare_draws_twoTexts :
    (∃ tally, ((compare (.writing "e.log" "d.log") "a" "b" "c.png" none).run.run twoTexts).1 = .ok tally) ∧
      ∃ bytes image,
        ((compare (.writing "e.log" "d.log") "a" "b" "c.png" none).run.run twoTexts).2.disk.read "c.png" =
            .ok bytes ∧
          Png.decode? bytes = some image ∧ image.width = 2 ∧ image.height = 2 ∧
          image.pixel? 1 0 = some ⟨255, 255, 0⟩ := by
  have a := Text.decode?_encode "x.\n.x"
  have b := Text.decode?_encode "xx\r\n.x\r\n"
  have apart : ∀ log ∈ (Logger.writing "e.log" "d.log").files,
      twoTexts.disk.Apart log "a" ∧ twoTexts.disk.Apart log "b" ∧ twoTexts.disk.Apart log "c.png" := by
    rintro log (rfl | rfl) <;> refine ⟨?_, ?_, ?_⟩ <;> intro place h <;> cases h <;> decide
  have fits : ∀ s g, Text.decode? (Text.encode "x.\n.x") = some s → Grid.ofText s = .ok g →
      g.width ≤ Png.maxSide ∧ g.height ≤ Png.maxSide := by
    intro s g hs hg
    rw [a] at hs
    cases hs
    have read : Grid.ofText "x.\n.x" = .ok Grid.diagonal := by decide
    rw [read] at hg
    cases hg
    decide
  obtain ⟨succeeds, draws⟩ := compare_draws_texts (.writing "e.log" "d.log") "a" "b" "c.png" twoTexts
    rfl rfl ⟨["desk", "c.png"], rfl⟩ apart fits
  obtain ⟨tally, ran⟩ := succeeds.mpr ⟨_, _, Grid.diagonal,
    ⟨2, 2, [.member, .member, .outside, .member], by decide, by decide, by decide⟩, a, b,
    by decide, by decide, rfl, rfl⟩
  obtain ⟨s, t, bytes, image, hs, ht, written, decoded, shows⟩ := draws tally ran
  rw [a] at hs
  rw [b] at ht
  cases hs
  cases ht
  have width : 2 = image.width := shows.characters ['x', '.'] (by decide)
  have height : 2 = image.height := shows.lines_left
  have pixel : image.pixel? 1 0 = pixelColor '.' 'x' := shows.pixel_eq (by decide) (by decide)
  exact ⟨⟨tally, ran⟩, bytes, image, written, decoded, width.symm, height.symm, pixel⟩

end Job

end MembershipGrid
