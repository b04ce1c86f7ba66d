import MembershipGrid.Proofs.Lemmas.Repeats
import MembershipGrid.Proofs.Writing

/-!
# Comparing a grid with itself

Where two symbols agree, their class has the color of the symbol. So a grid that is compared with itself is
drawn as it is rendered, and the two commands succeed with the same files.
-/

namespace MembershipGrid

variable {α β : Type} {d : Disk} {g : Grid} {c : Comparison} {r : Raster} {l : Logger}
  {input output : String} {w : World} {place : Location}

/-! ## Grids -/

namespace Raster

theorem color_ofSymbols_self (s : Symbol) :
    Colored.color (CellClass.ofSymbols s s) = Colored.color s := by
  cases s <;> rfl

theorem colors_ofSymbols_self (cells : List Symbol) :
    colors (List.zipWith CellClass.ofSymbols cells cells) = colors cells := by
  rw [List.zipWith_self, colors, colors, List.flatMap_map]
  simp only [color_ofSymbols_self]

theorem ofCells_of_ofGrids_self (hc : Comparison.ofGrids g g = .ok c)
    (hr : ofCells g.width g.height g.cells = .ok r) : ofCells c.width c.height c.cells = .ok r := by
  obtain ⟨cwidth, cheight, cells⟩ := Comparison.of_ofGrids hc
  obtain ⟨s, hs⟩ := exists_ofCells_iff.mpr c.length_cells
  obtain ⟨rwidth, rheight, rdata⟩ := data_of_ofCells hr
  obtain ⟨swidth, sheight, sdata⟩ := data_of_ofCells hs
  have same : s = r := by
    apply Raster.ext
    · rw [swidth, cwidth, rwidth]
    · rw [sheight, cheight, rheight]
    · rw [sdata, cells, colors_ofSymbols_self, rdata]
  rw [hs, same]

end Raster

/-! ## Files -/

theorem Comparison.onDisk_self_iff :
    onDisk d input input = .ok c ↔ ∃ g, Grid.onDisk d input = .ok g ∧ ofGrids g g = .ok c := by
  rw [onDisk_eq_ok_iff]
  constructor
  · rintro ⟨g, h, hg, hh, hc⟩
    cases hg.symm.trans hh
    exact ⟨g, hg, hc⟩
  · rintro ⟨g, hg, hc⟩
    exact ⟨g, g, hg, hg, hc⟩

theorem Disk.ChangedAt.read_of_node {e : Disk} {places : Set Location} {content : Bytes}
    (h : ChangedAt places d e) (ht : d.target output = .ok place)
    (hn : e.node? place = some (.file content)) : e.read output = .ok content := by
  obtain ⟨hl, -, slash, -⟩ := Disk.target_eq_ok_iff.mp ht
  exact Disk.read_eq_ok_iff.mpr ⟨place, h.locate_ok hl, hn, slash⟩

namespace Job

/-- A grid that can be read from one file, and whose image can be written to another. -/
structure Drawable (d : Disk) (input output : String) (g : Grid) (r : Raster) (place : Location) : Prop where
  read : Grid.onDisk d input = .ok g
  painted : Raster.ofCells g.width g.height g.cells = .ok r
  fits : g.width ≤ Png.maxSide ∧ g.height ≤ Png.maxSide
  placed : d.target output = .ok place

/-- How a job ends that draws the grid in a file if it can be drawn, and leaves the output alone if not. -/
inductive Draws (d : Disk) (input output : String) (place : Location) : Except Failure α × World → Prop
  | drawn {g : Grid} {r : Raster} {a : α} {v : World} : Drawable d input output g r place →
      v.disk.node? place = some (.file (Png.encode r)) → Draws d input output place (.ok a, v)
  | refused {f : Failure} {v : World} : (∀ g r, ¬Drawable d input output g r place) →
      v.disk.node? place = d.node? place → Draws d input output place (.error f, v)

theorem Drawable.unique {g' : Grid} {r' : Raster} (h : Drawable d input output g r place)
    (h' : Drawable d input output g' r' place) : r = r' := by
  cases h.read.symm.trans h'.read
  cases h.painted.symm.trans h'.painted
  rfl

theorem Draws.agree {x : Except Failure α × World} {y : Except Failure β × World}
    (hx : Draws d input output place x) (hy : Draws d input output place y) :
    ((∃ a, x.1 = .ok a) ↔ ∃ b, y.1 = .ok b) ∧ x.2.disk.node? place = y.2.disk.node? place := by
  cases hx with
  | drawn able node =>
      cases hy with
      | drawn able' node' =>
          refine ⟨⟨fun _ => ⟨_, rfl⟩, fun _ => ⟨_, rfl⟩⟩, ?_⟩
          rw [node, node', able.unique able']
      | refused unable _ => exact absurd able (unable _ _)
  | refused unable node =>
      cases hy with
      | drawn able _ => exact absurd able (unable _ _)
      | refused _ node' => exact ⟨by simp, node.trans node'.symm⟩

section Logging

variable (apart : ∀ log ∈ l.files, w.disk.Apart log input ∧ w.disk.Apart log output)
include apart

theorem onDisk_atReading_self_iff :
    Comparison.onDisk (atReading l input input output w).disk input input = .ok c ↔
      ∃ g, Grid.onDisk w.disk input = .ok g ∧ Comparison.ofGrids g g = .ok c := by
  rw [onDisk_atReading_iff output (fun log h => (apart log h).1) fun log h => (apart log h).1,
    Comparison.onDisk_self_iff]

theorem onDisk_atRendering_iff :
    Grid.onDisk (atRendering l input output w).disk input = .ok g ↔ Grid.onDisk w.disk input = .ok g :=
  (l.changedAt_after _ _ w).onDisk_grid_iff (Disk.locate_ne_of_apart fun log h => (apart log h).1)

theorem exists_saves_iff :
    (∃ c, Saves l input input output w c r place) ↔ ∃ g, Drawable w.disk input output g r place := by
  constructor
  · rintro ⟨c, compared, painted, fits, placed⟩
    obtain ⟨g, hg, hc⟩ := (onDisk_atReading_self_iff apart).mp compared
    obtain ⟨width, height, -⟩ := Comparison.of_ofGrids hc
    obtain ⟨s, hs⟩ := Raster.exists_ofCells_iff.mpr g.length_cells
    cases painted.symm.trans (Raster.ofCells_of_ofGrids_self hc hs)
    exact ⟨g, hg, hs, by rwa [← width, ← height], placed⟩
  · rintro ⟨g, read, painted, fits, placed⟩
    obtain ⟨c, hc⟩ := Comparison.exists_ofGrids_iff.mpr (⟨rfl, rfl⟩ : g.height = g.height ∧ g.width = g.width)
    obtain ⟨width, height, -⟩ := Comparison.of_ofGrids hc
    exact ⟨c, (onDisk_atReading_self_iff apart).mpr ⟨g, read, hc⟩,
      Raster.ofCells_of_ofGrids_self hc painted, by rwa [width, height], placed⟩

variable (ht : w.disk.target output = .ok place)
include ht

/-- Entries are added elsewhere. -/
theorem node?_after {v : World} {places : Set Location} (changed : Disk.ChangedAt places w.disk v.disk)
    (level message : String) : (l.after level message v).disk.node? place = v.disk.node? place := by
  refine (l.changedAt_after level message v).elsewhere place fun hp => ?_
  rw [changed.targets] at hp
  exact Disk.locate_ne_of_apart (fun log h => (apart log h).2) place hp (Disk.target_eq_ok_iff.mp ht).1

theorem node?_stored_after {v : World} (changed : Disk.ChangedAt (w.disk.targets l.files) w.disk v.disk)
    (content : Bytes) (level message : String) :
    (l.after level message { v with disk := v.disk.store place (.file content) }).disk.node? place =
      some (.file content) := by
  have stored := Disk.changedAt_of_target (changed.target_eq_ok_iff.mpr ht) content
  have all := changed.anywhere.trans stored.anywhere
  rw [node?_after apart ht all, Disk.node?_store (Disk.root_ne_of_target ht), if_pos rfl]

/-! ## Both commands draw -/

theorem draws_compare_self :
    Draws w.disk input output place ((compare l input input output none).run.run w) := by
  have runs := compareRun l input input output none w
  by_cases able : ∃ g r, Drawable w.disk input output g r place
  · obtain ⟨g, r, able⟩ := able
    obtain ⟨c, saves⟩ := (exists_saves_iff apart).mpr ⟨g, able⟩
    rw [run_compare_of_saves none saves, run_finish_none]
    exact .drawn able (node?_stored_after apart ht (changedAt_atSaving l input input output c w) _ _ _)
  · have unable : ∀ g r, ¬Drawable w.disk input output g r place := fun g r h => able ⟨g, r, h⟩
    have read := node?_after apart ht (.refl ∅ w.disk) "INFO"
      s!"compare: left={input} right={input} output={output}"
    generalize (compare l input input output none).run.run w = ran at runs ⊢
    cases runs with
    | unread hc => exact .refused unable read
    | unsaved hc hr hs =>
        have opened := changedAt_atReading l input input output w
        exact .refused unable ((node?_after apart ht opened _ _).trans read)
    | drawn saves =>
        cases saves.placed.symm.trans ht
        obtain ⟨g, able⟩ := (exists_saves_iff apart).mp ⟨_, saves⟩
        exact absurd able (unable g _)

theorem draws_render : Draws w.disk input output place ((render l input output).run.run w) := by
  have opened : Disk.ChangedAt (w.disk.targets l.files) w.disk (atRendering l input output w).disk :=
    l.changedAt_after _ _ w
  have read := node?_after apart ht (.refl ∅ w.disk) "INFO" s!"render: input={input} output={output}"
  have runs := renderRun l input output w
  generalize (render l input output).run.run w = ran at runs ⊢
  cases runs with
  | unread hg =>
      refine .refused (fun g r able => ?_) read
      cases hg.symm.trans ((onDisk_atRendering_iff apart).mpr able.read)
  | unsaved hg hr hs =>
      refine .refused (fun g r able => ?_) read
      cases hg.symm.trans ((onDisk_atRendering_iff apart).mpr able.read)
      cases hr.symm.trans able.painted
      cases hs.symm.trans (Raster.run_save_of_ofCells hr able.fits (opened.target_eq_ok_iff.mpr able.placed))
  | drawn hg hr fits placed =>
      cases placed.symm.trans (opened.target_eq_ok_iff.mpr ht)
      exact .drawn ⟨(onDisk_atRendering_iff apart).mp hg, hr, fits, ht⟩ (node?_stored_after apart ht opened _ _ _)

end Logging

/-- A grid that is compared with itself has the image that it is rendered as. So comparing a file with itself
succeeds exactly when rendering it does, and both leave the same at the output: the image of the grid in the
file, or what was there before. -/
theorem self_comparison_renders :
    (∀ g : Grid, ∃ c r, Comparison.ofGrids g g = .ok c ∧
      Raster.ofCells c.width c.height c.cells = .ok r ∧ Raster.ofCells g.width g.height g.cells = .ok r) ∧
    ∀ (l : Logger) (input output : String) (w w' : World) (place : Location), w'.disk = w.disk →
      w.disk.target output = .ok place →
      (∀ log ∈ l.files, w.disk.Apart log input ∧ w.disk.Apart log output) →
      ((∃ tally, ((compare l input input output none).run.run w).1 = .ok tally) ↔
        ((render l input output).run.run w').1 = .ok ()) ∧
      ((compare l input input output none).run.run w).2.disk.node? place =
        ((render l input output).run.run w').2.disk.node? place ∧
      (((render l input output).run.run w').1 = .ok () →
        ∃ g r, Grid.onDisk w.disk input = .ok g ∧ Raster.ofCells g.width g.height g.cells = .ok r ∧
          ((render l input output).run.run w').2.disk.read output = .ok (Png.encode r) ∧
          Png.decode? (Png.encode r) = some r) ∧
      (((render l input output).run.run w').1 ≠ .ok () →
        ((render l input output).run.run w').2.disk.node? place = w.disk.node? place) := by
  constructor
  · intro g
    obtain ⟨c, hc⟩ := Comparison.exists_ofGrids_iff.mpr (⟨rfl, rfl⟩ : g.height = g.height ∧ g.width = g.width)
    obtain ⟨r, hr⟩ := Raster.exists_ofCells_iff.mpr g.length_cells
    exact ⟨c, r, hc, Raster.ofCells_of_ofGrids_self hc hr, hr⟩
  · intro l input output w w' place same ht apart
    have compared := draws_compare_self apart ht
    have rendered := draws_render (w := w') (same ▸ apart) (same ▸ ht)
    have changed := Script.changedAt_run (render l input output).run w'
    rw [same] at rendered changed
    generalize (render l input output).run.run w' = ran at rendered changed ⊢
    obtain ⟨succeeds, node⟩ := compared.agree rendered
    refine ⟨succeeds.trans ⟨fun ⟨_, h⟩ => h, fun h => ⟨(), h⟩⟩, node, ?_⟩
    cases rendered with
    | drawn able written =>
        have readable := Raster.decode?_encode_of_ofCells able.painted able.fits
        exact ⟨fun _ => ⟨_, _, able.read, able.painted, changed.read_of_node ht written, readable⟩,
          fun failed => absurd rfl failed⟩
    | refused _ kept => exact ⟨nofun, fun _ => kept⟩

theorem self_comparison_renders_twoTexts :
    ∃ r v v' tally,
      (compare (.writing "e.log" "d.log") "b" "b" "c.png" none).run.run twoTexts = (.ok tally, v) ∧
        (render (.writing "e.log" "d.log") "b" "c.png").run.run twoTexts = (.ok (), v') ∧
        v'.disk.read "c.png" = .ok (Png.encode r) ∧
        v.disk.node? ["desk", "c.png"] = v'.disk.node? ["desk", "c.png"] := by
  have apart : ∀ log ∈ (Logger.writing "e.log" "d.log").files,
      twoTexts.disk.Apart log "b" ∧ twoTexts.disk.Apart log "c.png" := by
    rintro log (rfl | rfl) <;> refine ⟨?_, ?_⟩ <;> intro place h <;> cases h <;> decide
  have writable : twoTexts.disk.target "c.png" = .ok ["desk", "c.png"] := rfl
  have unreported : ∀ path ∈ none, ∃ place, twoTexts.disk.target path = .ok place := nofun
  obtain ⟨v, ran⟩ := exists_run_compare (fun log h => ⟨(apart log h).1, (apart log h).1⟩)
    (Comparison.onDisk_eq_ok_iff.mpr ⟨_, _, onDisk_twoTexts.2, onDisk_twoTexts.2, rfl⟩) (by decide) ⟨_, writable⟩ unreported
  obtain ⟨succeeds, node, drawn, -⟩ :=
    self_comparison_renders.2 (.writing "e.log" "d.log") "b" "c.png" twoTexts twoTexts _ rfl writable apart
  have rendered := succeeds.mp ⟨_, by rw [ran]⟩
  obtain ⟨-, r, -, -, read, -⟩ := drawn rendered
  rw [ran] at node
  exact ⟨r, v, _, _, ran, Prod.ext rendered rfl, read, node⟩

end Job

end MembershipGrid
