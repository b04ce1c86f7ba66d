import MembershipGrid.Comparison.Tally
import MembershipGrid.Comparison.Files
import MembershipGrid.Log
import MembershipGrid.Png.Save
import MembershipGrid.Job.Basic

/-!
# Jobs that draw

Two grids are compared, or one is rendered. The grids are read and checked before anything but the
logs is written; the image is written before the report.
-/

namespace MembershipGrid.Job

variable {α : Type}

def paint [Colored α] (t : Table α) : Job Raster :=
  ofExcept ((Raster.ofCells t.width t.height t.cells).mapError .grid)

def writeReport (l : Logger) (tally : Tally) : Option String → Job Unit
  | none => return
  | some path => do
    writeText path tally.report
    l.info s!"report written to {path}"

/-- Compares a grid with the reference grid on the right, writes the image of the differences, and a
report if there is a path for it. -/
def compare (l : Logger) (left right output : String) (report : Option String) : Job Tally := do
  l.info s!"compare: left={left} right={right} output={output}"
  let comparison ←
    gridStep s!"failed to compare {left} with {right}" (Comparison.ofFiles left right)
  let tally := comparison.tally
  l.debug s!"tally: {tally.note}"
  let raster ← paint comparison
  gridStep s!"failed to write difference image {output}" (raster.save output)
  writeReport l tally report
  l.info
    s!"wrote {tally.width}x{tally.height} difference image, {tally.mismatched} mismatched cells"
  return tally

def render (l : Logger) (input output : String) : Job Unit := do
  l.info s!"render: input={input} output={output}"
  let grid ← gridStep s!"failed to load {input}" (Grid.ofFile input)
  let raster ← paint grid
  gridStep s!"failed to write image {output}" (raster.save output)
  l.info s!"wrote {grid.width}x{grid.height} image"

end MembershipGrid.Job
