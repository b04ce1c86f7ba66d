import MembershipGrid.Job.Embed
import MembershipGrid.Job.Images
import MembershipGrid.Proofs.Lemmas.Scripts

/-!
# What commands write

A command adds to its logs, and gives a new content to its output and to the report if there is one. It
writes nothing else, however far it gets, and logs nothing as an error.
-/

namespace MembershipGrid

variable {α : Type} {replaces appends : String → Bytes → Prop} {l : Logger}
  {left right input output path symbol : String} {report : Option String}

/-! ## Steps -/

theorem Script.obeys_readText (path : String) : (Script.readText path).Obeys replaces appends := by
  refine Script.Obeys.bind (fun _ => trivial) fun outcome => ?_
  cases outcome with
  | error e => trivial
  | ok content =>
      dsimp only
      split <;> trivial

theorem Grid.obeys_ofFile (path : String) : (Grid.ofFile path).run.Obeys replaces appends := by
  refine Script.Obeys.bindExcept (Script.obeys_readText path).lift fun outcome => ?_
  cases outcome <;> trivial

theorem Comparison.obeys_ofFiles (left right : String) :
    (Comparison.ofFiles left right).run.Obeys replaces appends :=
  Script.Obeys.bindExcept (Grid.obeys_ofFile left) fun _ =>
    Script.Obeys.bindExcept (Grid.obeys_ofFile right) fun _ => trivial

theorem Raster.obeys_writeImage (h : ∀ content, replaces path content) (content : Bytes) :
    (Raster.writeImage path content).run.Obeys replaces appends := by
  have written : (Script.writeBytes path content).Obeys replaces appends := ⟨h content, fun _ => trivial⟩
  refine Script.Obeys.bindExcept written.lift fun outcome => ?_
  cases outcome <;> trivial

theorem Raster.obeys_save (h : ∀ content, replaces path content) (r : Raster) :
    (r.save path).run.Obeys replaces appends := by
  rw [Raster.save]
  split
  · trivial
  · split
    · trivial
    · rename_i image _
      rw [Raster.write]
      split
      · exact Script.Obeys.bindExcept (Raster.obeys_writeImage h _) fun _ => trivial
      · split
        · exact Script.Obeys.bindExcept (Raster.obeys_writeImage h _) fun _ => trivial
        · exact Raster.obeys_writeImage h _

namespace Job

theorem obeys_gridStep (about : String) {s : ExceptT GridError Script α} (hs : s.run.Obeys replaces appends) :
    (gridStep about s).run.Obeys replaces appends := by
  change (Functor.map _ s.run : Script _).Obeys replaces appends
  rw [← bind_pure_comp]
  exact hs.bind fun _ => trivial

theorem obeys_fileStep (about : String) {s : Script (Except StorageError α)} (hs : s.Obeys replaces appends) :
    (fileStep about s).run.Obeys replaces appends := by
  change (Functor.map _ s : Script _).Obeys replaces appends
  rw [← bind_pure_comp]
  exact hs.bind fun _ => trivial

theorem obeys_writeText (text : String) (h : replaces path (Text.encode text)) :
    (writeText path text).run.Obeys replaces appends :=
  obeys_fileStep _ ⟨h, fun _ => trivial⟩

theorem obeys_paint [Colored α] (t : Table α) : (paint t).run.Obeys replaces appends := trivial

theorem obeys_log {level : String} (h : l.Adds appends level) (message : String) :
    (liftM (l.log level message) : Job Unit).run.Obeys replaces appends :=
  (Logger.obeys_log h message).lift

/-! ## Commands -/

variable (hl : ∀ level, level ≠ Logger.errorLevel → l.Adds appends level)
include hl

theorem obeys_writeReport (tally : Tally) (h : ∀ path ∈ report, ∀ content, replaces path content) :
    (writeReport l tally report).run.Obeys replaces appends := by
  cases report with
  | none => trivial
  | some path =>
      exact Script.Obeys.bindExcept (obeys_writeText _ (h path rfl _)) fun _ =>
        obeys_log (hl "INFO" (by decide)) _

theorem obeys_compare (left right : String) (ho : ∀ content, replaces output content)
    (hr : ∀ path ∈ report, ∀ content, replaces path content) :
    (compare l left right output report).run.Obeys replaces appends := by
  refine Script.Obeys.bindExcept (obeys_log (hl "INFO" (by decide)) _) fun _ => ?_
  refine Script.Obeys.bindExcept (obeys_gridStep _ (Comparison.obeys_ofFiles left right)) fun c => ?_
  refine Script.Obeys.bindExcept (obeys_log (hl "DEBUG" (by decide)) _) fun _ => ?_
  refine Script.Obeys.bindExcept (obeys_paint c) fun r => ?_
  refine Script.Obeys.bindExcept (obeys_gridStep _ (Raster.obeys_save ho r)) fun _ => ?_
  refine Script.Obeys.bindExcept (obeys_writeReport hl c.tally hr) fun _ => ?_
  exact Script.Obeys.bindExcept (obeys_log (hl "INFO" (by decide)) _) fun _ => trivial

theorem obeys_render (input : String) (ho : ∀ content, replaces output content) :
    (render l input output).run.Obeys replaces appends := by
  refine Script.Obeys.bindExcept (obeys_log (hl "INFO" (by decide)) _) fun _ => ?_
  refine Script.Obeys.bindExcept (obeys_gridStep _ (Grid.obeys_ofFile input)) fun g => ?_
  refine Script.Obeys.bindExcept (obeys_paint g) fun r => ?_
  refine Script.Obeys.bindExcept (obeys_gridStep _ (Raster.obeys_save ho r)) fun _ => ?_
  exact obeys_log (hl "INFO" (by decide)) _

theorem obeys_embed (input symbol : String) (ho : ∀ content, replaces output content) :
    (embed l input output symbol).run.Obeys replaces appends := by
  refine Script.Obeys.bindExcept (obeys_log (hl "INFO" (by decide)) _) fun _ => ?_
  refine Script.Obeys.bindExcept (obeys_fileStep _ fun _ => trivial) fun content => ?_
  split
  · trivial
  · refine Script.Obeys.bindExcept (obeys_writeText _ (ho _)) fun _ => ?_
    exact obeys_log (hl "INFO" (by decide)) _

end Job

end MembershipGrid
