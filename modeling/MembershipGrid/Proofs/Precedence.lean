import MembershipGrid.Proofs.Assignments
import MembershipGrid.Proofs.Lemmas.Abreast
import MembershipGrid.Proofs.Writing

/-!
# Flags, settings and defaults

What a command line says counts more than the settings, and the settings count more than the defaults. A
command takes nothing from the settings but the one of them that it has no flag for, so with the flag, or
where there is none, two runs with different settings do the same.
-/

namespace MembershipGrid

variable {w v : World} {l : Logger} {path : String}

/-! ## Settings -/

namespace Job

variable {left right input output name : String} {b : World} {tally : Tally}

end Job

/-! ## Whole runs -/

namespace Program

open CommandLine

variable {settings settings' : Settings} {command : Command} {b : World}

theorem opened (settings : Settings) (w : World) :
    ∃ l b, (opening settings).run w = (l, b) ∧ l.files = logs w.disk settings ∧
      Disk.ChangedAt (w.disk.targets l.files) w.disk b.disk := by
  have started := Logger.changedAt_start settings.errorLog settings.debugLog w
  rw [opening, Script.run_bind]
  have files : ((Logger.start settings.errorLog settings.debugLog).run w).1.files = logs w.disk settings := by
    rw [Logger.run_start]
    rfl
  generalize (Logger.start settings.errorLog settings.debugLog).run w = result at started files ⊢
  obtain ⟨l, u⟩ := result
  have greeted : (greet l settings).WritesOnly l.files := obeys_greet (fun level _ => l.adds_files level) settings
  refine ⟨l, _, Script.run_bind _ _ _, files, ?_⟩
  rw [files] at greeted ⊢
  exact started.thenAt (greeted.run u) subset_rfl

end Program

end MembershipGrid
