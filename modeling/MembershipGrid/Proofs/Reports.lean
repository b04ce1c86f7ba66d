import MembershipGrid.Proofs.Writing

/-!
# Reports and tallies

A report is the pretty form of an object with a member for each count of a tally, and the tally is read back
from it. The main statement follows the tally from a comparison that returns it to the file of the report.
-/

namespace MembershipGrid

open Json

namespace Job

variable {l : Logger} {left right output path : String} {w v : World} {tally : Tally}

theorem text_report_of_run (apart : ∀ log ∈ l.files, w.disk.Apart log path)
    (ran : (compare l left right output (some path)).run.run w = (.ok tally, v)) :
    v.disk.text path = .ok tally.report := by
  obtain ⟨c, r, place, saves, rfl, ended⟩ := exists_saves_of_run ran
  have saved := changedAt_atSaved saves.placed l left right c r
  exact Disk.text_eq_ok_iff.mpr ⟨_, read_report_of_finish saved apart ended, Text.decode?_encode _⟩

/-- A report is the pretty form of one object with the seven counts in their order, each as a numeral without
zeros in front. It is read back as the tally, different tallies have different reports, and the report that
a comparison leaves is read back as the tally that it returns. -/
theorem report_gives_back_the_tally :
    (∀ t : Tally,
      Pretty
        [("width", t.width), ("height", t.height), ("agree_member", t.agreeMember),
          ("agree_outside", t.agreeOutside), ("false_member", t.falseMember),
          ("false_outside", t.falseOutside), ("mismatched", t.mismatched)] t.report.toList ∧
      Tally.ofReport? t.report = some t) ∧
    (∀ t u : Tally, t ≠ u → t.report ≠ u.report) ∧
    ∀ (l : Logger) (left right output path : String) (w v : World) (tally : Tally),
      (∀ log ∈ l.files, w.disk.Apart log path) →
      (compare l left right output (some path)).run.run w = (.ok tally, v) →
      ∃ text, v.disk.text path = .ok text ∧ Tally.ofReport? text = some tally := by
  refine ⟨fun t => ⟨t.pretty_report, t.ofReport?_report⟩, fun t u => mt fun h => Tally.report_injective h, ?_⟩
  intro l left right output path w v tally apart ran
  exact ⟨tally.report, text_report_of_run apart ran, tally.ofReport?_report⟩

theorem report_gives_back_the_tally_of_twoTexts :
    ∃ v text,
      (compare (.writing "e.log" "d.log") "a" "b" "c.png" (some "t.json")).run.run twoTexts =
          (.ok ⟨2, 2, 2, 1, 0, 1, 1⟩, v) ∧
        v.disk.text "t.json" = .ok text ∧ Tally.ofReport? text = some ⟨2, 2, 2, 1, 0, 1, 1⟩ := by
  have apart : ∀ log ∈ (Logger.writing "e.log" "d.log").files, twoTexts.disk.Apart log "a" ∧
      twoTexts.disk.Apart log "b" ∧ twoTexts.disk.Apart log "t.json" := by
    rintro log (rfl | rfl) <;> refine ⟨?_, ?_, ?_⟩ <;> intro place h <;> cases h <;> decide
  obtain ⟨left, right⟩ := onDisk_twoTexts
  have reportable : ∀ path ∈ some "t.json", ∃ place, twoTexts.disk.target path = .ok place := by
    rintro path ⟨⟩
    exact ⟨["desk", "t.json"], rfl⟩
  have writable : ∃ place, twoTexts.disk.target "c.png" = .ok place := ⟨["desk", "c.png"], rfl⟩
  obtain ⟨v, ran⟩ := exists_run_compare (fun log h => ⟨(apart log h).1, (apart log h).2.1⟩)
    (Comparison.onDisk_eq_ok_iff.mpr ⟨_, _, left, right, rfl⟩) (by decide) writable reportable
  obtain ⟨text, found, read⟩ := report_gives_back_the_tally.2.2 _ "a" "b" "c.png" "t.json" twoTexts v _
    (fun log h => (apart log h).2.2) ran
  exact ⟨v, text, ran, found, read⟩

end Job

end MembershipGrid
