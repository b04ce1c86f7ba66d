import MembershipGrid.Proofs.Lemmas.Arguments
import MembershipGrid.Proofs.Outcomes

/-!
# Runs that stop early

A run that ends before its logs are started changes nothing, not even the logs of an earlier run. The
reasons to stop are listed, and a run without one performs its command.
-/

namespace MembershipGrid.Program

open CommandLine

/-- Why a run stops before its logs are started, with its exit code. -/
inductive Stops (d : Disk) (arguments : List String) : Nat → Prop
  | help {topic : Topic} : CommandLine.read arguments = .error (.help topic) → Stops d arguments 0
  | version : CommandLine.read arguments = .error .version → Stops d arguments 0
  | refused {reason : Refusal} : CommandLine.read arguments = .error (.refusal reason) → Stops d arguments 1
  | miscounted : Miscounted arguments → Stops d arguments 1
  | unloadable {invocation : Invocation} : CommandLine.read arguments = .ok invocation →
      Settings.Unloadable d invocation.config → Stops d arguments 1

variable {advice : Advice} {arguments : List String} {w : World} {code : Nat}

theorem Stops.run (h : Stops w.disk arguments code) :
    ∃ o : Outcome, o.exitCode = code ∧ (Program.run advice arguments).run w = (o, w) := by
  cases h with
  | help asked => exact ⟨_, rfl, run_of_stop asked w⟩
  | version asked => exact ⟨_, rfl, run_of_stop asked w⟩
  | refused refusal => exact ⟨_, rfl, run_of_stop refusal w⟩
  | miscounted count => exact ⟨_, rfl, run_of_stop (read_eq_wrongCount_iff.mpr count) w⟩
  | @unloadable invocation parsed bad =>
      have ran : (Program.run advice arguments).run w = _ := run_of_invocation parsed w
      cases loaded : Settings.onDisk w.disk invocation.config with
      | ok settings => exact absurd ⟨settings, loaded⟩ (Settings.unloadable_iff.mp bad)
      | error f =>
          rw [loaded] at ran
          exact ⟨_, rfl, ran⟩

theorem stops_or_performs (advice : Advice) (arguments : List String) (w : World) :
    (∃ code, Stops w.disk arguments code) ∨
      ∃ invocation settings, CommandLine.read arguments = .ok invocation ∧
        Settings.onDisk w.disk invocation.config = .ok settings ∧
        (Program.run advice arguments).run w = (perform settings invocation.command).run w := by
  cases parsed : CommandLine.read arguments with
  | error stop =>
      left
      cases stop with
      | help topic => exact ⟨0, .help parsed⟩
      | version => exact ⟨0, .version parsed⟩
      | refusal reason => exact ⟨1, .refused parsed⟩
      | wrongCount => exact ⟨1, .miscounted (read_eq_wrongCount_iff.mp parsed)⟩
  | ok invocation =>
      have ran : (Program.run advice arguments).run w = _ := run_of_invocation parsed w
      cases loaded : Settings.onDisk w.disk invocation.config with
      | ok settings =>
          rw [loaded] at ran
          exact .inr ⟨invocation, settings, rfl, loaded, ran⟩
      | error f =>
          refine .inl ⟨1, .unloadable parsed (Settings.unloadable_iff.mpr ?_)⟩
          rintro ⟨settings, accepted⟩
          cases loaded.symm.trans accepted

/-- A run that stops before its logs are started leaves the whole disk as it was, the logs of earlier runs
included, and ends with the exit code of its reason. With a wrong number of files, the outcome does not
depend on the disk at all. A run that does not stop performs its command. -/
theorem early_stop_changes_nothing (advice : Advice) (arguments : List String) :
    (∀ w code, Stops w.disk arguments code →
      ((run advice arguments).run w).1.exitCode = code ∧ ((run advice arguments).run w).2 = w) ∧
    (Miscounted arguments → ∃ o : Outcome, ∀ w, ((run advice arguments).run w).1 = o) ∧
    ∀ w, (¬∃ code, Stops w.disk arguments code) →
      ∃ invocation settings, CommandLine.read arguments = .ok invocation ∧
        Settings.onDisk w.disk invocation.config = .ok settings ∧
        (run advice arguments).run w = (perform settings invocation.command).run w := by
  refine ⟨fun w code stops => ?_, fun count => ⟨stopped (advice arguments) .wrongCount, fun w => ?_⟩,
    fun w goes => ?_⟩
  · obtain ⟨o, exit, ran⟩ := stops.run
    rw [ran]
    exact ⟨exit, rfl⟩
  · rw [run_of_stop (read_eq_wrongCount_iff.mpr count) w]
  · exact (stops_or_performs advice arguments w).resolve_left goes

/-- A desk with the logs of an earlier run and a settings file that is not accepted. -/
def unsettledDesk : World where
  disk := ⟨["desk"], [(["desk"], .directory), (["desk", "error.log"], .file (Text.encode "kept")),
    (["desk", "griddiff.config"], .file (Text.encode "report"))]⟩
  clock _ := ⟨2024, 1, 2, 3, 4, 5, 0, 0⟩
  looks := 0

theorem early_stop_changes_nothing_unsettledDesk :
    ((run .none ["embed", "a", "a.h"]).run unsettledDesk).1.exitCode = 1 ∧
      ((run .none ["embed", "a", "a.h"]).run unsettledDesk).2.disk.read "error.log" = .ok (Text.encode "kept") ∧
      ((run .none ["help", "embed"]).run unsettledDesk).1.exitCode = 0 ∧
      (∃ o : Outcome, ∀ w, ((run .none ["a", "b"]).run w).1 = o) ∧
      ∃ settings, (run .none ["embed", "a", "a.h"]).run usedDesk =
        (perform settings (.embed "a" "a.h" none)).run usedDesk := by
  have unsettled : Stops unsettledDesk.disk ["embed", "a", "a.h"] 1 :=
    @Stops.unloadable _ _ ⟨none, .embed "a" "a.h" none⟩ rfl (.rejected rfl rfl rfl rfl)
  have asked : Stops unsettledDesk.disk ["help", "embed"] 0 := .help rfl
  have goes : ¬∃ code, Stops usedDesk.disk ["embed", "a", "a.h"] code := by
    have loaded : ∃ settings, Settings.onDisk usedDesk.disk none = .ok settings := ⟨{}, rfl⟩
    rintro ⟨code, asked | asked | refusal | ⟨r, taken, -⟩ | ⟨parsed, bad⟩⟩
    · cases asked
    · cases asked
    · cases refusal
    · cases taken
    · cases parsed
      exact Settings.unloadable_iff.mp bad loaded
  obtain ⟨exit, same⟩ := (early_stop_changes_nothing .none ["embed", "a", "a.h"]).1 _ _ unsettled
  obtain ⟨exit', -⟩ := (early_stop_changes_nothing .none ["help", "embed"]).1 _ _ asked
  obtain ⟨invocation, settings, parsed, -, ran⟩ :=
    (early_stop_changes_nothing .none ["embed", "a", "a.h"]).2.2 usedDesk goes
  cases parsed
  have counted := (early_stop_changes_nothing .none ["a", "b"]).2.1 ⟨_, rfl, by decide⟩
  refine ⟨exit, ?_, exit', counted, settings, ran⟩
  rw [same]
  rfl

end MembershipGrid.Program
