import MembershipGrid.Proofs.Failures
import MembershipGrid.Proofs.Lemmas.Headed
import MembershipGrid.Proofs.Lemmas.Listed

/-!
# The short form of a comparison

Three files without the name of a command are compared, in every respect as if the command had been named.
-/

namespace MembershipGrid.Program

open CommandLine

variable {advice : Advice} {arguments arguments' : List String} {w w' : World}

/-- A comparison comes to the same at any time, but for the times in its logs. -/
theorem run_alike_of_same_disk
    (compares : ∀ i, CommandLine.read arguments = .ok i → ∃ left right output report,
      i.command = .compare left right output report) (same : w'.disk = w.disk) :
    ((run advice arguments).run w').1 = ((run advice arguments).run w).1 ∧
      ((run advice arguments).run w).2.disk.Alike ∅ (w.disk.targets (logsOf arguments w.disk))
        ((run advice arguments).run w').2.disk := by
  have alike : w.disk.Alike ∅ (w.disk.targets (logsOf arguments w.disk)) w'.disk := by
    rw [same]
    exact .refl _ _ _
  cases parsed : CommandLine.read arguments with
  | error stop =>
      rw [run_of_stop parsed, run_of_stop parsed]
      exact ⟨rfl, alike⟩
  | ok i =>
      rw [run_of_invocation parsed, run_of_invocation parsed, same]
      simp only [logsOf, parsed] at alike ⊢
      cases loaded : Settings.onDisk w.disk i.config with
      | error f => exact ⟨rfl, by simpa only [loaded] using alike⟩
      | ok settings =>
          simp only [loaded] at alike
          obtain ⟨left, right, output, report, command⟩ := compares i parsed
          rw [command]
          obtain ⟨answer, kept⟩ := keeps_perform_compare settings left right output report w w'
            ⟨.refl _ _, alike, .inl subset_rfl⟩
          exact ⟨answer, kept.alike⟩

/-- Arguments that are read alike are answered alike, unless they are refused with advice: that may depend on
how they were put. -/
theorem run_eq_of_read_eq (same : CommandLine.read arguments' = CommandLine.read arguments)
    (unadvised : ∀ reason, CommandLine.read arguments = .error (.refusal reason) → reason.advised = false) :
    run advice arguments' = run advice arguments := by
  rw [run, run, same]
  cases parsed : CommandLine.read arguments with
  | ok i => rfl
  | error stop =>
      cases stop with
      | help | version | wrongCount => rfl
      | refusal reason => simp only [stopped, Refusal.text, unadvised reason parsed, Bool.false_eq_true, if_false]

/-- With a settings file before them or without, three files by themselves are read as the comparison of these
files, as they are when it is named, unless the path of the settings file is empty. So the two runs end with
the same exit code, output and error text, and on one disk they leave the same files, but for the times in the
logs. -/
theorem short_form_is_compare {config : List String} {path : Option String} {left right output : String}
    (advice : Advice) (given : GivesConfig config path) (hl : Plain left) (hr : Plain right)
    (ho : Plain output) :
    CommandLine.read (config ++ [left, right, output]) = listedOutcome path left right output ∧
    CommandLine.read (config ++ ["compare", left, right, output]) = listedOutcome path left right output ∧
    ∀ w w' : World, w'.disk = w.disk →
      ((run advice (config ++ ["compare", left, right, output])).run w').1 =
        ((run advice (config ++ [left, right, output])).run w).1 ∧
      ((run advice (config ++ [left, right, output])).run w).2.disk.Alike ∅
        (w.disk.targets (logsOf (config ++ [left, right, output]) w.disk))
        ((run advice (config ++ ["compare", left, right, output])).run w').2.disk := by
  have short := read_listed given hl hr ho (.inl rfl)
  have named := read_listed given hl hr ho (.inr rfl)
  refine ⟨short, named, fun w w' disk => ?_⟩
  rw [run_eq_of_read_eq (named.trans short.symm)]
  · refine run_alike_of_same_disk (fun i parsed => ⟨left, right, output, none, ?_⟩) disk
    rw [short, listedOutcome] at parsed
    split_ifs at parsed
    cases parsed
    rfl
  · intro reason refused
    rw [short, listedOutcome] at refused
    split_ifs at refused
    cases refused
    rfl

/-- A desk with a report in its settings, at another time. -/
def laterDesk : World :=
  { settledDesk "report = r" with clock := fun _ => ⟨2025, 6, 7, 8, 9, 10, 11, 12⟩ }

theorem short_form_is_compare_laterDesk :
    ((run .none ["--config", "griddiff.config", "compare", "a", "a", "c.png"]).run laterDesk).1 = .success ∧
      ((run .none ["--config", "griddiff.config", "a", "a", "c.png"]).run (settledDesk "report = r")).2.disk.Alike ∅
        {["desk", "error.log"], ["desk", "debug.log"]}
        ((run .none ["--config", "griddiff.config", "compare", "a", "a", "c.png"]).run laterDesk).2.disk ∧
      ((run .none ["--config", "griddiff.config", "a", "a", "c.png"]).run (settledDesk "report = r")).2.disk.read "r" =
        .ok (Text.encode ("\x7b\n  \"width\": 2,\n  \"height\": 2,\n" ++
          "  \"agree_member\": 2,\n  \"agree_outside\": 2,\n" ++
          "  \"false_member\": 0,\n  \"false_outside\": 0,\n  \"mismatched\": 0\n\x7d")) := by
  have plain : Plain "a" ∧ Plain "c.png" :=
    ⟨⟨by decide, by decide, by decide⟩, ⟨by decide, by decide, by decide⟩⟩
  have given : GivesConfig ["--config", "griddiff.config"] (some "griddiff.config") := .apart (by decide)
  obtain ⟨-, -, runs⟩ := short_form_is_compare .none given plain.1 plain.1 plain.2
  obtain ⟨answer, alike⟩ := runs (settledDesk "report = r") laterDesk rfl
  simp only [List.cons_append, List.nil_append] at answer alike
  have short : ((run .none ["--config", "griddiff.config", "a", "a", "c.png"]).run (settledDesk "report = r")).1 =
      .success := by decide +kernel
  have parsed : CommandLine.read ["--config", "griddiff.config", "a", "a", "c.png"] =
      .ok ⟨some "griddiff.config", .compare "a" "a" "c.png" none⟩ := rfl
  have loaded : Settings.onDisk (settledDesk "report = r").disk (some "griddiff.config") =
      .ok { report := some "r" } := rfl
  have logs : logsOf ["--config", "griddiff.config", "a", "a", "c.png"] (settledDesk "report = r").disk =
      {"/desk/error.log", "/desk/debug.log"} := by
    simp only [logsOf, parsed, loaded]
    rfl
  refine ⟨answer.trans short, alike.mono subset_rfl ?_, by decide +kernel⟩
  rw [logs]
  rintro place ⟨path, rfl | rfl, ht⟩ <;> cases ht
  · exact Or.inl rfl
  · exact Or.inr rfl

end MembershipGrid.Program
