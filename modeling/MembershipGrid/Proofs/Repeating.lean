import MembershipGrid.Proofs.Lemmas.Repeats
import MembershipGrid.Proofs.Outcomes

/-!
# Runs that are repeated

No run reads what it or another one wrote. Two runs on disks that differ only in what the logs, the output
and the report held before come to the same outcome and the same logs, and if they succeed to the same
disks, but for the times in the logs.
-/

namespace MembershipGrid.Program

open CommandLine

/-- The files that a command reads. -/
def inputs : Command → Set String
  | .compare left right _ _ => {left, right}
  | .render input _ => {input}
  | .embed input _ _ => {input}

def logs (d : Disk) (settings : Settings) : Set String :=
  {Path.under d.workingPath settings.errorLog, Path.under d.workingPath settings.debugLog}

/-- The logs that a run with some arguments starts. -/
def logsOf (arguments : List String) (d : Disk) : Set String :=
  match CommandLine.read arguments with
  | .error _ => ∅
  | .ok invocation =>
    match Settings.onDisk d invocation.config with
    | .error _ => ∅
    | .ok settings => logs d settings

/-- The output and the report of a run, of which some may be known even if its settings are not. -/
def outputsOf (arguments : List String) (d : Disk) : Set String :=
  match CommandLine.read arguments with
  | .error _ => ∅
  | .ok invocation =>
    match Settings.onDisk d invocation.config with
    | .error _ => outputs {} invocation.command
    | .ok settings => outputs settings invocation.command

/-- The files that a run reads: its settings file and the inputs of its command. -/
def inputsOf (arguments : List String) (d : Disk) : Set String :=
  match CommandLine.read arguments with
  | .error _ => ∅
  | .ok invocation => {path | path ∈ Settings.fileOn d invocation.config} ∪ inputs invocation.command

variable {d : Disk} {paths : Set String} {stale done : Set Location} {l : Logger} {settings : Settings}
  {command : Command}

/-! ## Parts of a run -/

theorem repeats_noteUnknownKeys (hl : l.files ⊆ paths) (keys : List String) :
    (noteUnknownKeys l keys).Repeats d paths stale fun _ => stale := by
  induction keys with
  | nil => exact Script.repeats_pure _ subset_rfl
  | cons key keys ih => exact (Logger.repeats_log hl _ _).bind fun _ => ih

theorem repeats_greet (hl : l.files ⊆ paths) (settings : Settings) :
    (greet l settings).Repeats d paths stale fun _ => stale :=
  (Logger.repeats_log hl _ _).bind fun _ => repeats_noteUnknownKeys hl _

theorem repeats_carryOut (hl : l.files ⊆ paths)
    (clear : ∀ path ∈ inputs command, d.Avoids (stale ∪ d.targets paths) path) :
    (carryOut l settings command).run.Repeats d paths stale
      (Script.leaves stale (stale \ d.targets (outputs settings command))) := by
  cases command with
  | compare left right output report =>
      rw [outputs, Disk.targets_union, ← Set.sdiff_sdiff]
      have compared : (Job.compare l left right output (report <|> settings.report)).run.Repeats d paths stale _ :=
        Job.repeats_compare hl _ (clear left (Or.inl rfl)) (clear right (Or.inr rfl))
      exact compared.bindExcept fun _ => Script.repeats_pure _ subset_rfl
  | render input output => exact Job.repeats_render hl (clear input rfl)
  | embed input output symbol => exact Job.repeats_embed hl (clear input rfl)

/-- What is stale after a run with an outcome. -/
def staleAfter (failed done : Set Location) (o : Outcome) : Set Location :=
  if o.exitCode = 0 then done else failed

theorem repeats_conclude (hl : l.files ⊆ paths) (ended : Except Failure Unit) :
    (conclude l ended).Repeats d paths (Script.leaves stale done ended) (staleAfter stale done) := by
  cases ended with
  | error f => exact (Logger.repeats_log hl _ _).bind fun _ => Script.repeats_pure _ subset_rfl
  | ok => exact Script.repeats_pure _ subset_rfl

theorem repeats_perform (settings : Settings)
    (clear : ∀ path ∈ inputs command, d.Avoids (stale ∪ d.targets (logs d settings)) path) :
    (perform settings command).Repeats d (logs d settings) stale
      (staleAfter (stale \ d.targets (logs d settings))
        ((stale \ d.targets (logs d settings)) \ d.targets (outputs settings command))) := by
  have started : ∀ w : World, Disk.ChangedAt Set.univ d w.disk →
      ((Logger.start settings.errorLog settings.debugLog).run w).1 =
        .writing (Path.under d.workingPath settings.errorLog)
          (Path.under d.workingPath settings.debugLog) := by
    intro w same
    rw [Logger.run_start, Disk.workingPath, same.workingDirectory]
    rfl
  have files : (Logger.writing (Path.under d.workingPath settings.errorLog)
      (Path.under d.workingPath settings.debugLog)).files ⊆ logs d settings := subset_rfl
  rw [perform_eq_start]
  refine (Logger.repeats_start files).bind_answers fun w same => ?_
  rw [started w same]
  refine (repeats_greet files settings).bind fun _ => ?_
  refine (repeats_carryOut files fun path hp => ?_).bind (repeats_conclude files)
  change d.Avoids (stale \ d.targets (logs d settings) ∪ d.targets (logs d settings)) path
  rw [Set.sdiff_union_self]
  exact clear path hp

/-! ## Whole runs -/

variable {advice : Advice} {arguments : List String} {invocation : Invocation} {w w' : World}

theorem staleAfter_mono {failed more : Set Location} (hf : failed ⊆ more) (hd : done ⊆ more) (o : Outcome) :
    staleAfter failed done o ⊆ more := by
  rw [staleAfter]
  split
  · exact hd
  · exact hf

theorem alike_perform (settings : Settings)
    (alike : w.disk.Alike
      (w.disk.targets (logs w.disk settings) ∪ w.disk.targets (outputs settings command)) ∅ w'.disk)
    (clear : ∀ input ∈ inputs command, w.disk.Avoids
      (w.disk.targets (logs w.disk settings) ∪ w.disk.targets (outputs settings command)) input) :
    ((perform settings command).run w').1 = ((perform settings command).run w).1 ∧
      ((perform settings command).run w).2.disk.Alike
        (staleAfter (w.disk.targets (outputs settings command) \ w.disk.targets (logs w.disk settings)) ∅
          ((perform settings command).run w).1)
        (w.disk.targets (logs w.disk settings)) ((perform settings command).run w').2.disk := by
  have clear' : ∀ input ∈ inputs command, w.disk.Avoids (w.disk.targets (logs w.disk settings) ∪
      w.disk.targets (outputs settings command) ∪ w.disk.targets (logs w.disk settings)) input := by
    rwa [Set.union_right_comm, Set.union_self]
  have repeated := repeats_perform settings clear'
  rw [Set.sdiff_sdiff, Set.sdiff_self, Set.union_sdiff_left] at repeated
  exact repeated w w' (.refl _ _) (alike.mono subset_rfl (Set.empty_subset _))

theorem alike_run
    (alike : w.disk.Alike (w.disk.targets (logsOf arguments w.disk ∪ outputsOf arguments w.disk)) ∅ w'.disk)
    (clear : ∀ input ∈ inputsOf arguments w.disk,
      w.disk.Avoids (w.disk.targets (logsOf arguments w.disk ∪ outputsOf arguments w.disk)) input) :
    ((run advice arguments).run w').1 = ((run advice arguments).run w).1 ∧
      ((run advice arguments).run w).2.disk.Alike
        (staleAfter (w.disk.targets (outputsOf arguments w.disk) \ w.disk.targets (logsOf arguments w.disk)) ∅
          ((run advice arguments).run w).1)
        (w.disk.targets (logsOf arguments w.disk)) ((run advice arguments).run w').2.disk := by
  rw [Disk.targets_union] at alike clear
  cases parsed : CommandLine.read arguments with
  | error stop =>
      rw [run_of_stop parsed, run_of_stop parsed]
      refine ⟨rfl, ?_⟩
      simp only [logsOf, outputsOf, parsed, Disk.targets_empty, Set.union_self] at alike ⊢
      exact alike.mono (Set.empty_subset _) subset_rfl
  | ok invocation =>
      simp only [inputsOf, parsed] at clear
      have same : Settings.onDisk w'.disk invocation.config = Settings.onDisk w.disk invocation.config := by
        refine alike.onDisk_settings_eq fun path hp => ?_
        rw [Set.union_empty]
        exact clear path (Or.inl hp)
      rw [run_of_invocation parsed, run_of_invocation parsed, same]
      cases loaded : Settings.onDisk w.disk invocation.config with
      | error f =>
          refine ⟨rfl, ?_⟩
          simp only [logsOf, outputsOf, parsed, loaded, Disk.targets_empty, Set.empty_union,
            Set.sdiff_empty] at alike ⊢
          exact alike
      | ok settings =>
          simp only [logsOf, outputsOf, parsed, loaded] at alike clear ⊢
          exact alike_perform settings alike fun input hi => clear input (Or.inr hi)

/-- What the logs, the output and the report held before makes no difference to a run, unless it also reads
one of them. Two runs that differ in it, and in what the clock shows, end with the same exit code, output
and error text, and with logs that differ in nothing but times; if they succeed, no file differs in more. -/
theorem earlier_contents_make_no_difference (advice : Advice) (arguments : List String) (w w' : World)
    (alike : w.disk.Alike (w.disk.targets (logsOf arguments w.disk ∪ outputsOf arguments w.disk)) ∅ w'.disk)
    (apart : ∀ path ∈ logsOf arguments w.disk ∪ outputsOf arguments w.disk,
      ∀ input ∈ inputsOf arguments w.disk, w.disk.Apart path input) :
    ((run advice arguments).run w').1 = ((run advice arguments).run w).1 ∧
    (∀ place ∈ w.disk.targets (logsOf arguments w.disk), Node.Alike Logger.Retimed
      (((run advice arguments).run w).2.disk.node? place) (((run advice arguments).run w').2.disk.node? place)) ∧
    (((run advice arguments).run w).1.exitCode = 0 →
      ((run advice arguments).run w).2.disk.Alike ∅ (w.disk.targets (logsOf arguments w.disk))
        ((run advice arguments).run w').2.disk) := by
  obtain ⟨answer, alike'⟩ := alike_run alike fun input hi =>
    Disk.locate_ne_of_apart fun path hp => apart path hp input hi
  refine ⟨answer, fun place log => (alike'.node place).imp fun a b content => ?_, fun success => ?_⟩
  · obtain stale | same | ⟨-, timed⟩ := content
    · exact absurd log (staleAfter_mono subset_rfl (Set.empty_subset _) _ stale).2
    · exact same ▸ .same a
    · exact timed
  · rwa [staleAfter, if_pos success] at alike'

/-- A desk on which an earlier run has left an error log and an array. -/
def deskAfter (log array : String) (year : Nat) : World where
  disk := (usedDesk.disk.store ["desk", "error.log"] (.file (Text.encode log))).store ["desk", "a.h"]
    (.file (Text.encode array))
  clock _ := ⟨year, 1, 2, 3, 4, 5, 0, 0⟩
  looks := 0

theorem earlier_contents_make_no_difference_deskAfter :
    ((run .none ["embed", "a", "a.h"]).run (deskAfter "three" "" 2025)).1 = .success ∧
      ((run .none ["embed", "a", "a.h"]).run (deskAfter "one" "two" 2024)).2.disk.Alike ∅
        {["desk", "error.log"], ["desk", "debug.log"]}
        ((run .none ["embed", "a", "a.h"]).run (deskAfter "three" "" 2025)).2.disk := by
  have alike : (deskAfter "one" "two" 2024).disk.Alike ((deskAfter "one" "two" 2024).disk.targets
      (logsOf ["embed", "a", "a.h"] (deskAfter "one" "two" 2024).disk ∪
        outputsOf ["embed", "a", "a.h"] (deskAfter "one" "two" 2024).disk)) ∅
      (deskAfter "three" "" 2025).disk := by
    refine Disk.Alike.store (.store (.refl _ _ usedDesk.disk) (by decide) Set.sdiff_subset (.inl ?_))
      (by decide) Set.sdiff_subset (.inl ?_)
    · exact ⟨_, Or.inl (Or.inl rfl), rfl⟩
    · exact ⟨_, Or.inr rfl, rfl⟩
  have apart : ∀ path ∈ logsOf ["embed", "a", "a.h"] (deskAfter "one" "two" 2024).disk ∪
        outputsOf ["embed", "a", "a.h"] (deskAfter "one" "two" 2024).disk,
      ∀ input ∈ inputsOf ["embed", "a", "a.h"] (deskAfter "one" "two" 2024).disk,
        (deskAfter "one" "two" 2024).disk.Apart path input := by
    rintro path ((rfl | rfl) | rfl) input (none | rfl) place h
    · cases none
    · cases h
      decide
    · cases none
    · cases h
      decide
    · cases none
    · cases h
      decide
  have success : ((run .none ["embed", "a", "a.h"]).run (deskAfter "one" "two" 2024)).1 = .success := by
    decide +kernel
  obtain ⟨answer, -, same⟩ := earlier_contents_make_no_difference .none _ _ _ alike apart
  refine ⟨answer.trans success, (same (by rw [success]; rfl)).mono subset_rfl ?_⟩
  rintro place ⟨path, rfl | rfl, ht⟩ <;> cases ht
  · exact Or.inl rfl
  · exact Or.inr rfl

end MembershipGrid.Program
