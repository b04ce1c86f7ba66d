import MembershipGrid.Proofs.FirstDefects
import MembershipGrid.Proofs.Lemmas.Abreast

/-!
# Logs that are read

From when it is started, and whatever is added to it, a log begins with an equals sign. So it is refused as a
grid for its first character, and a comparison that reads one of its own logs fails in the same way at any
time.
-/

namespace MembershipGrid

/-- At a place stands a file whose text begins with an equals sign. -/
def Disk.HeadedAt (d : Disk) (place : Location) : Prop :=
  ∃ rest, d.node? place = some (.file (Text.encode ("=" ++ rest)))

theorem Text.encode_append (a b : String) : encode (a ++ b) = encode a ++ encode b := by
  simp [encode, String.toUTF8_eq_toByteArray]

variable {d e : Disk} {place : Location} {path : String} {logs : Set String} {stamped : Set Location}

/-! ## What stands at the head of a log -/

namespace Disk.HeadedAt

theorem banner (title : String) (m : Moment) :
    ∃ rest, Logger.banner title m ++ "\n" = "=" ++ rest := by
  have head : "=== " = "=" ++ "== " := by decide
  refine ⟨"== " ++ title ++ " Log Started: " ++ m.stamp ++ " ===" ++ "\n", ?_⟩
  simp only [Logger.banner, head, String.append_assoc]

theorem store {other : Location} {content : Bytes} (h : d.HeadedAt place) (root : other ≠ [])
    (headed : other = place → ∃ rest, content = Text.encode ("=" ++ rest)) :
    (d.store other (.file content)).HeadedAt place := by
  by_cases same : place = other
  · obtain ⟨rest, rfl⟩ := headed same.symm
    exact ⟨rest, by rw [node?_store root, if_pos same]⟩
  · obtain ⟨rest, hn⟩ := h
    exact ⟨rest, by rw [node?_store root, if_neg same, hn]⟩

theorem addedTo (h : d.HeadedAt place) (path line : String) : (d.addedTo path line).HeadedAt place := by
  rw [Disk.addedTo, append]
  cases ht : d.target path with
  | error e => exact h
  | ok other =>
      refine h.store (root_ne_of_target ht) ?_
      rintro rfl
      obtain ⟨rest, hn⟩ := h
      refine ⟨rest ++ (line ++ "\n"), ?_⟩
      rw [contentAt, hn, ← String.append_assoc, Text.encode_append _ (line ++ "\n")]

theorem startedAt (h : d.HeadedAt place) (path title : String) (m : Moment) :
    (d.startedAt path (Logger.banner title m)).HeadedAt place := by
  rw [Disk.startedAt, replace]
  cases ht : d.target path with
  | error e => exact h
  | ok other =>
      obtain ⟨rest, headed⟩ := banner title m
      exact h.store (root_ne_of_target ht) fun _ => ⟨rest, by rw [headed]⟩

theorem of_startedAt (ht : d.target path = .ok place) (title : String) (m : Moment) :
    (d.startedAt path (Logger.banner title m)).HeadedAt place := by
  obtain ⟨rest, headed⟩ := banner title m
  refine ⟨rest, ?_⟩
  rw [d.holds_startedAt path _ place ((d.changedAt_startedAt path _).target_eq_ok_iff.mpr ht), Logger.content,
    List.flatMap_singleton, headed]

theorem after_log {w : World} (h : w.disk.HeadedAt place) (l : Logger) (level message : String) :
    ((l.log level message).run w).2.disk.HeadedAt place := by
  cases l with
  | silent => exact h
  | writing errorLog debugLog =>
      rw [Logger.run_log]
      dsimp only
      split
      · exact (h.addedTo debugLog _).addedTo errorLog _
      · exact h.addedTo debugLog _

theorem after_start {w : World} {errorLog debugLog : String}
    (h : place ∈ w.disk.targets ((Logger.start errorLog debugLog).run w).1.files) :
    ((Logger.start errorLog debugLog).run w).2.disk.HeadedAt place := by
  rw [Logger.run_start] at h ⊢
  obtain ⟨path, rfl | rfl, ht⟩ := h
  · exact (of_startedAt ht "Error" _).startedAt _ "Debug" _
  · exact of_startedAt ((w.disk.changedAt_startedAt _ _).target_eq_ok_iff.mpr ht) "Debug" _

end Disk.HeadedAt

/-! ## Logs as grids -/

theorem Grid.ofText_of_equals (rest : String) : ofText ("=" ++ rest) = .error (.unknownSymbol '=' 1 1) := by
  obtain ⟨line, below, hl⟩ := Text.exists_lines_cons (show '=' ≠ '\n' by decide) (by decide) rest.toList
  have cut : Text.lines ("=" ++ rest).toList = [] ++ ('=' :: line) :: below := by
    rw [String.toList_append]
    exact hl
  have defect : Defect ('=' :: line) 1 ([] ++ '=' :: line) (.unknownSymbol '=' 1 1) :=
    .unknown rfl (List.forall_mem_nil _) (by decide) (by decide)
  exact ofText_of_defect cut rfl (List.forall_mem_nil _) defect

theorem Disk.HeadedAt.onDisk_grid (h : d.HeadedAt place) (hl : d.locate path = .ok place) :
    Grid.onDisk d path =
      .error (if Path.endsInSlash path then .storage path .notDirectory else .unknownSymbol '=' 1 1) := by
  obtain ⟨rest, hn⟩ := h
  by_cases slash : Path.endsInSlash path
  · rw [if_pos slash, Grid.onDisk, text, read, find, hl]
    simp only [bind, Except.bind, hn, slash]
    rfl
  · have read : d.text path = .ok ("=" ++ rest) :=
      text_eq_ok_iff.mpr ⟨_, read_eq_ok_iff.mpr ⟨place, hl, hn, by simpa using slash⟩, Text.decode?_encode _⟩
    rw [if_neg slash, Grid.onDisk, read]
    exact Grid.ofText_of_equals rest

theorem Disk.Alike.targets_eq {stale : Set Location} (alike : d.Alike stale stamped e) (paths : Set String) :
    e.targets paths = d.targets paths := by
  simp only [targets, alike.target_eq]

theorem Disk.Alike.onDisk_grid_eq_of_headed (alike : d.Alike ∅ stamped e)
    (headed : ∀ place ∈ stamped, d.HeadedAt place ∧ e.HeadedAt place) (path : String) :
    Grid.onDisk e path = Grid.onDisk d path := by
  by_cases log : ∃ place ∈ stamped, d.locate path = .ok place
  · obtain ⟨place, hp, hl⟩ := log
    rw [(headed place hp).1.onDisk_grid hl, (headed place hp).2.onDisk_grid ((alike.locate_eq path).trans hl)]
  · refine alike.onDisk_grid_eq ?_
    rw [Set.empty_union]
    exact fun place hp hl => log ⟨place, hp, hl⟩

/-! ## Runs -/

namespace Script

variable {α β : Type} {I J K : World → World → Prop}

/-- Run from two worlds that stand in one relation, a script answers the same, and another relation holds. -/
def Carries (I J : World → World → Prop) (s : Script α) : Prop :=
  ∀ w w' : World, I w w' → (s.run w').1 = (s.run w).1 ∧ J (s.run w).2 (s.run w').2

theorem Carries.bind_answers {s : Script α} {f : α → Script β} (hs : s.Carries I J)
    (hf : ∀ w w', I w w' → (f (s.run w).1).Carries J K) : (s >>= f).Carries I K := by
  intro w w' h
  obtain ⟨answer, carried⟩ := hs w w' h
  rw [run_bind, run_bind, answer]
  exact hf w w' h _ _ carried

end Script

/-- Two worlds that differ in nothing but times in the logs, which have been started in both. -/
structure World.Started (d : Disk) (logs : Set String) (w w' : World) : Prop where
  abreast : w.Abreast d logs ∅ (d.targets logs) w'
  headed : ∀ place ∈ d.targets logs, w.disk.HeadedAt place ∧ w'.disk.HeadedAt place

namespace World.Started

variable {w w' : World} {l : Logger} {left right output : String} {report : Option String}

theorem keeps_log (hl : l.files ⊆ logs) (level message : String) :
    (l.log level message).Keeps (Started d logs) := by
  intro w w' h
  obtain ⟨answer, abreast⟩ := World.Abreast.keeps_log hl level message w w' h.abreast
  exact ⟨answer, abreast, fun place hp =>
    (h.headed place hp).imp (·.after_log l level message) (·.after_log l level message)⟩

theorem onDisk_comparison_eq (h : w.Started d logs w') (left right : String) :
    Comparison.onDisk w'.disk left right = Comparison.onDisk w.disk left right := by
  have grid := h.abreast.alike.onDisk_grid_eq_of_headed h.headed
  rw [Comparison.onDisk, Comparison.onDisk, grid, grid]

/-- What can be compared is no log. -/
theorem avoids_of_onDisk {c : Comparison} (h : w.Started d logs w')
    (hc : Comparison.onDisk w.disk left right = .ok c) :
    ∀ path ∈ ({left, right} : Set String), d.Avoids (∅ ∪ d.targets logs) path := by
  obtain ⟨g, g', hg, hg', -⟩ := Comparison.onDisk_eq_ok_iff.mp hc
  rintro path hp place (none | log) hl
  · exact none
  · have refused := (h.headed place log).1.onDisk_grid (h.abreast.same.locate_ok hl)
    obtain rfl | rfl := hp
    · cases hg.symm.trans refused
    · cases hg'.symm.trans refused

theorem carries_start (settings : Settings) :
    (Logger.start settings.errorLog settings.debugLog).Carries
      (World.Abreast d (Program.logs d settings) ∅ (d.targets (Program.logs d settings)))
      (Started d (Program.logs d settings)) := by
  intro w w' h
  obtain ⟨answer, abreast⟩ := World.Abreast.keeps_start subset_rfl w w' h
  refine ⟨answer, abreast, fun place hp => ⟨.after_start ?_, .after_start ?_⟩⟩
  · rwa [Program.files_start settings h.same, h.same.targets]
  · rwa [answer, Program.files_start settings h.same, h.alike.targets_eq, h.same.targets]

/-- A comparison that reads a log fails in both worlds alike, and any other one reads the same. -/
theorem carries_carryOut (hl : l.files ⊆ logs) (settings : Settings) :
    (Program.carryOut l settings (.compare left right output report)).run.Carries (Started d logs)
      (World.Abreast d logs ∅ (d.targets logs)) := by
  intro w w' h
  have reading : (Job.atReading l left right output w).Started d logs (Job.atReading l left right output w') :=
    (keeps_log hl _ _ w w' h).2
  have same := reading.onDisk_comparison_eq left right
  cases hc : Comparison.onDisk (Job.atReading l left right output w).disk left right with
  | error e =>
      have failed {v : World}
          (hv : Comparison.onDisk (Job.atReading l left right output v).disk left right = .error e) :
          (Program.carryOut l settings (.compare left right output report)).run.run v = _ :=
        Script.run_bind_of_error (Job.run_compare_of_error hv)
      rw [failed hc, failed (same.trans hc)]
      exact ⟨rfl, reading.abreast⟩
  | ok c =>
      have admits := World.Abreast.admits hl (reading.avoids_of_onDisk hc)
      exact Program.keeps_carryOut (admits _) w w' h.abreast

end World.Started

namespace Program

open CommandLine

/-- Times make no difference to a comparison but in its logs, even if it reads one of them. -/
theorem keeps_perform_compare (settings : Settings) (left right output : String) (report : Option String) :
    (perform settings (.compare left right output report)).Keeps
      (World.Abreast d (Program.logs d settings) ∅ (d.targets (Program.logs d settings))) := by
  rw [perform_eq_start]
  refine (World.Started.carries_start settings).bind_answers fun w _ h => ?_
  have started := files_start settings h.same
  generalize ((Logger.start settings.errorLog settings.debugLog).run w).1 = l at started
  have entries (level message : String) := World.Started.keeps_log (d := d) started.subset level message
  refine Script.Carries.bind_answers (keeps_greet (fun level _ => entries level) settings) fun _ _ _ => ?_
  refine (World.Started.carries_carryOut started.subset settings).bind_answers fun v _ _ => ?_
  cases ((carryOut l settings (.compare left right output report)).run.run v).1 with
  | error f => exact (World.Abreast.keeps_log started.subset _ _).bind fun _ => Script.keeps_pure _
  | ok => exact Script.keeps_pure _

end Program

end MembershipGrid
