import MembershipGrid.Proofs.Lemmas.Journals
import MembershipGrid.Proofs.NormalForms

/-!
# Keys that are not known

A line with a key that is not known adds the key to those that are collected, wherever it stands, and
changes no other setting. A run notes the key in the log of everything, among the others and before its
command starts, and does nothing else with it.
-/

namespace MembershipGrid

namespace Settings

/-- A text of settings, and the same text with an assignment to a key that is not known on a line more, below
certain other lines. -/
structure Inserted (k v : String) (above : List (List Char)) (text text' : String) : Prop where
  key : IsUnknownKey k
  value : IsValue v
  lines : ∃ below, Text.lines text.toList = above ++ below ∧
    Text.lines text'.toList = above ++ written (k, v) :: below

/-! ## Lines of settings -/

variable {lines : List (List Char)} {line : List Char} {s t : Settings} {number : Nat}

theorem readLine_ok_congr {said : Option (String × String)} (h : readLine number line = .ok said)
    (other : Nat) : readLine other line = .ok said := by
  dsimp only [readLine] at h ⊢
  split_ifs at h ⊢ with empty
  · exact h
  · exact h

/-- Which keys an assignment adds to those that are not known does not depend on them. -/
theorem exists_unknownKeys_assign (s : Settings) (key value : String) :
    ∃ more, ∀ keys, { s with unknownKeys := keys }.assign key value =
      { s.assign key value with unknownKeys := keys ++ more } := by
  unfold assign
  split_ifs
  · exact ⟨[], fun keys => by simp⟩
  · exact ⟨[], fun keys => by simp⟩
  · exact ⟨[], fun keys => by simp⟩
  · exact ⟨[], fun keys => by simp⟩
  · exact ⟨[key], fun keys => rfl⟩

theorem exists_unknownKeys_assignLines (h : assignLines s number lines = .ok t) :
    ∃ more, ∀ keys other, assignLines { s with unknownKeys := keys } other lines =
      .ok { t with unknownKeys := keys ++ more } := by
  induction lines generalizing s number with
  | nil =>
      cases h
      exact ⟨[], fun keys _ => by rw [List.append_nil, assignLines]⟩
  | cons line rest ih =>
      cases said : readLine number line with
      | error defect =>
          rw [assignLines_of_error said] at h
          cases h
      | ok assigned =>
          rw [assignLines_of_ok said] at h
          obtain ⟨more, later⟩ := ih h
          cases assigned with
          | none =>
              refine ⟨more, fun keys other => ?_⟩
              rw [assignLines_of_ok (readLine_ok_congr said other)]
              exact later keys _
          | some a =>
              obtain ⟨first, assigns⟩ := exists_unknownKeys_assign s a.1 a.2
              refine ⟨first ++ more, fun keys other => ?_⟩
              rw [assignLines_of_ok (readLine_ok_congr said other), ← List.append_assoc]
              exact (congrArg (assignLines · (other + 1) rest) (assigns keys)).trans (later _ _)

/-- The key of a line that is put in comes after those of the lines above it and before those of the lines
below. -/
theorem Inserted.exists_ofText {k v text text' : String} {above : List (List Char)}
    (h : Inserted k v above text text') (accepted : ofText text = .ok s) :
    ∃ t more, assignLines {} 1 above = .ok t ∧ s.unknownKeys = t.unknownKeys ++ more ∧
      ofText text' = .ok { s with unknownKeys := t.unknownKeys ++ k :: more } := by
  obtain ⟨hk, hv, below, lines, lines'⟩ := h
  rw [ofText, lines, assignLines_append] at accepted
  obtain ⟨t, first, rest⟩ := Disk.bind_eq_ok_iff.mp accepted
  obtain ⟨more, continues⟩ := exists_unknownKeys_assignLines rest
  have keys := congrArg Settings.unknownKeys (Except.ok.inj (rest.symm.trans (continues t.unknownKeys _)))
  refine ⟨t, more, first, keys, ?_⟩
  rw [ofText, lines', assignLines_append]
  refine Disk.bind_eq_ok_iff.mpr ⟨t, first, ?_⟩
  rw [assignLines_of_ok (readLine_written hk.toIsKey hv _), Option.elim_some, assign_of_unknown hk.unknown,
    continues, List.append_assoc, List.singleton_append]

end Settings

/-! ## Runs -/

/-- A log of everything that is read by a path and consists of a banner and the entries for some notes. -/
def Disk.Tells (d : Disk) (path : String) (notes : List Logger.Note) : Prop :=
  ∃ (m : Moment) (lines : List String), Logger.Entered notes lines ∧
    d.read path = .ok (Logger.content (("=== Debug Log Started: " ++ m.stamp ++ " ===") :: lines))

theorem Disk.Journal.tells {d : Disk} {path : String} {notes : List Logger.Note} {place : Location}
    (h : d.Journal path notes) (ht : d.target path = .ok place) : d.Tells path notes := by
  obtain ⟨m, lines, entered, holds⟩ := h
  exact ⟨m, lines, entered, holds.read ht⟩

namespace Program

open CommandLine

variable {advice : Advice} {settings : Settings} {command : Command}

theorem carryOut_with_unknownKeys (l : Logger) (settings : Settings) (keys : List String) (command : Command) :
    carryOut l { settings with unknownKeys := keys } command = carryOut l settings command := by
  cases command <;> rfl

theorem run_of_file {arguments : List String} {invocation : Invocation} {w : World} {path text : String}
    (parsed : CommandLine.read arguments = .ok invocation)
    (file : Settings.fileOn w.disk invocation.config = some path) (read : w.disk.text path = .ok text)
    (accepted : Settings.ofText text = .ok settings) :
    (run advice arguments).run w = (perform settings invocation.command).run w := by
  have loaded : Settings.onDisk w.disk invocation.config = .ok settings := by
    rw [Settings.onDisk, file]
    exact Settings.inFile_eq_ok_iff.mpr ⟨text, Disk.text_eq_ok_iff.mp read, accepted⟩
  rw [run_of_invocation parsed, loaded]

/-- The error log may be an input if it starts with the same banner in both runs. Otherwise times may differ
in it from the beginning. -/
theorem exists_stamped {w w' : World} {places : Set Location} {paths : Set String} {errorLog : String}
    (clear : ∀ path ∈ paths, w.disk.Avoids places path)
    (times : (∀ path ∈ paths, w.disk.Apart errorLog path) ∨ w'.clock w'.looks = w.clock w.looks) :
    ∃ stamped, stamped ⊆ w.disk.targets {errorLog} ∧
      (w.disk.targets {errorLog} ⊆ stamped ∨ w.clock w.looks = w'.clock w'.looks) ∧
      ∀ path ∈ paths, w.disk.Avoids (places ∪ stamped) path := by
  obtain apart | same := times
  · refine ⟨_, subset_rfl, .inl subset_rfl, fun path hp place h => ?_⟩
    obtain h | h := h
    · exact clear path hp place h
    · refine Disk.locate_ne_of_apart (fun log hl => ?_) place h
      exact Set.mem_singleton_iff.mp hl ▸ apart path hp
  · refine ⟨∅, Set.empty_subset _, .inr same.symm, fun path hp => ?_⟩
    rw [Set.union_empty]
    exact clear path hp

/-- A line with a key that is not known can be put in anywhere in a settings file. The run comes to the same
exit code, output and error text, and to the same files but for the times in the error log. The log of
everything tells of the key, after those of the lines above it and before those of the lines below, and
tells nothing else that it did not tell without it. -/
theorem unknown_keys_are_only_noted (advice : Advice) (arguments : List String) (invocation : Invocation)
    (settings : Settings) (w w' : World) (path text text' k v errorLog debugLog : String) (above : List (List Char))
    (parsed : CommandLine.read arguments = .ok invocation)
    (file : Settings.fileOn w.disk invocation.config = some path)
    (read : w.disk.text path = .ok text) (accepted : Settings.ofText text = .ok settings)
    (read' : w'.disk.text path = .ok text') (inserted : Settings.Inserted k v above text text')
    (alike : w.disk.Alike (w.disk.targets {path}) ∅ w'.disk)
    (error : Path.under w.disk.workingPath settings.errorLog = errorLog)
    (debug : Path.under w.disk.workingPath settings.debugLog = debugLog)
    (opens : ∃ place, w.disk.target debugLog = .ok place)
    (apart : ∀ other ∈ {errorLog} ∪ inputs invocation.command ∪ outputs settings invocation.command,
      w.disk.Apart other debugLog)
    (unread : ∀ input ∈ inputs invocation.command, w.disk.Apart path input)
    (times : (∀ input ∈ inputs invocation.command, w.disk.Apart errorLog input) ∨
      w'.clock w'.looks = w.clock w.looks) :
    ((run advice arguments).run w').1 = ((run advice arguments).run w).1 ∧
    ((run advice arguments).run w).2.disk.Alike (w.disk.targets {path, debugLog}) (w.disk.targets {errorLog})
      ((run advice arguments).run w').2.disk ∧
    ∃ s more notes, Settings.assignLines {} 1 above = .ok s ∧ settings.unknownKeys = s.unknownKeys ++ more ∧
      ((run advice arguments).run w).2.disk.Tells debugLog (greeting (s.unknownKeys ++ more) ++ notes) ∧
      ((run advice arguments).run w').2.disk.Tells debugLog (greeting (s.unknownKeys ++ k :: more) ++ notes) := by
  obtain ⟨s, more, first, keys, accepted'⟩ := inserted.exists_ofText accepted
  obtain ⟨place, ht⟩ := opens
  have free : w.disk.targets {debugLog} ⊆ w.disk.targets {path, debugLog} :=
    w.disk.targets_mono (Set.singleton_subset_iff.mpr (Or.inr rfl))
  have avoids : ∀ input ∈ inputs invocation.command, w.disk.Avoids (w.disk.targets {path, debugLog}) input := by
    intro input hi
    refine Disk.locate_ne_of_apart ?_
    rintro other (rfl | rfl)
    · exact unread input hi
    · exact (apart input (.inl (.inr hi))).symm
  obtain ⟨stamped, few, timed, clear⟩ := exists_stamped avoids times
  have wide : w.disk.Alike (w.disk.targets {path, debugLog}) stamped w'.disk :=
    alike.mono (w.disk.targets_mono (Set.singleton_subset_iff.mpr (Or.inl rfl))) (Set.empty_subset _)
  obtain ⟨b, b', ran, ran', opened⟩ := Disk.Beside.opening
    { settings with unknownKeys := s.unknownKeys ++ k :: more } wide error debug ⟨rfl, rfl⟩ ht
    (free (Disk.targets_of_ok ht ▸ rfl)) timed
  obtain ⟨same, carried⟩ := opened.carryOut free clear (fun output ho => apart output (.inr ho)) errorLog
  generalize ends : (carryOut (.writing errorLog debugLog) settings invocation.command).run.run b = result,
    ends' : (carryOut (.writing errorLog debugLog) settings invocation.command).run.run b' = result'
    at same carried
  obtain ⟨ended, v⟩ := result
  obtain ⟨ended', v'⟩ := result'
  obtain rfl : ended' = ended := same
  rw [← carryOut_with_unknownKeys _ _ (s.unknownKeys ++ k :: more)] at ends'
  rw [run_of_file parsed file read accepted, run_perform ran ends,
    run_of_file parsed ((alike.fileOn_eq _).trans file) read' accepted', run_perform ran' ends']
  obtain ⟨outcome, kept, similar, notes, journal, journal'⟩ :=
    carried.conclude free (apart errorLog (.inl (.inl rfl))) ended'
  have there := kept.target_eq_ok_iff.mpr ht
  refine ⟨outcome, similar.mono subset_rfl (Set.union_subset few subset_rfl), s, more, notes, first, keys, ?_, ?_⟩
  · exact (keys ▸ journal).tells there
  · exact journal'.tells ((similar.target_eq debugLog).trans there)

theorem unknown_keys_are_only_noted_settledDesk :
    ((run .none ["render", "a", "a.png"]).run (settledDesk "x = 1\n = =\nsymbol = s")).1 =
        ((run .none ["render", "a", "a.png"]).run (settledDesk "x = 1\nsymbol = s")).1 ∧
      (∃ notes,
        ((run .none ["render", "a", "a.png"]).run (settledDesk "x = 1\nsymbol = s")).2.disk.Tells
          "/desk/debug.log" (greeting ["x"] ++ notes) ∧
        ((run .none ["render", "a", "a.png"]).run (settledDesk "x = 1\n = =\nsymbol = s")).2.disk.Tells
          "/desk/debug.log" (greeting ["x", ""] ++ notes)) ∧
      ((run .none ["render", "a", "a.png"]).run (settledDesk "x = 1\nsymbol = s")).2.disk.read "debug.log" =
        .ok (Text.encode ("=== Debug Log Started: 2024-01-01 00:00:00 +00:00 ===\n" ++
          "[00:00:00.000][INFO] griddiff v0.1.0 starting\n" ++
          "[00:00:00.000][DEBUG] ignoring unknown config key `x`\n" ++
          "[00:00:00.000][INFO] render: input=a output=a.png\n[00:00:00.000][INFO] wrote 2x2 image\n")) ∧
      ((run .none ["render", "a", "a.png"]).run (settledDesk "x = 1\n = =\nsymbol = s")).2.disk.read "debug.log" =
        .ok (Text.encode ("=== Debug Log Started: 2024-01-01 00:00:00 +00:00 ===\n" ++
          "[00:00:00.000][INFO] griddiff v0.1.0 starting\n" ++
          "[00:00:00.000][DEBUG] ignoring unknown config key `x`\n" ++
          "[00:00:00.000][DEBUG] ignoring unknown config key ``\n" ++
          "[00:00:00.000][INFO] render: input=a output=a.png\n[00:00:00.000][INFO] wrote 2x2 image\n")) := by
  have inserted : Settings.Inserted "" "=" ["x = 1".toList] "x = 1\nsymbol = s" "x = 1\n = =\nsymbol = s" :=
    ⟨⟨by decide, by decide⟩, by decide, ["symbol = s".toList], by decide, by decide⟩
  have alike : (settledDesk "x = 1\nsymbol = s").disk.Alike
      ((settledDesk "x = 1\nsymbol = s").disk.targets {"griddiff.config"}) ∅
      (settledDesk "x = 1\n = =\nsymbol = s").disk :=
    (Disk.Alike.refl _ _ usedDesk.disk).store (by decide) Set.sdiff_subset (.inl ⟨_, rfl, rfl⟩)
  have apart : ∀ other ∈ {"/desk/error.log"} ∪ inputs (.render "a" "a.png") ∪ outputs {} (.render "a" "a.png"),
      (settledDesk "x = 1\nsymbol = s").disk.Apart other "/desk/debug.log" := by
    rintro other ((rfl | rfl) | rfl) place h <;> cases h <;> decide
  have unread : ∀ input ∈ inputs (.render "a" "a.png"),
      (settledDesk "x = 1\nsymbol = s").disk.Apart "griddiff.config" input := by
    rintro input rfl place h
    cases h
    decide
  obtain ⟨outcome, -, s, more, notes, above, keys, journal, journal'⟩ :=
    unknown_keys_are_only_noted .none ["render", "a", "a.png"] ⟨none, .render "a" "a.png"⟩
      { symbol := "s", unknownKeys := ["x"] } _ _ _ _ _ _ _ _ _ _ rfl rfl rfl rfl rfl inserted alike rfl rfl
      ⟨_, rfl⟩ apart unread (.inr rfl)
  cases above
  obtain rfl : more = [] := (List.cons.inj keys).2.symm
  exact ⟨outcome, ⟨notes, journal, journal'⟩, by decide +kernel, by decide +kernel⟩

end Program

end MembershipGrid
