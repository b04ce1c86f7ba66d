import MembershipGrid.Proofs.Lemmas.Logs
import MembershipGrid.Proofs.Lemmas.SettingFiles

/-!
# Disks that are alike

Two disks with the same files and directories, on which the contents of certain files differ. Paths lead to
the same places on both, and writing the same to both makes them more alike. The contents of logs count as
alike if they differ in nothing but times.
-/

namespace MembershipGrid

/-- Two contents that differ in nothing but the times of banners and entries. -/
inductive Logger.Retimed : Bytes → Bytes → Prop
  | same (content : Bytes) : Retimed content content
  | banner (title : String) (m n : Moment) :
      Retimed (Text.encode ("=== " ++ title ++ " Log Started: " ++ m.stamp ++ " ===" ++ "\n"))
        (Text.encode ("=== " ++ title ++ " Log Started: " ++ n.stamp ++ " ===" ++ "\n"))
  | entry (level message : String) (m n : Moment) :
      Retimed (Text.encode ("[" ++ m.timeOfDay ++ "][" ++ level ++ "] " ++ message ++ "\n"))
        (Text.encode ("[" ++ n.timeOfDay ++ "][" ++ level ++ "] " ++ message ++ "\n"))
  | append {a b a' b' : Bytes} : Retimed a b → Retimed a' b' → Retimed (a ++ a') (b ++ b')

/-- The same kind of thing on both sides, or nothing on either. -/
inductive Node.Alike (alike : Bytes → Bytes → Prop) : Option Node → Option Node → Prop
  | nothing : Alike alike none none
  | directory : Alike alike (some .directory) (some .directory)
  | file {a b : Bytes} : alike a b → Alike alike (some (.file a)) (some (.file b))

theorem Node.Alike.imp {alike more : Bytes → Bytes → Prop} {x y : Option Node} (h : Alike alike x y)
    (sub : ∀ a b, alike a b → more a b) : Alike more x y := by
  cases h with
  | nothing => exact .nothing
  | directory => exact .directory
  | file same => exact .file (sub _ _ same)

namespace Disk

/-- Two disks with the same files and directories. Files at stale places may have any contents, files at
stamped places contents with different times; all others have the same content on both disks. -/
structure Alike (stale stamped : Set Location) (d e : Disk) : Prop where
  workingDirectory : e.workingDirectory = d.workingDirectory
  node : ∀ place, Node.Alike (fun a b => place ∈ stale ∨ a = b ∨ place ∈ stamped ∧ Logger.Retimed a b)
    (d.node? place) (e.node? place)

/-- A path that does not lead to any of some places. -/
def Avoids (d : Disk) (places : Set Location) (path : String) : Prop :=
  ∀ place ∈ places, d.locate path ≠ .ok place

variable {d e : Disk} {stale stamped more many : Set Location} {place : Location} {path : String}
  {a b : Bytes}

theorem ChangedAt.avoids {places : Set Location} (h : ChangedAt places d e) (clear : d.Avoids more path) :
    e.Avoids more path :=
  fun place hp hl => clear place hp (h.locate_eq_ok_iff.mp hl)

/-! ## Paths lead to the same places -/

namespace Alike

theorem refl (stale stamped : Set Location) (d : Disk) : Alike stale stamped d d := by
  refine ⟨rfl, fun place => ?_⟩
  cases d.node? place with
  | none => exact .nothing
  | some node =>
      cases node with
      | directory => exact .directory
      | file content => exact .file (.inr (.inl rfl))

theorem mono (h : Alike stale stamped d e) (hs : stale ⊆ more) (ht : stamped ⊆ many) :
    Alike more many d e := by
  refine ⟨h.workingDirectory, fun place => (h.node place).imp fun a b alike => ?_⟩
  exact alike.imp (fun hp => hs hp) (Or.imp_right (And.imp_left fun hp => ht hp))

theorem workingPath_eq (h : Alike stale stamped d e) : e.workingPath = d.workingPath := by
  rw [workingPath, workingPath, h.workingDirectory]

theorem node_eq_directory_iff (h : Alike stale stamped d e) :
    e.node? place = some .directory ↔ d.node? place = some .directory := by
  have node := h.node place
  generalize d.node? place = x, e.node? place = y at node
  cases node <;> simp

theorem requireDirectory_eq (h : Alike stale stamped d e) (place : Location) :
    e.requireDirectory place = d.requireDirectory place := by
  have node := h.node place
  rw [requireDirectory, requireDirectory]
  generalize d.node? place = x, e.node? place = y at node
  cases node <;> rfl

theorem step_eq (h : Alike stale stamped d e) (here : Location) (name : String) :
    e.step here name = d.step here name := by
  rw [step, step, h.requireDirectory_eq]

theorem walk_eq (h : Alike stale stamped d e) (here : Location) (names : List String) :
    e.walk here names = d.walk here names := by
  induction names generalizing here with
  | nil => rfl
  | cons name names ih => simp only [walk, h.step_eq, ih]

theorem start_eq (h : Alike stale stamped d e) (path : String) : e.start path = d.start path := by
  rw [start, start, h.workingDirectory]

theorem locate_eq (h : Alike stale stamped d e) (path : String) : e.locate path = d.locate path := by
  rw [locate, locate, h.start_eq, h.walk_eq]

theorem target_eq (h : Alike stale stamped d e) (path : String) : e.target path = d.target path := by
  simp only [target, h.start_eq, h.walk_eq, h.requireDirectory_eq, h.step_eq, h.node_eq_directory_iff]

/-! ## What is read by a path -/

theorem has_eq (h : Alike stale stamped d e) (path : String) : e.has path = d.has path := by
  rw [has, has, find, find, h.locate_eq]
  cases d.locate path with
  | error _ => rfl
  | ok place =>
      have node := h.node place
      simp only [bind, Except.bind]
      generalize d.node? place = x, e.node? place = y at node
      cases node with
      | nothing | directory => rfl
      | file alike => cases Path.endsInSlash path <;> rfl

theorem read_eq (h : Alike stale stamped d e) (clear : d.Avoids (stale ∪ stamped) path) :
    e.read path = d.read path := by
  rw [read, read, find, find, h.locate_eq]
  cases hl : d.locate path with
  | error _ => rfl
  | ok place =>
      have node := h.node place
      simp only [bind, Except.bind]
      generalize d.node? place = x, e.node? place = y at node
      cases node with
      | nothing | directory => rfl
      | file alike =>
          obtain hp | rfl | ⟨hp, -⟩ := alike
          · exact absurd hl (clear place (Or.inl hp))
          · rfl
          · exact absurd hl (clear place (Or.inr hp))

theorem text_eq (h : Alike stale stamped d e) (clear : d.Avoids (stale ∪ stamped) path) :
    e.text path = d.text path := by
  rw [text, text, h.read_eq clear]

theorem onDisk_grid_eq (h : Alike stale stamped d e) (clear : d.Avoids (stale ∪ stamped) path) :
    Grid.onDisk e path = Grid.onDisk d path := by
  rw [Grid.onDisk, Grid.onDisk, h.text_eq clear]

theorem onDisk_comparison_eq {left right : String} (h : Alike stale stamped d e)
    (clear_left : d.Avoids (stale ∪ stamped) left) (clear_right : d.Avoids (stale ∪ stamped) right) :
    Comparison.onDisk e left right = Comparison.onDisk d left right := by
  rw [Comparison.onDisk, Comparison.onDisk, h.onDisk_grid_eq clear_left, h.onDisk_grid_eq clear_right]

theorem fileOn_eq (h : Alike stale stamped d e) (config : Option String) :
    Settings.fileOn e config = Settings.fileOn d config := by
  cases config with
  | some path => rfl
  | none => rw [Settings.fileOn, Settings.fileOn, h.has_eq]

theorem onDisk_settings_eq {config : Option String} (h : Alike stale stamped d e)
    (clear : ∀ path ∈ Settings.fileOn d config, d.Avoids (stale ∪ stamped) path) :
    Settings.onDisk e config = Settings.onDisk d config := by
  rw [Settings.onDisk, Settings.onDisk, h.fileOn_eq]
  cases named : Settings.fileOn d config with
  | none => rfl
  | some path =>
      simp only [Settings.inFile]
      rw [h.text_eq (clear path named)]

/-! ## Writing the same -/

theorem store (h : Alike stale stamped d e) (root : place ≠ []) (rest : stale \ {place} ⊆ more)
    (alike : place ∈ more ∨ a = b ∨ place ∈ stamped ∧ Logger.Retimed a b) :
    Alike more stamped (d.store place (.file a)) (e.store place (.file b)) := by
  refine ⟨h.workingDirectory, fun other => ?_⟩
  rw [node?_store root, node?_store root]
  by_cases same : other = place
  · subst same
    rw [if_pos rfl, if_pos rfl]
    exact .file alike
  · rw [if_neg same, if_neg same]
    exact (h.node other).imp fun _ _ alike => alike.imp_left fun hp => rest ⟨hp, same⟩

end Alike

theorem targets_union (d : Disk) (paths others : Set String) :
    d.targets (paths ∪ others) = d.targets paths ∪ d.targets others := by
  ext place
  simp only [targets, Set.mem_union, Set.mem_ofPred_eq, or_and_right, exists_or]

theorem targets_empty (d : Disk) : d.targets ∅ = ∅ := by
  rw [Set.eq_empty_iff_forall_notMem]
  rintro place ⟨_, none, -⟩
  exact none

theorem targets_of_ok (h : d.target path = .ok place) : d.targets {path} = {place} := by
  ext other
  constructor
  · rintro ⟨_, rfl, ht⟩
    exact Except.ok.inj (ht.symm.trans h)
  · rintro rfl
    exact ⟨path, rfl, h⟩

theorem targets_of_error {error : StorageError} (h : d.target path = .error error) :
    d.targets {path} = ∅ := by
  rw [Set.eq_empty_iff_forall_notMem]
  rintro place ⟨_, rfl, ht⟩
  cases h.symm.trans ht

namespace Alike

/-- A file that is replaced on both disks is stale no longer. -/
theorem replaced (h : Alike stale stamped d e)
    (alike : a = b ∨ d.targets {path} ⊆ stamped ∧ Logger.Retimed a b) :
    Alike (stale \ d.targets {path}) stamped (d.attempted (d.replace path a))
      (e.attempted (e.replace path b)) := by
  rw [replace, replace, h.target_eq]
  cases ht : d.target path with
  | error error =>
      rw [targets_of_error ht, Set.sdiff_empty]
      exact h
  | ok place =>
      rw [targets_of_ok ht, Set.singleton_subset_iff] at alike
      rw [targets_of_ok ht]
      exact h.store (root_ne_of_target ht) subset_rfl (Or.inr alike)

theorem contentAt (h : Alike stale stamped d e) (place : Location) :
    place ∈ stale ∨ d.contentAt place = e.contentAt place ∨
      place ∈ stamped ∧ Logger.Retimed (d.contentAt place) (e.contentAt place) := by
  have node := h.node place
  rw [Disk.contentAt, Disk.contentAt]
  generalize d.node? place = x, e.node? place = y at node
  cases node with
  | nothing | directory => exact .inr (.inl rfl)
  | file alike => exact alike

/-- Adding to a log on both disks makes it no more stale than it was. -/
theorem appended (h : Alike stale stamped d e)
    (alike : d.targets {path} ⊆ stale ∨ a = b ∨ d.targets {path} ⊆ stamped ∧ Logger.Retimed a b) :
    Alike stale stamped (d.attempted (d.append path a)) (e.attempted (e.append path b)) := by
  rw [append, append, h.target_eq]
  cases ht : d.target path with
  | error error => exact h
  | ok place =>
      rw [targets_of_ok ht, Set.singleton_subset_iff, Set.singleton_subset_iff] at alike
      refine h.store (root_ne_of_target ht) Set.sdiff_subset ?_
      obtain hp | rfl | ⟨hp, added⟩ := alike
      · exact .inl hp
      · exact (h.contentAt place).imp_right (Or.imp (congrArg (· ++ a)) (And.imp_right (·.append (.same a))))
      · refine (h.contentAt place).imp_right fun content => .inr ⟨hp, ?_⟩
        obtain same | ⟨-, timed⟩ := content
        · exact same ▸ (Logger.Retimed.same _).append added
        · exact timed.append added

theorem startedAt {m n : Moment} (h : Alike stale stamped d e)
    (timed : d.targets {path} ⊆ stamped ∨ m = n) (title : String) :
    Alike (stale \ d.targets {path}) stamped (d.startedAt path (Logger.banner title m))
      (e.startedAt path (Logger.banner title n)) := by
  refine h.replaced ?_
  obtain log | rfl := timed
  · exact .inr ⟨log, .banner title m n⟩
  · exact .inl rfl

theorem addedTo {m n : Moment} (h : Alike stale stamped d e)
    (timed : d.targets {path} ⊆ stamped ∨ m = n) (level message : String) :
    Alike stale stamped (d.addedTo path (Logger.entry m level message))
      (e.addedTo path (Logger.entry n level message)) := by
  refine h.appended ?_
  obtain log | rfl := timed
  · exact .inr (.inr ⟨log, .entry level message m n⟩)
  · exact .inr (.inl rfl)

end Alike

end Disk

end MembershipGrid
