import MembershipGrid.Disk.Access
import Mathlib.Data.Set.Insert

/-!
# Files that stay as they were

Writing a file neither makes nor removes a directory, so every path leads where it led before, and
only the file that is written changes.
-/

namespace MembershipGrid.Disk

/-- The disk `e` differs from `d` at most in the files at some places. -/
structure ChangedAt (places : Set Location) (d e : Disk) : Prop where
  workingDirectory : e.workingDirectory = d.workingDirectory
  directory : ∀ place, e.node? place = some .directory ↔ d.node? place = some .directory
  elsewhere : ∀ place ∉ places, e.node? place = d.node? place

/-- The places at which a file can be written by one of some paths. -/
def targets (d : Disk) (paths : Set String) : Set Location :=
  {place | ∃ path ∈ paths, d.target path = .ok place}

/-- Two paths that do not lead to the same place. -/
def Apart (d : Disk) (p q : String) : Prop := ∀ place, d.locate p = .ok place → d.locate q ≠ .ok place

/-- The disk after an attempt to write, which may have failed. -/
def attempted (d : Disk) : Except StorageError Disk → Disk
  | .error _ => d
  | .ok e => e

variable {d e f : Disk} {path : String} {here place : Location} {places more : Set Location}
  {content : Bytes}

/-! ## What the walk along a path finds -/

theorem bind_eq_ok_iff {ε α β : Type} {x : Except ε α} {next : α → Except ε β} {b : β} :
    x >>= next = .ok b ↔ ∃ a, x = .ok a ∧ next a = .ok b := by
  cases x with
  | error e =>
      constructor
      · intro h
        cases h
      · rintro ⟨_, h, -⟩
        cases h
  | ok a =>
      constructor
      · exact fun h => ⟨a, rfl, h⟩
      · rintro ⟨_, h, hn⟩
        cases h
        exact hn

theorem mapError_eq_ok_iff {ε δ α : Type} {x : Except ε α} {f : ε → δ} {a : α} :
    x.mapError f = .ok a ↔ x = .ok a := by
  cases x with
  | error e => constructor <;> intro h <;> cases h
  | ok b => exact ⟨congrArg _ ∘ Except.ok.inj, congrArg _ ∘ Except.ok.inj⟩

theorem requireDirectory_eq_ok_iff {u : Unit} :
    d.requireDirectory place = .ok u ↔ d.node? place = some .directory := by
  rw [requireDirectory]
  split <;> simp [*]

theorem step_ok_directory {name : String} (h : d.step here name = .ok place) :
    d.node? here = some .directory := by
  obtain ⟨_, hd, -⟩ := bind_eq_ok_iff.mp h
  exact requireDirectory_eq_ok_iff.mp hd

theorem walk_append (here : Location) (front : List String) (name : String) :
    d.walk here (front ++ [name]) = d.walk here front >>= fun place => d.step place name := by
  induction front generalizing here with
  | nil => exact bind_pure (d.step here name)
  | cons first front ih =>
      simp only [List.cons_append, walk, ih, bind_assoc]

theorem find_eq_ok_iff {node : Node} :
    d.find path = .ok node ↔
      ∃ place, d.locate path = .ok place ∧ d.node? place = some node ∧
        (node = .directory ∨ Path.endsInSlash path = false) := by
  simp only [find, bind_eq_ok_iff]
  refine exists_congr fun place => and_congr_right fun _ => ?_
  constructor
  · intro h
    split at h
    · cases h
    · rename_i hn
      cases h
      exact ⟨hn, Or.inl rfl⟩
    · rename_i content hn
      split at h
      · cases h
      · rename_i slash
        cases h
        exact ⟨hn, Or.inr (by simpa using slash)⟩
  · rintro ⟨hn, he⟩
    rw [hn]
    cases node with
    | directory => rfl
    | file content =>
        rw [he.resolve_left nofun]
        rfl

theorem read_eq_ok_iff_find : d.read path = .ok content ↔ d.find path = .ok (.file content) := by
  rw [read, bind_eq_ok_iff]
  constructor
  · rintro ⟨node, hf, hr⟩
    cases node with
    | directory => cases hr
    | file stored =>
        cases hr
        exact hf
  · exact fun hf => ⟨_, hf, rfl⟩

theorem read_eq_ok_iff :
    d.read path = .ok content ↔
      ∃ place, d.locate path = .ok place ∧ d.node? place = some (.file content) ∧
        Path.endsInSlash path = false := by
  rw [read_eq_ok_iff_find, find_eq_ok_iff]
  simp only [reduceCtorEq, false_or]

/-- A file can be written where a path leads to a name, without a slash after it, that is not the name
of a directory. -/
theorem target_eq_ok_iff :
    d.target path = .ok place ↔
      d.locate path = .ok place ∧ Path.names path ≠ [] ∧ Path.endsInSlash path = false ∧
        d.node? place ≠ some .directory := by
  rw [target, locate, bind_eq_ok_iff, bind_eq_ok_iff, exists_and_right, exists_and_right, and_assoc]
  refine and_congr_right fun _ => ?_
  cases hn : (Path.names path).getLast? with
  | none =>
      rw [List.getLast?_eq_none_iff.mp hn]
      constructor
      · intro h
        cases h
      · rintro ⟨-, h, -⟩
        exact absurd rfl h
  | some last =>
      obtain ⟨front, hf⟩ := List.getLast?_eq_some_iff.mp hn
      rw [hf, List.dropLast_concat, walk_append, bind_eq_ok_iff, bind_eq_ok_iff, ← exists_and_right]
      refine exists_congr fun parent => ?_
      rw [and_assoc]
      refine and_congr_right fun _ => ?_
      constructor
      · intro h
        obtain ⟨_, -, h⟩ := bind_eq_ok_iff.mp h
        split at h
        · cases h
        · rename_i slash
          obtain ⟨_, hs, h⟩ := bind_eq_ok_iff.mp h
          split at h
          · cases h
          · rename_i hd
            cases h
            exact ⟨hs, by simp, by simpa using slash, hd⟩
      · rintro ⟨hs, -, slash, hd⟩
        have hdir := requireDirectory_eq_ok_iff (u := ()).mpr (step_ok_directory hs)
        rw [hdir, slash, hs]
        exact if_neg hd

theorem locate_ne_of_apart {paths : Set String} (h : ∀ p ∈ paths, d.Apart p path) :
    ∀ place ∈ d.targets paths, d.locate path ≠ .ok place := by
  rintro place ⟨p, hp, ht⟩
  exact h p hp place (target_eq_ok_iff.mp ht).1

/-! ## Disks with the same directories -/

theorem ChangedAt.refl (places : Set Location) (d : Disk) : ChangedAt places d d :=
  ⟨rfl, fun _ => Iff.rfl, fun _ _ => rfl⟩

theorem ChangedAt.symm (h : ChangedAt places d e) : ChangedAt places e d :=
  ⟨h.workingDirectory.symm, fun place => (h.directory place).symm, fun place hp => (h.elsewhere place hp).symm⟩

theorem ChangedAt.trans (h : ChangedAt places d e) (h' : ChangedAt places e f) : ChangedAt places d f :=
  ⟨h'.workingDirectory.trans h.workingDirectory, fun place => (h'.directory place).trans (h.directory place),
    fun place hp => (h'.elsewhere place hp).trans (h.elsewhere place hp)⟩

theorem ChangedAt.mono (h : ChangedAt places d e) (sub : places ⊆ more) : ChangedAt more d e :=
  ⟨h.workingDirectory, h.directory, fun place hp => h.elsewhere place fun hm => hp (sub hm)⟩

theorem ChangedAt.anywhere (h : ChangedAt places d e) : ChangedAt Set.univ d e := h.mono (Set.subset_univ _)

theorem ChangedAt.step_ok (h : ChangedAt places d e) {name : String} (hs : d.step here name = .ok place) :
    e.step here name = .ok place := by
  have hd := step_ok_directory hs
  have he := (h.directory here).mpr hd
  rw [step, requireDirectory_eq_ok_iff (u := ()) |>.mpr hd] at hs
  rw [step, requireDirectory_eq_ok_iff (u := ()) |>.mpr he]
  exact hs

theorem ChangedAt.walk_ok (h : ChangedAt places d e) {names : List String}
    (hw : d.walk here names = .ok place) : e.walk here names = .ok place := by
  induction names generalizing here with
  | nil => exact hw
  | cons name names ih =>
      obtain ⟨next, hs, hw⟩ := bind_eq_ok_iff.mp hw
      exact bind_eq_ok_iff.mpr ⟨next, h.step_ok hs, ih hw⟩

theorem ChangedAt.locate_ok (h : ChangedAt places d e) (hl : d.locate path = .ok place) :
    e.locate path = .ok place := by
  obtain ⟨_, hc, hw⟩ := bind_eq_ok_iff.mp hl
  refine bind_eq_ok_iff.mpr ⟨_, hc, ?_⟩
  rw [start, h.workingDirectory]
  exact h.walk_ok hw

theorem ChangedAt.locate_eq_ok_iff (h : ChangedAt places d e) :
    e.locate path = .ok place ↔ d.locate path = .ok place :=
  ⟨h.symm.locate_ok, h.locate_ok⟩

theorem ChangedAt.target_eq_ok_iff (h : ChangedAt places d e) :
    e.target path = .ok place ↔ d.target path = .ok place := by
  simp only [Disk.target_eq_ok_iff, h.locate_eq_ok_iff, ne_eq, h.directory]

theorem ChangedAt.find_eq_ok_iff (h : ChangedAt places d e) {node : Node}
    (apart : ∀ place ∈ places, d.locate path ≠ .ok place) :
    e.find path = .ok node ↔ d.find path = .ok node := by
  simp only [Disk.find_eq_ok_iff, h.locate_eq_ok_iff]
  refine exists_congr fun place => and_congr_right fun hl => ?_
  rw [h.elsewhere place fun hp => apart place hp hl]

theorem ChangedAt.read_eq_ok_iff (h : ChangedAt places d e)
    (apart : ∀ place ∈ places, d.locate path ≠ .ok place) :
    e.read path = .ok content ↔ d.read path = .ok content := by
  rw [read_eq_ok_iff_find, read_eq_ok_iff_find, h.find_eq_ok_iff apart]

theorem ChangedAt.targets (h : ChangedAt places d e) (paths : Set String) :
    e.targets paths = d.targets paths := by
  simp only [Disk.targets, h.target_eq_ok_iff]

theorem targets_mono (d : Disk) {few many : Set String} (sub : few ⊆ many) : d.targets few ⊆ d.targets many := by
  rintro place ⟨path, hp, ht⟩
  exact ⟨path, sub hp, ht⟩

theorem ChangedAt.targets_subset {paths : Set String} (h : ChangedAt places d e) (hp : path ∈ paths) :
    e.targets {path} ⊆ d.targets paths := by
  rw [h.targets]
  exact d.targets_mono (Set.singleton_subset_iff.mpr hp)

theorem ChangedAt.thenAt {few many : Set String} (h : ChangedAt (d.targets many) d e)
    (h' : ChangedAt (e.targets few) e f) (sub : few ⊆ many) : ChangedAt (d.targets many) d f := by
  rw [h.targets] at h'
  exact h.trans (h'.mono (d.targets_mono sub))

/-- Writing by some paths leaves the files of all other paths, also where much has changed before. -/
theorem ChangedAt.read_then_iff {paths : Set String} (h : ChangedAt places d e)
    (h' : ChangedAt (e.targets paths) e f) (apart : ∀ p ∈ paths, d.Apart p path) :
    f.read path = .ok content ↔ e.read path = .ok content := by
  refine h'.read_eq_ok_iff ?_
  rw [h.targets]
  intro place hp hl
  exact locate_ne_of_apart apart place hp (h.locate_eq_ok_iff.mp hl)

/-! ## Writing -/

theorem changedAt_store (root : place ≠ []) (hd : d.node? place ≠ some .directory) (content : Bytes) :
    ChangedAt {place} d (d.store place (.file content)) := by
  refine ⟨rfl, fun other => ?_, fun other hp => ?_⟩
  · rw [node?_store root]
    split
    · rename_i same
      subst same
      constructor
      · intro h
        cases h
      · exact fun h => absurd h hd
    · exact Iff.rfl
  · rw [node?_store root, if_neg (mt Set.mem_singleton_iff.mpr hp)]

theorem root_ne_of_target (h : d.target path = .ok place) : place ≠ [] := by
  rintro rfl
  exact (target_eq_ok_iff.mp h).2.2.2 rfl

theorem changedAt_of_target (h : d.target path = .ok place) (content : Bytes) :
    ChangedAt (d.targets {path}) d (d.store place (.file content)) :=
  (changedAt_store (root_ne_of_target h) (target_eq_ok_iff.mp h).2.2.2 content).mono
    (Set.singleton_subset_iff.mpr ⟨path, rfl, h⟩)

theorem replace_eq_ok_iff :
    d.replace path content = .ok e ↔
      ∃ place, d.target path = .ok place ∧ d.store place (.file content) = e := by
  rw [replace, bind_eq_ok_iff]
  exact exists_congr fun _ => and_congr_right fun _ => ⟨Except.ok.inj, congrArg _⟩

theorem append_eq_ok_iff :
    d.append path content = .ok e ↔
      ∃ place, d.target path = .ok place ∧ d.store place (.file (d.contentAt place ++ content)) = e := by
  rw [append, bind_eq_ok_iff]
  exact exists_congr fun _ => and_congr_right fun _ => ⟨Except.ok.inj, congrArg _⟩

theorem changedAt_attempted {outcome : Except StorageError Disk}
    (h : ∀ e, outcome = .ok e → ChangedAt places d e) : ChangedAt places d (d.attempted outcome) := by
  cases outcome with
  | error e => exact .refl places d
  | ok e => exact h e rfl

theorem changedAt_replace (d : Disk) (path : String) (content : Bytes) :
    ChangedAt (d.targets {path}) d (d.attempted (d.replace path content)) := by
  refine changedAt_attempted fun e h => ?_
  obtain ⟨place, ht, rfl⟩ := replace_eq_ok_iff.mp h
  exact changedAt_of_target ht _

theorem changedAt_append (d : Disk) (path : String) (content : Bytes) :
    ChangedAt (d.targets {path}) d (d.attempted (d.append path content)) := by
  refine changedAt_attempted fun e h => ?_
  obtain ⟨place, ht, rfl⟩ := append_eq_ok_iff.mp h
  exact changedAt_of_target ht _

theorem read_store_target (h : d.target path = .ok place) (content : Bytes) :
    (d.store place (.file content)).read path = .ok content := by
  obtain ⟨hl, -, slash, -⟩ := target_eq_ok_iff.mp h
  refine read_eq_ok_iff.mpr ⟨place, (changedAt_of_target h content).locate_ok hl, ?_, slash⟩
  rw [node?_store (root_ne_of_target h), if_pos rfl]

end MembershipGrid.Disk
