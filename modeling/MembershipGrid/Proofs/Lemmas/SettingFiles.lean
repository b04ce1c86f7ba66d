import MembershipGrid.Proofs.Lemmas.Jobs
import MembershipGrid.Settings.File

/-!
# Settings on a disk

What loading settings comes to on a disk, and what keeps settings from being loaded. The list is complete,
and loading changes nothing.
-/

namespace MembershipGrid.Settings

/-- The file that settings are loaded from, if they are loaded from one. -/
def fileOn (d : Disk) : Option String → Option String
  | some path => some path
  | none => if d.has defaultFile then some defaultFile else none

def inFile (d : Disk) (path : String) : Except Failure Settings := do
  let text ← (d.text path).mapError fun e => (Failure.ofCause (.storage e)).within s!"failed to read {path}"
  (ofText text).mapError fun defect => (Failure.ofCause (.settings defect)).within s!"invalid config {path}"

def onDisk (d : Disk) (config : Option String) : Except Failure Settings :=
  match fileOn d config with
  | none => .ok {}
  | some path => inFile d path

/-- Why settings cannot be loaded. A settings file that is named has to exist; whether it is named or not,
it has to be text, and the text of settings. -/
inductive Unloadable (d : Disk) : Option String → Prop
  | missing {path : String} : d.has path = false → Unloadable d (some path)
  | unreadable {config : Option String} {path : String} {e : StorageError} :
      fileOn d config = some path → d.read path = .error e → Unloadable d config
  | notText {config : Option String} {path : String} {content : Bytes} :
      fileOn d config = some path → d.read path = .ok content → Text.decode? content = none →
      Unloadable d config
  | rejected {config : Option String} {path : String} {content : Bytes} {text : String} {defect : Defect} :
      fileOn d config = some path → d.read path = .ok content → Text.decode? content = some text →
      ofText text = .error defect → Unloadable d config

variable {d : Disk} {path : String} {config : Option String} {settings : Settings}

/-! ## The list is complete -/

theorem inFile_eq_ok_iff :
    inFile d path = .ok settings ↔
      ∃ text, (∃ content, d.read path = .ok content ∧ Text.decode? content = some text) ∧
        ofText text = .ok settings := by
  simp only [inFile, Disk.bind_eq_ok_iff, Disk.mapError_eq_ok_iff, Disk.text_eq_ok_iff]

theorem read_ne_ok_of_not_has (h : d.has path = false) (content : Bytes) : d.read path ≠ .ok content := by
  intro hr
  rw [Disk.has, Disk.read_eq_ok_iff_find.mp hr] at h
  cases h

theorem Unloadable.exists_file (h : Unloadable d config) :
    ∃ path, fileOn d config = some path ∧ ∀ settings, inFile d path ≠ .ok settings := by
  simp only [ne_eq, inFile_eq_ok_iff]
  cases h with
  | missing absent =>
      refine ⟨_, rfl, ?_⟩
      rintro settings ⟨text, ⟨content, hr, -⟩, -⟩
      exact read_ne_ok_of_not_has absent content hr
  | unreadable file refused =>
      refine ⟨_, file, ?_⟩
      rintro settings ⟨text, ⟨content, hr, -⟩, -⟩
      cases refused.symm.trans hr
  | notText file read undecoded =>
      refine ⟨_, file, ?_⟩
      rintro settings ⟨text, ⟨content, hr, hd⟩, -⟩
      cases read.symm.trans hr
      cases undecoded.symm.trans hd
  | rejected file read decoded refused =>
      refine ⟨_, file, ?_⟩
      rintro settings ⟨text, ⟨content, hr, hd⟩, accepted⟩
      cases read.symm.trans hr
      cases decoded.symm.trans hd
      cases refused.symm.trans accepted

theorem unloadable_of_refused (file : fileOn d config = some path)
    (refused : ∀ settings, inFile d path ≠ .ok settings) : Unloadable d config := by
  cases hr : d.read path with
  | error e => exact .unreadable file hr
  | ok content =>
      cases hd : Text.decode? content with
      | none => exact .notText file hr hd
      | some text =>
          cases said : ofText text with
          | error defect => exact .rejected file hr hd said
          | ok settings =>
              exact absurd (inFile_eq_ok_iff.mpr ⟨text, ⟨content, hr, hd⟩, said⟩) (refused settings)

theorem unloadable_iff : Unloadable d config ↔ ¬∃ settings, onDisk d config = .ok settings := by
  constructor
  · rintro bad ⟨settings, h⟩
    obtain ⟨path, file, refused⟩ := bad.exists_file
    rw [onDisk, file] at h
    exact refused settings h
  · intro refused
    cases file : fileOn d config with
    | none => exact absurd ⟨{}, by rw [onDisk, file]⟩ refused
    | some path =>
        refine unloadable_of_refused file fun settings h => refused ⟨settings, ?_⟩
        rw [onDisk, file]
        exact h

/-! ## Runs -/

theorem run_ofFile (path : String) (w : World) : (ofFile path).run.run w = (inFile w.disk path, w) := by
  have read := Job.run_fileStep s!"failed to read {path}" (Script.run_readText path w)
  refine Script.run_bind_of_same read fun text => ?_
  cases ofText text <;> rfl

theorem run_inForce (config : Option String) (w : World) :
    (inForce config).run.run w = (onDisk w.disk config, w) := by
  cases config with
  | some path => exact run_ofFile path w
  | none =>
      rw [inForce, Script.run_bind_of_ok (Script.run_liftM _ w), onDisk, fileOn]
      simp only [Script.pathExists, Script.run]
      cases w.disk.has defaultFile with
      | false => rfl
      | true => exact run_ofFile _ w

end MembershipGrid.Settings
