import MembershipGrid.Proofs.Lemmas.Lines
import MembershipGrid.Proofs.Lemmas.SettingLines

/-!
# What settings can hold

Keys and values are cut out of lines, so there are texts that no setting ever holds (`Storable`). The
defaults are of that kind, and no line leads out of it.
-/

namespace MembershipGrid.Settings

open Text (Trims)

def knownKeys : List String := ["error-log", "debug-log", "report", "symbol"]

/-- What can be left of a part of a line. -/
@[mk_iff]
structure Plain (text : List Char) : Prop where
  trimmed : Text.Trimmed text
  hash : '#' ∉ text
  newline : '\n' ∉ text

@[mk_iff]
structure IsKey (key : String) : Prop where
  plain : Plain key.toList
  sign : '=' ∉ key.toList

@[mk_iff]
structure IsValue (value : String) : Prop where
  plain : Plain value.toList
  nonempty : value ≠ ""

structure IsUnknownKey (key : String) : Prop extends IsKey key where
  unknown : key ∉ knownKeys

/-- Settings that can be read from a text. -/
structure Storable (s : Settings) : Prop where
  errorLog : IsValue s.errorLog
  debugLog : IsValue s.debugLog
  report : ∀ path ∈ s.report, IsValue path
  symbol : IsValue s.symbol
  unknownKeys : ∀ key ∈ s.unknownKeys, IsUnknownKey key

instance (text : List Char) : Decidable (Plain text) := decidable_of_iff' _ (plain_iff text)

instance (key : String) : Decidable (IsKey key) := decidable_of_iff' _ (isKey_iff key)

instance (value : String) : Decidable (IsValue value) := decidable_of_iff' _ (isValue_iff value)

variable {line text core k v : List Char} {number : Nat} {s t : Settings} {key value : String}

/-! ## Parts of lines -/

theorem Trims.plain (h : Trims text core) (hash : '#' ∉ text) (newline : '\n' ∉ text) : Plain core := by
  cases h with
  | intro _ _ trimmed =>
      simp only [List.mem_append, not_or] at hash newline
      exact ⟨trimmed, hash.1.2, newline.1.2⟩

theorem HasBody.plain (h : HasBody line core) (newline : '\n' ∉ line) : Plain core := by
  cases h with
  | intro hash _ trims => exact Trims.plain trims hash fun hm => newline (List.mem_append_left _ hm)

theorem Assigns.plain (h : Assigns line k v) (newline : '\n' ∉ line) :
    Plain k ∧ '=' ∉ k ∧ Plain v := by
  cases h with
  | intro body sign hk hv =>
      obtain ⟨-, hash, newline⟩ := body.plain newline
      simp only [List.mem_append, List.mem_cons, not_or] at hash newline
      refine ⟨Trims.plain hk hash.1 newline.1, ?_, Trims.plain hv hash.2.2 newline.2.2⟩
      cases hk with
      | intro _ _ _ =>
          simp only [List.mem_append, not_or] at sign
          exact sign.1.2

theorem stored_of_readLine (h : readLine number line = .ok (some (key, value))) (newline : '\n' ∉ line) :
    IsKey key ∧ IsValue value := by
  have reads := reads_readLine number line
  rw [h] at reads
  cases reads with
  | assigned assigns nonempty =>
      obtain ⟨hk, sign, hv⟩ := assigns.plain newline
      constructor
      · exact ⟨by rwa [String.toList_ofList], by rwa [String.toList_ofList]⟩
      · exact ⟨by rwa [String.toList_ofList], by simpa using nonempty⟩

/-! ## Settings -/

theorem isKey_of_known : ∀ key ∈ knownKeys, IsKey key := by decide

theorem storable_default : Storable {} where
  errorLog := by decide
  debugLog := by decide
  report := nofun
  symbol := by decide
  unknownKeys := nofun

theorem Storable.assign (h : Storable s) (hk : IsKey key) (hv : IsValue value) :
    Storable (s.assign key value) := by
  unfold Settings.assign
  split_ifs with errorLog debugLog report symbol
  · exact { h with errorLog := hv }
  · exact { h with debugLog := hv }
  · exact { h with report := fun path hp => Option.some.inj hp ▸ hv }
  · exact { h with symbol := hv }
  · refine { h with unknownKeys := fun other ho => ?_ }
    rcases List.mem_append.mp ho with before | last
    · exact h.unknownKeys other before
    · rw [List.mem_singleton.mp last]
      exact { hk with unknown := by simp [knownKeys, *] }

theorem Storable.of_assignLines {lines : List (List Char)} (h : Storable s)
    (unbroken : ∀ line ∈ lines, '\n' ∉ line) (ht : assignLines s number lines = .ok t) : Storable t := by
  induction lines generalizing s number with
  | nil =>
      cases ht
      exact h
  | cons line rest ih =>
      have unbroken' := fun l hl => unbroken l (List.mem_cons_of_mem line hl)
      cases said : readLine number line with
      | error defect =>
          rw [assignLines_of_error said] at ht
          cases ht
      | ok assigned =>
          rw [assignLines_of_ok said] at ht
          cases assigned with
          | none => exact ih h unbroken' ht
          | some assignment =>
              obtain ⟨hk, hv⟩ := stored_of_readLine said (unbroken line List.mem_cons_self)
              exact ih (h.assign hk hv) unbroken' ht

theorem storable_of_ofText {text : String} (accepted : ofText text = .ok s) : Storable s :=
  storable_default.of_assignLines (fun _ hl => (Text.fallsInto_lines _).not_newline hl) accepted

end MembershipGrid.Settings
