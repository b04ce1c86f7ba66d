import MembershipGrid.Proofs.Lemmas.Lines
import MembershipGrid.Proofs.Lemmas.SettingLines

/-!
# Refused settings

A text of settings is refused for the first line that has something on it but assigns no value to a key.
Lines are counted with those that are blank or hold a comment only.
-/

namespace MembershipGrid.Settings

open Text (Blank Trims)

/-- A line with something before its comment that has no equals sign, or only white space after the first. -/
def Refused (line : List Char) : Prop :=
  ∃ body, HasBody line body ∧ body ≠ [] ∧
    ('=' ∉ body ∨ ∃ left right, body = left ++ '=' :: right ∧ '=' ∉ left ∧ Blank right)

/-- What there is to say about such a line with a certain number. -/
inductive Refusal (number : Nat) : List Char → Defect → String → Prop
  | noAssignment {line body : List Char} : HasBody line body → body ≠ [] → '=' ∉ body →
      Refusal number line (.noAssignment number (String.ofList body))
        s!"line {number}: expected `key = value`, got {Text.quoted (String.ofList body)}"
  | noValue {line left right key : List Char} : HasBody line (left ++ '=' :: right) → '=' ∉ left →
      Blank right → Trims left key →
      Refusal number line (.noValue number (String.ofList key))
        s!"line {number}: `{String.ofList key}` has no value"

variable {text said : String} {line : List Char} {above below ls : List (List Char)} {s : Settings}
  {defect : Defect} {number : Nat}

/-! ## One line -/

theorem Refusal.message_eq (h : Refusal number line defect said) : defect.message = said := by
  cases h <;> rfl

theorem Refusal.readLine_eq (h : Refusal number line defect said) : readLine number line = .error defect := by
  cases h with
  | noAssignment body some sign => rw [readLine, body.body_eq, if_neg some, if_pos sign]
  | noValue body sign right key =>
      rw [readLine_of_assigns (.intro body sign key right.trims), if_pos rfl]

theorem Refused.exists_refusal (h : Refused line) (number : Nat) :
    ∃ defect said, Refusal number line defect said := by
  obtain ⟨body, hb, some, none | ⟨left, right, rfl, first, blank⟩⟩ := h
  · exact ⟨_, _, .noAssignment hb some none⟩
  · exact ⟨_, _, .noValue hb first blank (Text.trims_trim left)⟩

theorem Assigns.refused {key : List Char} (h : Assigns line key []) : Refused line := by
  cases h with
  | intro body sign _ value => exact ⟨_, body, by simp, .inr ⟨_, _, rfl, sign, value.blank⟩⟩

theorem refused_iff (number : Nat) : Refused line ↔ ∃ defect, readLine number line = .error defect := by
  constructor
  · intro h
    obtain ⟨defect, said, refusal⟩ := h.exists_refusal number
    exact ⟨defect, refusal.readLine_eq⟩
  · rintro ⟨defect, read⟩
    have reads := reads_readLine number line
    rw [read] at reads
    cases reads with
    | noValue assigns => exact assigns.refused
    | noAssignment body some sign => exact ⟨_, body, some, .inl sign⟩

instance (line : List Char) : Decidable (Refused line) :=
  match read : readLine 0 line with
  | .ok _ => isFalse fun h => by simp [refused_iff 0, read] at h
  | .error defect => isTrue ((refused_iff 0).mpr ⟨defect, read⟩)

/-! ## All lines -/

theorem exists_assignLines_iff :
    (∃ t, assignLines s number ls = .ok t) ↔ ∀ line ∈ ls, ¬Refused line := by
  induction ls generalizing s number with
  | nil => exact iff_of_true ⟨s, rfl⟩ (List.forall_mem_nil _)
  | cons line ls ih =>
      rw [List.forall_mem_cons, refused_iff number]
      cases read : readLine number line with
      | error defect => simp [assignLines_of_error read]
      | ok said => simp [assignLines_of_ok read, ih]

theorem ofText_of_refusal (cut : Text.lines text.toList = above ++ line :: below)
    (sound : ∀ line ∈ above, ¬Refused line) (h : Refusal (above.length + 1) line defect said) :
    ofText text = .error defect := by
  obtain ⟨t, before⟩ := exists_assignLines_iff.mpr sound
  rw [ofText, cut, assignLines_append, before]
  exact assignLines_of_error (Nat.add_comm 1 _ ▸ h.readLine_eq)

/-! ## Any text -/

/-- A text is refused exactly if one of its lines is, and the first such line decides the error, with its
number. What stands below that line makes no difference. -/
theorem first_refused_line_decides_error (text : String) :
    ((∃ defect, ofText text = .error defect) ↔ ∃ line ∈ Text.lines text.toList, Refused line) ∧
    ∀ k, Text.FirstAt Refused (Text.lines text.toList) k →
      ∃ line defect, (Text.lines text.toList)[k]? = some line ∧ Refusal (k + 1) line defect defect.message ∧
        ofText text = .error defect ∧
        ∀ other : String, (Text.lines other.toList).take (k + 1) = (Text.lines text.toList).take (k + 1) →
          ofText other = .error defect := by
  constructor
  · have accepted : (∃ t, ofText text = .ok t) ↔ _ := exists_assignLines_iff
    cases read : ofText text with
    | error defect => simpa [read] using accepted
    | ok t => simpa [read] using accepted
  · intro k at_k
    obtain ⟨above, line, below, cut, rfl, bad, sound⟩ := Text.firstAt_iff.mp at_k
    obtain ⟨defect, said, refusal⟩ := bad.exists_refusal (above.length + 1)
    obtain rfl := refusal.message_eq
    refine ⟨line, defect, by simp [cut], refusal, ofText_of_refusal cut sound refusal, fun other agree => ?_⟩
    obtain ⟨more, cut'⟩ := Text.exists_split_of_take cut agree
    exact ofText_of_refusal cut' sound refusal

theorem first_refused_line_decides_error_third_line :
    Text.FirstAt Refused (Text.lines "# logs\n\n report = # none\n= \nx".toList) 2 ∧
      ofText "# logs\n\n report = # none\n= \nx" = .error (.noValue 3 "report") ∧
      (Defect.noValue 3 "report").message = "line 3: `report` has no value" ∧
      ofText "# logs\n\r\n report = # none\nsymbol = a" = .error (.noValue 3 "report") := by
  have third : Text.FirstAt Refused (Text.lines "# logs\n\n report = # none\n= \nx".toList) 2 :=
    Text.firstAt_iff.mpr ⟨["# logs".toList, []], " report = # none".toList, ["= ".toList, ['x']], by decide⟩
  have said : ofText "# logs\n\n report = # none\n= \nx" = .error (.noValue 3 "report") := by decide
  obtain ⟨_, defect, -, -, refused, others⟩ := (first_refused_line_decides_error _).2 2 third
  cases refused.symm.trans said
  exact ⟨third, refused, by decide, others _ (by decide)⟩

end MembershipGrid.Settings
