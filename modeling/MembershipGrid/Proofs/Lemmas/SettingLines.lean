import MembershipGrid.Settings
import MembershipGrid.Proofs.Lemmas.Trimming

/-!
# Lines of settings

What a line of a settings file says, without the reader: it has a body before its comment, and assigns a
value to a key if the body has an equals sign (`HasBody`, `Assigns`). A line comes to one of four things
(`Reads`), and the reader finds which.
-/

namespace MembershipGrid.Settings

open Text (Blank Trims)

/-- A comment, or the lack of one. -/
inductive Comment : List Char → Prop
  | none : Comment []
  | hash (text : List Char) : Comment ('#' :: text)

/-- What is left of a line when it is cut at its first hash sign and trimmed. -/
inductive HasBody : List Char → List Char → Prop
  | intro {front comment body : List Char} :
      '#' ∉ front → Comment comment → Trims front body → HasBody (front ++ comment) body

/-- A line whose body, split at its first equals sign, has a certain key and value when both are trimmed. -/
inductive Assigns : List Char → List Char → List Char → Prop
  | intro {line left right key value : List Char} :
      HasBody line (left ++ '=' :: right) → '=' ∉ left → Trims left key → Trims right value →
      Assigns line key value

/-- What a line can come to. -/
inductive Reads (number : Nat) : List Char → Except Defect (Option (String × String)) → Prop
  | skipped {line : List Char} : HasBody line [] → Reads number line (.ok none)
  | assigned {line key value : List Char} : Assigns line key value → value ≠ [] →
      Reads number line (.ok (some (String.ofList key, String.ofList value)))
  | noValue {line key : List Char} : Assigns line key [] →
      Reads number line (.error (.noValue number (String.ofList key)))
  | noAssignment {line body : List Char} : HasBody line body → body ≠ [] → '=' ∉ body →
      Reads number line (.error (.noAssignment number (String.ofList body)))

variable {line line' front back text b k v : List Char} {c : Char} {number : Nat}

/-! ## Cutting -/

theorem all_ne (h : c ∉ front) : ∀ d ∈ front, decide (d ≠ c) = true :=
  fun _ hd => decide_eq_true fun same => h (same ▸ hd)

theorem takeWhile_ne (h : c ∉ front) : front.takeWhile (· ≠ c) = front :=
  List.takeWhile_eq_self_iff.mpr (all_ne h)

theorem takeWhile_ne_append (h : c ∉ front) (back : List Char) :
    (front ++ c :: back).takeWhile (· ≠ c) = front := by
  rw [List.takeWhile_append_of_pos (all_ne h), List.takeWhile_cons_of_neg (by simp), List.append_nil]

theorem dropWhile_ne_append (h : c ∉ front) (back : List Char) :
    (front ++ c :: back).dropWhile (· ≠ c) = c :: back := by
  rw [List.dropWhile_append_of_pos (all_ne h), List.dropWhile_cons_of_neg (by simp)]

/-! ## Bodies -/

theorem HasBody.body_eq (h : HasBody line b) : body line = b := by
  cases h with
  | intro hf hc ht =>
      rw [body]
      cases hc with
      | none => rw [List.append_nil, takeWhile_ne hf, ht.trim_eq]
      | hash text => rw [takeWhile_ne_append hf, ht.trim_eq]

theorem hasBody_body (line : List Char) : HasBody line (body line) := by
  by_cases hash : '#' ∈ line
  · obtain ⟨front, text, rfl, hf⟩ := List.eq_append_cons_of_mem hash
    rw [body, takeWhile_ne_append hf]
    exact .intro hf (.hash text) (Text.trims_trim front)
  · rw [body, takeWhile_ne hash]
    have whole : HasBody (line ++ []) (Text.trim line) := .intro hash .none (Text.trims_trim line)
    rwa [List.append_nil] at whole

theorem assigns_of_body (h : HasBody line b) (sign : '=' ∈ b) :
    Assigns line (key b) (value b) := by
  obtain ⟨left, right, rfl, hl⟩ := List.eq_append_cons_of_mem sign
  rw [key, takeWhile_ne_append hl, value, dropWhile_ne_append hl]
  exact .intro h hl (Text.trims_trim left) (Text.trims_trim right)

theorem assigns_of_sides {left right comment : List Char} (hl : '#' ∉ left) (sign : '=' ∉ left)
    (hr : '#' ∉ right) (hc : Comment comment) (hk : Trims left k) (hv : Trims right v) :
    Assigns (left ++ '=' :: right ++ comment) k v := by
  have body := Text.trims_append_cons (show Text.isBlank '=' = false by decide) left right
  have sign' : '=' ∉ Text.trimStart left := fun hm => sign (List.dropWhile_subset _ hm)
  have hash : '#' ∉ left ++ '=' :: right :=
    List.not_mem_append hl (List.not_mem_cons_of_ne_of_not_mem (by decide) hr)
  exact .intro (.intro hash hc body) sign' hk.trimStart hv.trimEnd

/-! ## The reader and the relation agree -/

theorem readLine_congr (h : body line = body line') (number : Nat) :
    readLine number line = readLine number line' := by
  rw [readLine, readLine, h]

theorem readLine_of_assigns (h : Assigns line k v) (number : Nat) :
    readLine number line =
      if v = [] then .error (.noValue number (String.ofList k))
      else .ok (some (String.ofList k, String.ofList v)) := by
  cases h with
  | @intro left right _ _ hb hl hk hv =>
      have key_eq : key (left ++ '=' :: right) = k := by
        rw [key, takeWhile_ne_append hl, hk.trim_eq]
      have value_eq : value (left ++ '=' :: right) = v := by
        rw [value, dropWhile_ne_append hl]
        exact hv.trim_eq
      simp only [readLine, hb.body_eq, key_eq, value_eq]
      rw [if_neg (by simp), if_neg (by simp)]

theorem readLine_of_nil (h : HasBody line []) (number : Nat) : readLine number line = .ok none := by
  rw [readLine, h.body_eq]
  rfl

theorem reads_readLine (number : Nat) (line : List Char) : Reads number line (readLine number line) := by
  have hb := hasBody_body line
  by_cases empty : body line = []
  · rw [empty] at hb
    rw [readLine_of_nil hb]
    exact .skipped hb
  by_cases sign : '=' ∈ body line
  · have assigns := assigns_of_body hb sign
    rw [readLine_of_assigns assigns]
    split
    · rename_i none
      exact .noValue (none ▸ assigns)
    · rename_i some
      exact .assigned assigns some
  · rw [readLine, if_neg empty, if_pos sign]
    exact .noAssignment hb empty sign

/-! ## One line after another -/

theorem assignLines_of_ok {rest : List (List Char)} {s : Settings}
    {said : Option (String × String)} (h : readLine number line = .ok said) :
    assignLines s number (line :: rest) =
      assignLines (said.elim s fun a => s.assign a.1 a.2) (number + 1) rest := by
  rw [assignLines, h]
  cases said <;> rfl

theorem assignLines_of_error {rest : List (List Char)} {s : Settings} {defect : Defect}
    (h : readLine number line = .error defect) : assignLines s number (line :: rest) = .error defect := by
  rw [assignLines, h]
  rfl

theorem assignLines_append (s : Settings) (number : Nat) (before after : List (List Char)) :
    assignLines s number (before ++ after) =
      assignLines s number before >>= fun t => assignLines t (number + before.length) after := by
  induction before generalizing s number with
  | nil => rfl
  | cons line before ih =>
      rw [List.cons_append, List.length_cons, Nat.add_comm before.length, ← Nat.add_assoc]
      cases said : readLine number line with
      | error defect =>
          rw [assignLines_of_error said, assignLines_of_error said]
          rfl
      | ok assigned => rw [assignLines_of_ok said, assignLines_of_ok said, ih]

end MembershipGrid.Settings
