import MembershipGrid.Proofs.Lemmas.SettingLines

/-!
# What settings come to

The lines of a settings file that are not empty assign values to keys, and the settings are decided by the
last assignment to each key. What is assigned is said without the reader of lines.
-/

namespace MembershipGrid.Settings

/-- The assignments on lines that each have one or are empty, in order. -/
inductive Assignments : List (List Char) → List (String × String) → Prop
  | nil : Assignments [] []
  | skip {line : List Char} {rest : List (List Char)} {as : List (String × String)} :
      HasBody line [] → Assignments rest as → Assignments (line :: rest) as
  | assign {line key value : List Char} {rest : List (List Char)} {as : List (String × String)} :
      Assigns line key value → Assignments rest as →
      Assignments (line :: rest) ((String.ofList key, String.ofList value) :: as)

/-- The value that is last assigned to a key. -/
def last? (as : List (String × String)) (key : String) : Option String := as.reverse.lookup key

/-- The settings that assignments come to. -/
def described (as : List (String × String)) : Settings where
  errorLog := (last? as "error-log").getD "error.log"
  debugLog := (last? as "debug-log").getD "debug.log"
  report := last? as "report"
  symbol := (last? as "symbol").getD "LINKER_SCRIPT"
  unknownKeys := (as.map Prod.fst).filter (· ∉ ["error-log", "debug-log", "report", "symbol"])

variable {lines : List (List Char)} {as : List (String × String)} {s t : Settings} {number : Nat}

/-! ## One assignment more -/

theorem last?_concat (as : List (String × String)) (k v key : String) :
    last? (as ++ [(k, v)]) key = if k = key then some v else last? as key := by
  rw [last?, List.reverse_append, List.reverse_singleton, List.singleton_append, List.lookup_cons]
  by_cases same : k = key
  · simp [same]
  · rw [if_neg same, beq_eq_false_iff_ne.mpr (Ne.symm same), last?]

theorem described_concat (as : List (String × String)) (k v : String) :
    described (as ++ [(k, v)]) = (described as).assign k v := by
  rw [assign]
  split_ifs <;> simp [described, last?_concat, *]

theorem foldl_assign (as : List (String × String)) :
    as.foldl (fun s a => s.assign a.1 a.2) {} = described as := by
  induction as using List.reverseRecOn with
  | nil => rfl
  | append_singleton as a ih => rw [List.foldl_concat, ih, described_concat]

/-! ## Runs of lines -/

theorem exists_assignments (h : assignLines s number lines = .ok t) : ∃ as, Assignments lines as := by
  induction lines generalizing s number with
  | nil => exact ⟨[], .nil⟩
  | cons line rest ih =>
      have reads := reads_readLine number line
      cases said : readLine number line with
      | error defect =>
          rw [assignLines_of_error said] at h
          cases h
      | ok assigned =>
          rw [assignLines_of_ok said] at h
          obtain ⟨as, later⟩ := ih h
          rw [said] at reads
          cases reads with
          | skipped empty => exact ⟨as, .skip empty later⟩
          | assigned assigns => exact ⟨_, .assign assigns later⟩

theorem eq_foldl_of_assignLines (ha : Assignments lines as) (h : assignLines s number lines = .ok t) :
    t = as.foldl (fun s a => s.assign a.1 a.2) s := by
  induction ha generalizing s number with
  | nil =>
      cases h
      rfl
  | skip empty _ ih =>
      rw [assignLines_of_ok (readLine_of_nil empty number)] at h
      exact ih h
  | @assign line key value rest as assigns _ ih =>
      have said := readLine_of_assigns assigns number
      split at said
      · rw [assignLines_of_error said] at h
        cases h
      · rw [assignLines_of_ok said] at h
        exact ih h

/-- The settings in a text that is accepted are decided by the assignments on its lines: each is the value
last assigned to its key, or the default where there is none, and all other keys are collected. -/
theorem last_assignment_counts (text : String) (s : Settings) (accepted : ofText text = .ok s) :
    (∃ as, Assignments (Text.lines text.toList) as) ∧
    ∀ as, Assignments (Text.lines text.toList) as →
      s.errorLog = (as.reverse.lookup "error-log").getD "error.log" ∧
      s.debugLog = (as.reverse.lookup "debug-log").getD "debug.log" ∧
      s.report = as.reverse.lookup "report" ∧
      s.symbol = (as.reverse.lookup "symbol").getD "LINKER_SCRIPT" ∧
      s.unknownKeys =
        (as.map Prod.fst).filter (· ∉ ["error-log", "debug-log", "report", "symbol"]) := by
  refine ⟨exists_assignments accepted, fun as ha => ?_⟩
  have described : s = described as := (eq_foldl_of_assignLines ha accepted).trans (foldl_assign as)
  rw [described]
  exact ⟨rfl, rfl, rfl, rfl, rfl⟩

theorem last_assignment_counts_symbol :
    ofText "symbol = A # B\n\n= x\r\nsymbol=C=D\ndebug-log=d" =
        .ok ⟨"error.log", "d", none, "C=D", [""]⟩ ∧
      ∃ as, Assignments (Text.lines "symbol = A # B\n\n= x\r\nsymbol=C=D\ndebug-log=d".toList) as ∧
        (as.reverse.lookup "symbol").getD "LINKER_SCRIPT" = "C=D" ∧
        (as.map Prod.fst).filter (· ∉ ["error-log", "debug-log", "report", "symbol"]) = [""] := by
  have accepted : ofText "symbol = A # B\n\n= x\r\nsymbol=C=D\ndebug-log=d" =
      .ok ⟨"error.log", "d", none, "C=D", [""]⟩ := by decide
  obtain ⟨⟨as, ha⟩, decided⟩ := last_assignment_counts _ _ accepted
  obtain ⟨-, -, -, symbol, unknown⟩ := decided as ha
  exact ⟨accepted, as, ha, symbol.symm, unknown.symm⟩

end MembershipGrid.Settings
