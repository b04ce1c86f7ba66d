import MembershipGrid.Proofs.Lemmas.Storable

/-!
# Settings written out

Settings can be written out as a text with a line for each setting and for each key that is not known.
Whatever was read from a text is read again from the text it is written out as.
-/

namespace MembershipGrid.Settings

/-- What settings are written out as. The keys that are not known all get one value. -/
def assignments (s : Settings) (value : String) : List (String × String) :=
  [("error-log", s.errorLog), ("debug-log", s.debugLog)] ++ s.report.toList.map (("report", ·)) ++
    [("symbol", s.symbol)] ++ s.unknownKeys.map ((·, value))

def written (assignment : String × String) : List Char :=
  assignment.1.toList ++ " = ".toList ++ assignment.2.toList

def writtenLines (s : Settings) (value : String) : List (List Char) := (s.assignments value).map written

def toText (s : Settings) (value : String) : String := String.ofList (Text.unlines (s.writtenLines value))

variable {s : Settings} {value : String} {a : String × String} {as : List (String × String)}

/-! ## One line -/

theorem assigns_written (hk : IsKey a.1) (hv : IsValue a.2) : Assigns (written a) a.1.toList a.2.toList := by
  have left : Text.Trims (a.1.toList ++ [' ']) a.1.toList := by
    simpa using Text.Trims.intro Text.blank_nil (by decide : Text.Blank [' ']) hk.plain.trimmed
  have right : Text.Trims (' ' :: a.2.toList) a.2.toList := by
    simpa using Text.Trims.intro (by decide : Text.Blank [' ']) Text.blank_nil hv.plain.trimmed
  have line := assigns_of_sides (by simp [hk.plain.hash]) (by simp [hk.sign]) (by simp [hv.plain.hash])
    .none left right
  simpa [written] using line

theorem readLine_written (hk : IsKey a.1) (hv : IsValue a.2) (number : Nat) :
    readLine number (written a) = .ok (some a) := by
  rw [readLine_of_assigns (assigns_written hk hv), if_neg (by simpa using hv.nonempty),
    String.ofList_toList, String.ofList_toList]

theorem newline_not_mem_written (hk : IsKey a.1) (hv : IsValue a.2) : '\n' ∉ written a := by
  simp [written, hk.plain.newline, hv.plain.newline]

/-- A written line ends with its value, which does not end with white space. -/
theorem written_ne_returned (hv : IsValue a.2) (front : List Char) : written a ≠ front ++ ['\r'] := by
  intro returned
  have last : (written a).getLast? = a.2.toList.getLast? :=
    List.getLast?_append_of_ne_nil _ (by simpa using hv.nonempty)
  rw [returned, List.getLast?_concat] at last
  exact absurd (hv.plain.trimmed.last '\r' last.symm) (by decide)

/-! ## All lines -/

theorem assignLines_written (h : ∀ a ∈ as, IsKey a.1 ∧ IsValue a.2) (s : Settings) (number : Nat) :
    assignLines s number (as.map written) = .ok (as.foldl (fun s a => s.assign a.1 a.2) s) := by
  induction as generalizing s number with
  | nil => rfl
  | cons a as ih =>
      obtain ⟨⟨hk, hv⟩, later⟩ := List.forall_mem_cons.mp h
      rw [List.map_cons, assignLines_of_ok (readLine_written hk hv number), ih later]
      rfl

theorem assign_of_unknown {key : String} (unknown : key ∉ knownKeys) (s : Settings) (value : String) :
    s.assign key value = { s with unknownKeys := s.unknownKeys ++ [key] } := by
  simp only [knownKeys, List.mem_cons, List.not_mem_nil, or_false, not_or] at unknown
  simp [assign, unknown]

theorem foldl_assign_unknown {keys : List String} (h : ∀ key ∈ keys, key ∉ knownKeys) (s : Settings)
    (value : String) :
    (keys.map ((·, value))).foldl (fun s a => s.assign a.1 a.2) s =
      { s with unknownKeys := s.unknownKeys ++ keys } := by
  induction keys generalizing s with
  | nil => simp
  | cons key keys ih =>
      obtain ⟨unknown, later⟩ := List.forall_mem_cons.mp h
      rw [List.map_cons, List.foldl_cons, assign_of_unknown unknown, ih later]
      simp

theorem foldl_assignments (h : Storable s) (value : String) :
    (s.assignments value).foldl (fun s a => s.assign a.1 a.2) {} = s := by
  rw [assignments, List.foldl_append, foldl_assign_unknown fun key hk => (h.unknownKeys key hk).unknown]
  cases s with
  | mk errorLog debugLog report symbol unknownKeys => cases report <;> rfl

theorem Storable.assignments (h : Storable s) (hv : IsValue value) :
    ∀ a ∈ s.assignments value, IsKey a.1 ∧ IsValue a.2 := by
  intro a ha
  simp only [Settings.assignments, List.mem_append, List.mem_cons, List.mem_map, List.not_mem_nil, or_false,
    Option.mem_toList] at ha
  rcases ha with (((rfl | rfl) | ⟨path, hp, rfl⟩) | rfl) | ⟨key, hk, rfl⟩
  · exact ⟨isKey_of_known "error-log" (by decide), h.errorLog⟩
  · exact ⟨isKey_of_known "debug-log" (by decide), h.debugLog⟩
  · exact ⟨isKey_of_known "report" (by decide), h.report path hp⟩
  · exact ⟨isKey_of_known "symbol" (by decide), h.symbol⟩
  · exact ⟨(h.unknownKeys key hk).toIsKey, hv⟩

theorem Storable.ofText_of_writtenLines (h : Storable s) (hv : IsValue value) {text : String}
    (lines : Text.lines text.toList = s.writtenLines value) : ofText text = .ok s := by
  rw [ofText, lines, writtenLines, assignLines_written (h.assignments hv), foldl_assignments h]

theorem Storable.lines_toText (h : Storable s) (hv : IsValue value) :
    Text.lines (s.toText value).toList = s.writtenLines value := by
  rw [toText, String.toList_ofList]
  apply Text.lines_unlines_of_unreturned
  intro line hl
  obtain ⟨a, ha, rfl⟩ := List.mem_map.mp hl
  obtain ⟨isKey, isValue⟩ := h.assignments hv a ha
  exact ⟨newline_not_mem_written isKey isValue, written_ne_returned isValue⟩

/-- Settings that were read from a text hold only what can be stored, and are read once more from the text
they are written out as, and from any other with the same lines. -/
theorem read_again_as_written (text : String) (s : Settings) (accepted : ofText text = .ok s) :
    Storable s ∧ ∀ value, IsValue value →
      ofText (s.toText value) = .ok s ∧
      ∀ text', Text.lines text'.toList = s.writtenLines value → ofText text' = .ok s := by
  have storable := storable_of_ofText accepted
  refine ⟨storable, fun value hv => ?_⟩
  have again : ∀ text', Text.lines text'.toList = s.writtenLines value → ofText text' = .ok s :=
    fun _ => storable.ofText_of_writtenLines hv
  exact ⟨again _ (storable.lines_toText hv), again⟩

theorem read_again_as_written_report :
    ofText "report=a\r=b\r # c\n= x\r\n font-size=2.5" =
        .ok { report := some "a\r=b", unknownKeys := ["", "font-size"] } ∧
      IsValue "v=w" ∧
      ofText ("error-log = error.log\ndebug-log = debug.log\nreport = a\r=b\nsymbol = LINKER_SCRIPT\n" ++
        " = v=w\nfont-size = v=w\n") = .ok { report := some "a\r=b", unknownKeys := ["", "font-size"] } := by
  have accepted : ofText "report=a\r=b\r # c\n= x\r\n font-size=2.5" =
      .ok { report := some "a\r=b", unknownKeys := ["", "font-size"] } := by decide
  have isValue : IsValue "v=w" := by decide
  exact ⟨accepted, isValue, ((read_again_as_written _ _ accepted).2 _ isValue).1⟩

end MembershipGrid.Settings
