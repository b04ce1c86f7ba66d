import MembershipGrid.Proofs.Lemmas.Lines
import MembershipGrid.Proofs.Lemmas.SettingLines
import Mathlib.Data.List.Forall2
import Mathlib.Logic.Relation

/-!
# Layout of settings

The settings in a text do not depend on how it is laid out: on white space around keys and values, on
comments, and on how its lines end. A line without an assignment may be put anywhere; all it does is to
move the numbers of the lines after it.
-/

namespace MembershipGrid.Settings

open Text (Blank Trims)

/-! ## Rows, and changes to them -/

/-- What stands between two newlines. -/
abbrev Row := {line : List Char // '\n' ∉ line}

def ofRows (rows : List Row) : String := String.ofList (['\n'].intercalate (rows.map Subtype.val))

/-- A change to a line that carries no meaning. -/
inductive Edit : List Char → List Char → Prop
  /-- White space at the ends of what stands before the comment. -/
  | ends {front comment before after : List Char} :
      '#' ∉ front → Comment comment → Blank before → Blank after →
      Edit (front ++ comment) (before ++ front ++ after ++ comment)
  /-- White space on either side of the first equals sign. -/
  | sign {left right comment before after : List Char} :
      '#' ∉ left → '=' ∉ left → '#' ∉ right → Comment comment → Blank before → Blank after →
      Edit (left ++ '=' :: right ++ comment) (left ++ before ++ '=' :: (after ++ right) ++ comment)
  /-- Another comment, one more or one less. -/
  | comment {front comment other : List Char} :
      '#' ∉ front → Comment comment → Comment other → Edit (front ++ comment) (front ++ other)
  /-- A carriage return before the newline. -/
  | ending {line : List Char} : Edit line (line ++ ['\r'])

/-- A line of white space, or with nothing before its comment but that. -/
inductive Idle : List Char → Prop
  | intro {front comment : List Char} : Blank front → Comment comment → Idle (front ++ comment)

/-- A row of two texts of which one has more rows than the other. -/
inductive Entry where
  | both (row : Row)
  | extra (row : Row)

def Entry.row : Entry → Row
  | .both row | .extra row => row

def Entry.shared? : Entry → Option Row
  | .both row => some row
  | .extra _ => none

def Entry.isExtra : Entry → Bool
  | .both _ => false
  | .extra _ => true

/-- The rows of the shorter text. -/
def shorter (entries : List Entry) : List Row := entries.filterMap Entry.shared?

/-- The rows of the longer text. -/
def longer (entries : List Entry) : List Row := entries.map Entry.row

def Defect.line : Defect → Nat
  | .noAssignment line _ | .noValue line _ => line

/-- The same defect some lines further down. -/
def Defect.moved (count : Nat) : Defect → Defect
  | .noAssignment line text => .noAssignment (line + count) text
  | .noValue line key => .noValue (line + count) key

variable {line line' : List Char} {number : Nat} {s : Settings}
  {rows rows' : List Row} {entries : List Entry} {defect : Defect}

/-! ## One line -/

theorem Idle.hasBody (h : Idle line) : HasBody line [] := by
  cases h with
  | intro hf hc => exact .intro (hf.not_mem (by decide)) hc hf.trims

/-- A carriage return at the end of a line is white space before its end, or a part of its comment. -/
theorem HasBody.ending {b : List Char} (h : HasBody line b) : HasBody (line ++ ['\r']) b := by
  cases h with
  | @intro front _ _ hf hc ht =>
      cases hc with
      | none =>
          have longer : HasBody (front ++ ['\r'] ++ []) b :=
            .intro (List.not_mem_append hf (by decide)) .none (ht.pad Text.blank_nil (by decide))
          rwa [List.append_nil] at longer ⊢
      | hash text =>
          have longer : HasBody (front ++ '#' :: (text ++ ['\r'])) b := .intro hf (.hash _) ht
          rwa [← List.cons_append, ← List.append_assoc] at longer

theorem Edit.readLine_eq (h : Edit line line') (number : Nat) :
    readLine number line = readLine number line' := by
  cases h with
  | @ends front _ before after hf hc hb ha =>
      have trims := Text.trims_trim front
      have hf' : '#' ∉ before ++ front ++ after :=
        List.not_mem_append (List.not_mem_append (hb.not_mem (by decide)) hf) (ha.not_mem (by decide))
      apply readLine_congr
      rw [(HasBody.intro hf hc trims).body_eq, (HasBody.intro hf' hc (trims.pad hb ha)).body_eq]
  | @sign left right _ before after hl sign hr hc hb ha =>
      have hk := Text.trims_trim left
      have hv := Text.trims_trim right
      have hk' : Trims (left ++ before) (Text.trim left) := hk.pad Text.blank_nil hb
      have hv' : Trims (after ++ right) (Text.trim right) := by
        have padded := hv.pad ha Text.blank_nil
        rwa [List.append_nil] at padded
      have hl' : '#' ∉ left ++ before :=
        List.not_mem_append hl (hb.not_mem (by decide))
      have sign' : '=' ∉ left ++ before :=
        List.not_mem_append sign (hb.not_mem (by decide))
      have hr' : '#' ∉ after ++ right :=
        List.not_mem_append (ha.not_mem (by decide)) hr
      rw [readLine_of_assigns (assigns_of_sides hl sign hr hc hk hv),
        readLine_of_assigns (assigns_of_sides hl' sign' hr' hc hk' hv')]
  | @comment front _ _ hf hc ho =>
      have trims := Text.trims_trim front
      apply readLine_congr
      rw [(HasBody.intro hf hc trims).body_eq, (HasBody.intro hf ho trims).body_eq]
  | ending => exact readLine_congr (hasBody_body line).ending.body_eq.symm number

theorem readLine_eq_of_edits (h : Relation.EqvGen Edit line line') (number : Nat) :
    readLine number line = readLine number line' := by
  induction h with
  | rel _ _ edit => exact edit.readLine_eq number
  | refl => rfl
  | symm _ _ _ ih => exact ih.symm
  | trans _ _ _ _ _ ih ih' => exact ih.trans ih'

theorem readLine_add (number count : Nat) (line : List Char) :
    readLine (number + count) line = (readLine number line).mapError (Defect.moved count) := by
  rw [readLine, readLine]
  split_ifs <;> rfl

theorem line_of_readLine (h : readLine number line = .error defect) : defect.line = number := by
  have reads := reads_readLine number line
  rw [h] at reads
  cases reads <;> rfl

/-! ## All lines -/

theorem assignLines_congr {rest rest' : List (List Char)} (h : readLine number line = readLine number line')
    (hr : ∀ s, assignLines s (number + 1) rest = assignLines s (number + 1) rest') :
    assignLines s number (line :: rest) = assignLines s number (line' :: rest') := by
  cases said : readLine number line with
  | error defect => rw [assignLines_of_error said, assignLines_of_error (h ▸ said)]
  | ok assigned => rw [assignLines_of_ok said, assignLines_of_ok (h ▸ said), hr]

theorem assignLines_lines (s : Settings) (number : Nat) (rows : List Row) :
    assignLines s number (Text.lines (['\n'].intercalate (rows.map Subtype.val))) =
      assignLines s number (rows.map Subtype.val) := by
  induction rows generalizing s number with
  | nil => rfl
  | cons row rest ih =>
      obtain ⟨line, unbroken⟩ := row
      cases rest with
      | nil =>
          by_cases empty : line = []
          · subst empty
            rfl
          · rw [List.map_singleton, List.intercalate_singleton, Text.lines_unended empty unbroken]
      | cons next rest =>
          have joined : ['\n'].intercalate ((⟨line, unbroken⟩ :: next :: rest : List Row).map Subtype.val) =
              line ++ '\n' :: ['\n'].intercalate ((next :: rest).map Subtype.val) := by
            simp
          rw [joined, List.map_cons]
          by_cases returns : ∃ front, line = front ++ ['\r']
          · obtain ⟨front, rfl⟩ := returns
            have unbroken' : '\n' ∉ front := fun hm => unbroken (List.mem_append_left _ hm)
            rw [List.append_assoc, List.singleton_append, Text.lines_returnNewline unbroken']
            exact assignLines_congr (Edit.ending.readLine_eq number) fun s => ih s _
          · rw [Text.lines_newline unbroken (not_exists.mp returns)]
            exact assignLines_congr rfl fun s => ih s _

theorem ofText_ofRows (rows : List Row) :
    ofText (ofRows rows) = assignLines {} 1 (rows.map Subtype.val) := by
  rw [ofText, ofRows, String.toList_ofList, assignLines_lines]

theorem exists_rows (text : String) : ∃ rows, ofRows rows = text := by
  suffices h : ∀ cs : List Char, ∃ row rows,
      ['\n'].intercalate ((row :: rows : List Row).map Subtype.val) = cs by
    obtain ⟨row, rows, joined⟩ := h text.toList
    exact ⟨row :: rows, by rw [ofRows, joined, String.ofList_toList]⟩
  intro cs
  induction cs with
  | nil => exact ⟨⟨[], by decide⟩, [], rfl⟩
  | cons c cs ih =>
      obtain ⟨⟨line, unbroken⟩, rows, rfl⟩ := ih
      by_cases newline : c = '\n'
      · subst newline
        exact ⟨⟨[], by decide⟩, ⟨line, unbroken⟩ :: rows, by simp⟩
      · have unbroken' : '\n' ∉ c :: line := by simp [unbroken, Ne.symm newline]
        exact ⟨⟨c :: line, unbroken'⟩, rows, by cases rows <;> simp⟩

theorem assignLines_of_edits (h : List.Forall₂ (fun a b => Relation.EqvGen Edit a.1 b.1) rows rows') :
    assignLines s number (rows.map Subtype.val) = assignLines s number (rows'.map Subtype.val) := by
  induction h generalizing s number with
  | nil => rfl
  | cons edits _ ih => exact assignLines_congr (readLine_eq_of_edits edits number) fun _ => ih

/-- Extra rows are skipped, so the two texts come to the same, or fail at the same row. The reader of the
longer text has met `count` extra rows before. -/
theorem assignLines_entries (idle : ∀ row, .extra row ∈ entries → Idle row.1) (s : Settings)
    (number count : Nat) :
    (∃ t, assignLines s number ((shorter entries).map Subtype.val) = .ok t ∧
      assignLines s (number + count) ((longer entries).map Subtype.val) = .ok t) ∨
    ∃ front row back defect, entries = front ++ .both row :: back ∧
      defect.line = number + (shorter front).length ∧
      assignLines s number ((shorter entries).map Subtype.val) = .error defect ∧
      assignLines s (number + count) ((longer entries).map Subtype.val) =
        .error (defect.moved (count + front.countP Entry.isExtra)) := by
  induction entries generalizing s number count with
  | nil => exact .inl ⟨s, rfl, rfl⟩
  | cons entry rest ih =>
      have idle' : ∀ row, .extra row ∈ rest → Idle row.1 := fun row hm => idle row (.tail _ hm)
      cases entry with
      | extra row =>
          have skipped := readLine_of_nil (idle row (.head _)).hasBody (number + count)
          have longer_eq : assignLines s (number + count) ((longer (.extra row :: rest)).map Subtype.val) =
              assignLines s (number + (count + 1)) ((longer rest).map Subtype.val) :=
            assignLines_of_ok skipped
          rw [longer_eq]
          obtain same | ⟨front, row', back, defect, rfl, line, fails, fails'⟩ := ih idle' s number (count + 1)
          · exact .inl same
          · refine .inr ⟨.extra row :: front, row', back, defect, rfl, line, fails, ?_⟩
            rw [fails', List.countP_cons_of_pos rfl, Nat.add_right_comm, Nat.add_assoc]
      | both row =>
          have moved := readLine_add number count row.1
          cases said : readLine number row.1 with
          | error defect =>
              rw [said] at moved
              exact .inr ⟨[], row, rest, defect, rfl, line_of_readLine said, assignLines_of_error said,
                assignLines_of_error moved⟩
          | ok assigned =>
              rw [said] at moved
              have shorter_eq :
                  assignLines s number (row.1 :: (shorter rest).map Subtype.val) = _ := assignLines_of_ok said
              have longer_eq :
                  assignLines s (number + count) (row.1 :: (longer rest).map Subtype.val) = _ :=
                assignLines_of_ok moved
              rw [Nat.add_right_comm] at longer_eq
              obtain ⟨t, ends, ends'⟩ | ⟨front, row', back, defect, rfl, line, fails, fails'⟩ :=
                ih idle' (assigned.elim s fun a => s.assign a.1 a.2) (number + 1) count
              · exact .inl ⟨t, shorter_eq.trans ends, longer_eq.trans ends'⟩
              · refine .inr ⟨.both row :: front, row', back, defect, rfl, ?_, shorter_eq.trans fails, ?_⟩
                · have one_more : (shorter (.both row :: front)).length = (shorter front).length + 1 := rfl
                  omega
                · rw [List.countP_cons_of_neg (by simp [Entry.isExtra])]
                  exact longer_eq.trans fails'

/-- The layout of settings carries no meaning. White space, comments and carriage returns at ends of lines
change nothing; an idle line may come or go, and changes nothing but the number of a line with a defect, by
the number of such lines before it. -/
theorem layout_carries_no_meaning :
    (∀ text, ∃ rows, ofRows rows = text) ∧
    (∀ rows rows', List.Forall₂ (fun a b => Relation.EqvGen Edit a.1 b.1) rows rows' →
      ofText (ofRows rows) = ofText (ofRows rows')) ∧
    (∀ entries, (∀ row, .extra row ∈ entries → Idle row.1) →
      (∃ s, ofText (ofRows (shorter entries)) = .ok s ∧ ofText (ofRows (longer entries)) = .ok s) ∨
      ∃ front row back defect, entries = front ++ .both row :: back ∧
        defect.line = (shorter front).length + 1 ∧
        ofText (ofRows (shorter entries)) = .error defect ∧
        ofText (ofRows (longer entries)) = .error (defect.moved (front.countP Entry.isExtra))) := by
  refine ⟨exists_rows, fun rows rows' edits => ?_, fun entries idle => ?_⟩
  · rw [ofText_ofRows, ofText_ofRows, assignLines_of_edits edits]
  · rw [ofText_ofRows, ofText_ofRows]
    obtain same | ⟨front, row, back, defect, split, line, fails, fails'⟩ := assignLines_entries idle {} 1 0
    · exact .inl same
    · rw [Nat.zero_add] at fails'
      exact .inr ⟨front, row, back, defect, split, line.trans (Nat.add_comm ..), fails, fails'⟩

theorem layout_carries_no_meaning_report :
    ofText "report=a=b#c\n#" = ofText "report=\ta=b\r\n#" ∧
      ofText "report=a=b#c\n#" = .ok { report := some "a=b" } ∧
      ∃ defect, ofText "\nsymbol" = .error defect ∧
        ofText " # symbol\n\nsymbol" = .error (defect.moved 1) := by
  have sign : Edit "report=a=b#c".toList "report=\ta=b#c".toList :=
    @Edit.sign "report".toList "a=b".toList ['#', 'c'] [] ['\t']
      (by decide) (by decide) (by decide) (.hash ['c']) (by decide) (by decide)
  have comment : Edit "report=\ta=b#c".toList "report=\ta=b".toList :=
    @Edit.comment "report=\ta=b".toList ['#', 'c'] [] (by decide) (.hash ['c']) .none
  have ending : Edit "report=\ta=b".toList "report=\ta=b\r".toList := .ending
  have edits := ((Relation.EqvGen.rel _ _ sign).trans _ _ _ (.rel _ _ comment)).trans _ _ _ (.rel _ _ ending)
  have idle : Idle " # symbol".toList := @Idle.intro [' '] _ (by decide) (.hash " symbol".toList)
  refine ⟨?_, by decide, ?_⟩
  · exact layout_carries_no_meaning.2.1 [⟨"report=a=b#c".toList, by decide⟩, ⟨"#".toList, by decide⟩]
      [⟨"report=\ta=b\r".toList, by decide⟩, ⟨"#".toList, by decide⟩] (.cons edits (.cons (.refl _) .nil))
  · have fails : ofText "\nsymbol" = .error (.noAssignment 2 "symbol") := by decide
    have fails' : ofText " # symbol\n\nsymbol" = .error (.noAssignment 3 "symbol") := by decide
    obtain ⟨s, ends, -⟩ | ⟨front, _, _, defect, -, -, stops, stops'⟩ :=
      layout_carries_no_meaning.2.2 [.extra ⟨" # symbol".toList, by decide⟩, .both ⟨[], by decide⟩,
        .both ⟨"symbol".toList, by decide⟩] (by simpa using idle)
    · cases ends.symm.trans fails
    · cases stops.symm.trans fails
      have count : 2 + front.countP Entry.isExtra = 3 := by
        have same := stops'.symm.trans fails'
        injection same with same
        injection same
      have one : front.countP Entry.isExtra = 1 := by omega
      rw [one] at stops'
      exact ⟨_, stops, stops'⟩

end MembershipGrid.Settings
