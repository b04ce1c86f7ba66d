import MembershipGrid.Proofs.GridTexts

/-!
# How lines end

Whether a line of a grid ends in a newline alone or in a carriage return and a newline makes no difference,
and the last line may end without either. A carriage return in any other place is part of a line, where no
symbol is written like that.
-/

namespace MembershipGrid

namespace Text

/-- A text with a carriage return put before those of its newlines whose positions are chosen. The first
character has a given position. -/
def withReturns (chosen : Nat → Bool) : (position : Nat) → List Char → List Char
  | _, [] => []
  | position, c :: rest =>
    if c = '\n' ∧ chosen position then '\r' :: c :: withReturns chosen (position + 1) rest
    else c :: withReturns chosen (position + 1) rest

variable {text line rest front back : List Char} {ls : List (List Char)}

/-! ## Carriage returns before newlines -/

theorem withReturns_append (h : '\n' ∉ line) (chosen : Nat → Bool) (position : Nat) (rest : List Char) :
    withReturns chosen position (line ++ rest) = line ++ withReturns chosen (position + line.length) rest := by
  induction line generalizing position with
  | nil => rfl
  | cons c line ih =>
      simp only [List.mem_cons, not_or] at h
      rw [List.cons_append, withReturns, if_neg fun newline => h.1 newline.1.symm, ih h.2, List.cons_append,
        List.length_cons, Nat.add_assoc, Nat.add_comm 1]

theorem FallsInto.withReturns (h : FallsInto text ls) (bare : ¬['\r', '\n'] <:+: text) (chosen : Nat → Bool)
    (position : Nat) : FallsInto (withReturns chosen position text) ls := by
  induction h generalizing position with
  | nothing => exact .nothing
  | @unended line hne hn =>
      have same := withReturns_append hn chosen position []
      rw [List.append_nil] at same
      rw [same]
      simpa [Text.withReturns] using FallsInto.unended hne hn
  | @newline line rest ls hn hr _ ih =>
      have bare' : ¬['\r', '\n'] <:+: rest := fun later =>
        bare (later.trans ⟨line ++ ['\n'], [], by simp⟩)
      rw [withReturns_append hn, Text.withReturns]
      split
      · exact .returnNewline hn (ih bare' _)
      · exact .newline hn hr (ih bare' _)
  | @returnNewline line rest _ _ _ _ => exact absurd ⟨line, rest, by simp⟩ bare

/-! ## The end of the last line -/

theorem getLast?_of_unended (h : (front ++ '\n' :: rest).getLast? ≠ some '\n') :
    rest ≠ [] ∧ (front ++ '\n' :: rest).getLast? = rest.getLast? := by
  have later : rest ≠ [] := by
    rintro rfl
    exact h List.getLast?_concat
  exact ⟨later, getLast?_append_cons later front '\n'⟩

theorem FallsInto.ended (h : FallsInto text ls) (hne : text ≠ []) (hn : text.getLast? ≠ some '\n')
    (hr : text.getLast? ≠ some '\r') :
    FallsInto (text ++ ['\n']) ls ∧ FallsInto (text ++ ['\r', '\n']) ls := by
  induction h with
  | nothing => exact absurd rfl hne
  | @unended line _ unbroken =>
      have unreturned : ∀ front, line ≠ front ++ ['\r'] := by
        rintro front rfl
        exact hr List.getLast?_concat
      exact ⟨.newline unbroken unreturned .nothing, .returnNewline unbroken .nothing⟩
  | @newline line rest _ unbroken unreturned _ ih =>
      obtain ⟨later, last⟩ := getLast?_of_unended hn
      rw [last] at hn hr
      obtain ⟨one, two⟩ := ih later hn hr
      rw [List.append_assoc, List.append_assoc]
      exact ⟨.newline unbroken unreturned one, .newline unbroken unreturned two⟩
  | @returnNewline line rest _ unbroken _ ih =>
      rw [List.append_cons line] at hn hr
      obtain ⟨later, last⟩ := getLast?_of_unended hn
      rw [last] at hn hr
      obtain ⟨one, two⟩ := ih later hn hr
      rw [List.append_assoc, List.append_assoc]
      exact ⟨.returnNewline unbroken one, .returnNewline unbroken two⟩

/-! ## Other carriage returns -/

theorem exists_split (h : '\r' ∉ line) (same : line ++ rest = front ++ '\r' :: back) :
    ∃ between, front = line ++ between ∧ rest = between ++ '\r' :: back := by
  rcases List.append_eq_append_iff.mp same with ⟨between, hf, hr⟩ | ⟨between, hl, hb⟩
  · exact ⟨between, hf, hr⟩
  · cases between with
    | nil =>
        rw [List.append_nil] at hl
        exact ⟨[], by rw [hl, List.append_nil], hb.symm⟩
    | cons c between =>
        obtain ⟨rfl, -⟩ := List.cons.inj hb
        exact absurd (hl ▸ by simp) h

/-- A carriage return that is in no line stands right before a newline. -/
theorem FallsInto.head?_of_split (h : FallsInto text ls) (clean : ∀ line ∈ ls, '\r' ∉ line)
    (split : text = front ++ '\r' :: back) : back.head? = some '\n' := by
  induction h generalizing front with
  | nothing => simp at split
  | unended _ _ => exact absurd (split ▸ by simp) (clean _ List.mem_cons_self)
  | newline _ _ _ ih =>
      obtain ⟨clean_line, clean_rest⟩ := List.forall_mem_cons.mp clean
      obtain ⟨between, -, after⟩ := exists_split clean_line split
      cases between with
      | nil => cases after
      | cons c between => exact ih clean_rest (List.cons.inj after).2
  | returnNewline _ _ ih =>
      obtain ⟨clean_line, clean_rest⟩ := List.forall_mem_cons.mp clean
      obtain ⟨between, -, after⟩ := exists_split clean_line split
      match between with
      | [] =>
          cases after
          rfl
      | [c] => cases after
      | _ :: _ :: between => exact ih clean_rest (List.cons.inj (List.cons.inj after).2).2

end Text

/-! ## Grids -/

namespace Grid

theorem ofText_congr {s t : String} (h : Text.lines s.toList = Text.lines t.toList) : ofText s = ofText t := by
  rw [ofText, ofText, h]

theorem ofText_of_stray {text : String} {front back : List Char} (split : text.toList = front ++ '\r' :: back)
    (stray : back.head? ≠ some '\n') : ∃ e, ofText text = .error e := by
  cases read : ofText text with
  | error e => exact ⟨e, rfl⟩
  | ok g =>
      refine absurd ((Text.fallsInto_lines _).head?_of_split ?_ split) stray
      intro line hl hr
      rw [ofText_eq_ok_iff.mp read] at hl
      rcases symbol_of_mem_rowTexts hl hr with e | e <;> cases e

/-- Carriage returns before newlines and the end of the last line change nothing, neither the grid nor the
error. With a carriage return in any other place there is no grid. -/
theorem line_endings_carry_no_meaning :
    (∀ (text : String) (chosen : Nat → Bool), ¬['\r', '\n'] <:+: text.toList →
      ofText (String.ofList (Text.withReturns chosen 0 text.toList)) = ofText text) ∧
    (∀ (text : String) (last : Char), text.toList.getLast? = some last → last ≠ '\n' → last ≠ '\r' →
      ofText (text ++ "\n") = ofText text ∧ ofText (text ++ "\r\n") = ofText text) ∧
    ∀ (text : String) (front back : List Char), text.toList = front ++ '\r' :: back →
      back.head? ≠ some '\n' → ∃ e, ofText text = .error e := by
  refine ⟨fun text chosen bare => ?_, fun text last hl hn hr => ?_, fun text front back => ofText_of_stray⟩
  · apply ofText_congr
    rw [String.toList_ofList]
    exact ((Text.fallsInto_lines _).withReturns bare chosen 0).lines_eq
  · have nonempty : text.toList ≠ [] := by
      intro empty
      rw [empty] at hl
      cases hl
    obtain ⟨one, two⟩ := (Text.fallsInto_lines text.toList).ended nonempty
      (fun e => hn (Option.some.inj (hl.symm.trans e))) (fun e => hr (Option.some.inj (hl.symm.trans e)))
    constructor
    · apply ofText_congr
      rw [String.toList_append]
      exact one.lines_eq
    · apply ofText_congr
      rw [String.toList_append]
      exact two.lines_eq

theorem line_endings_carry_no_meaning_diagonal :
    (¬['\r', '\n'] <:+: "x.\n.x\nxo".toList ∧ ofText "x.\n.x\r\nxo" = ofText "x.\n.x\nxo") ∧
    (ofText "x.\n.x\n" = .ok diagonal ∧ ofText "x.\n.x\r\n" = .ok diagonal) ∧
    (∃ e, ofText "x.\r\r\n.x\n" = .error e) ∧ ∃ e, ofText "x.\n.x\r" = .error e := by
  obtain ⟨chosen, ended, stray⟩ := line_endings_carry_no_meaning
  refine ⟨?_, ?_, ?_, ?_⟩
  · have unreturned : '\r' ∉ "x.\n.x\nxo".toList := by decide
    have bare : ¬['\r', '\n'] <:+: "x.\n.x\nxo".toList := fun h => unreturned (h.subset List.mem_cons_self)
    have returned : String.ofList (Text.withReturns (· == 5) 0 "x.\n.x\nxo".toList) = "x.\n.x\r\nxo" := by
      decide
    have same := chosen "x.\n.x\nxo" (· == 5) bare
    rw [returned] at same
    exact ⟨bare, same⟩
  · have read : ofText "x.\n.x" = .ok diagonal := by decide
    obtain ⟨one, two⟩ := ended "x.\n.x" 'x' (by decide) (by decide) (by decide)
    exact ⟨one.trans read, two.trans read⟩
  · exact stray "x.\r\r\n.x\n" ['x', '.'] "\r\n.x\n".toList (by decide) (by decide)
  · exact stray "x.\n.x\r" "x.\n.x".toList [] (by decide) (by decide)

end Grid

end MembershipGrid
