import MembershipGrid.Text.Lines
import Mathlib.Data.List.Basic
import Mathlib.Data.Nat.Find
import Mathlib.Order.Bounds.Basic

/-!
# Lines

How a text falls into lines, said without the reader (`FallsInto`), and the laws of `lines` that the
readers of texts rest on: where a text is cut, and which texts are put together again from their
lines.
-/

namespace MembershipGrid.Text

/-- How a text falls into lines. A line ends at a newline, and one carriage return right before that
newline is no part of it; what follows the last newline is a line unless it is empty. -/
inductive FallsInto : List Char → List (List Char) → Prop
  | nothing : FallsInto [] []
  | unended {line : List Char} : line ≠ [] → '\n' ∉ line → FallsInto line [line]
  | newline {line rest : List Char} {ls : List (List Char)} :
      '\n' ∉ line → (∀ front, line ≠ front ++ ['\r']) → FallsInto rest ls →
      FallsInto (line ++ '\n' :: rest) (line :: ls)
  | returnNewline {line rest : List Char} {ls : List (List Char)} :
      '\n' ∉ line → FallsInto rest ls → FallsInto (line ++ '\r' :: '\n' :: rest) (line :: ls)

def unlines (ls : List (List Char)) : List Char := ls.flatMap (· ++ ['\n'])

/-- The character in a line and a column, both counted from zero. -/
def charAt? (ls : List (List Char)) (line column : Nat) : Option Char := ls[line]?.bind (·[column]?)

/-- The first of some lines with a property is at a certain index. -/
def FirstAt (p : List Char → Prop) (ls : List (List Char)) (k : Nat) : Prop :=
  IsLeast {n | ∃ line ∈ ls[n]?, p line} k

variable {line text rest : List Char} {ls : List (List Char)}

/-! ## Where a text is cut -/

theorem linesFrom_append (h : '\n' ∉ line) (done rest : List Char) :
    linesFrom done (line ++ rest) = linesFrom (line.reverse ++ done) rest := by
  induction line generalizing done with
  | nil => rfl
  | cons c line ih =>
      simp only [List.mem_cons, not_or] at h
      have step : linesFrom done (c :: (line ++ rest)) = linesFrom (c :: done) (line ++ rest) := by
        rw [linesFrom]
        exact fun e => h.1 e.symm
      rw [List.cons_append, step, ih h.2, List.reverse_cons, List.append_assoc]
      rfl

theorem dropReturn_of_ne {done : List Char} (h : ∀ front, done ≠ '\r' :: front) :
    dropReturn done = done := by
  unfold dropReturn
  split
  · exact absurd rfl (h _)
  · rfl

theorem lines_unended (hne : line ≠ []) (h : '\n' ∉ line) : lines line = [line] := by
  have cut := linesFrom_append h [] []
  rw [List.append_nil, List.append_nil] at cut
  rw [lines, cut, linesFrom, if_neg (by simpa using hne), List.reverse_reverse]

theorem lines_newline (h : '\n' ∉ line) (hr : ∀ front, line ≠ front ++ ['\r']) :
    lines (line ++ '\n' :: rest) = line :: lines rest := by
  have hr' : ∀ front, line.reverse ≠ '\r' :: front := by
    intro front e
    exact hr front.reverse (by rw [← List.reverse_reverse line, e, List.reverse_cons])
  rw [lines, linesFrom_append h, List.append_nil, linesFrom, dropReturn_of_ne hr',
    List.reverse_reverse, lines]

theorem lines_returnNewline (h : '\n' ∉ line) :
    lines (line ++ '\r' :: '\n' :: rest) = line :: lines rest := by
  have h' : '\n' ∉ line ++ ['\r'] := by simpa using h
  rw [List.append_cons line, lines, linesFrom_append h', List.append_nil, linesFrom,
    List.reverse_append]
  simp only [List.reverse_cons, List.reverse_nil, List.nil_append, List.cons_append, dropReturn,
    List.reverse_reverse, lines]

/-! ## The reader and the relation agree -/

theorem FallsInto.lines_eq (h : FallsInto text ls) : lines text = ls := by
  induction h with
  | nothing => rfl
  | unended hne hl => exact lines_unended hne hl
  | newline hl hr _ ih => rw [lines_newline hl hr, ih]
  | returnNewline hl _ ih => rw [lines_returnNewline hl, ih]

theorem FallsInto.exists (text : List Char) : ∃ ls, FallsInto text ls := by
  by_cases h : '\n' ∈ text
  · obtain ⟨line, rest, rfl, hl⟩ := List.eq_append_cons_of_mem h
    obtain ⟨ls, hls⟩ := FallsInto.exists rest
    by_cases hr : ∃ front, line = front ++ ['\r']
    · obtain ⟨front, rfl⟩ := hr
      rw [List.append_assoc]
      exact ⟨_, .returnNewline (by simpa using hl) hls⟩
    · exact ⟨_, .newline hl (not_exists.mp hr) hls⟩
  · by_cases hne : text = []
    · subst hne
      exact ⟨_, .nothing⟩
    · exact ⟨_, .unended hne h⟩
termination_by text.length
decreasing_by simp [*]; omega

theorem fallsInto_lines (text : List Char) : FallsInto text (lines text) := by
  obtain ⟨ls, h⟩ := FallsInto.exists text
  rwa [h.lines_eq]

theorem fallsInto_iff : FallsInto text ls ↔ ls = lines text := by
  constructor
  · intro h
    exact h.lines_eq.symm
  · rintro rfl
    exact fallsInto_lines text

theorem FallsInto.not_newline (h : FallsInto text ls) (hl : line ∈ ls) : '\n' ∉ line := by
  induction h with
  | nothing => cases hl
  | unended _ hn => rwa [List.mem_singleton.mp hl]
  | newline hn _ _ ih | returnNewline hn _ ih =>
      rcases List.mem_cons.mp hl with rfl | later
      · exact hn
      · exact ih later

theorem getLast?_append_cons (hne : rest ≠ []) (front : List Char) (c : Char) :
    (front ++ c :: rest).getLast? = rest.getLast? := by
  rw [List.getLast?_append_of_ne_nil _ (List.cons_ne_nil c rest), List.getLast?_cons_of_ne_nil hne]

theorem FallsInto.append {text' : List Char} {ls' : List (List Char)} (h : FallsInto text ls)
    (ended : text ≠ [] → text.getLast? = some '\n') (h' : FallsInto text' ls') :
    FallsInto (text ++ text') (ls ++ ls') := by
  induction h with
  | nothing => exact h'
  | unended hne hl => exact absurd (List.mem_of_getLast? (ended hne)) hl
  | @newline line rest _ hl hr _ ih =>
      rw [List.append_assoc]
      refine .newline hl hr (ih fun hne => ?_)
      rw [← getLast?_append_cons hne line '\n']
      exact ended (by simp)
  | @returnNewline line rest _ hl _ ih =>
      rw [List.append_assoc]
      refine .returnNewline hl (ih fun hne => ?_)
      rw [← getLast?_append_cons hne (line ++ ['\r']) '\n', ← List.append_cons]
      exact ended (by simp)

theorem lines_eq_nil_iff : lines text = [] ↔ text = [] := by
  refine ⟨fun none => ?_, fun h => by rw [h]; rfl⟩
  have hf := fallsInto_lines text
  rw [none] at hf
  cases hf
  rfl

theorem exists_lines_cons {c : Char} (newline : c ≠ '\n') (return' : c ≠ '\r') (text : List Char) :
    ∃ line below, lines (c :: text) = (c :: line) :: below := by
  have falls := fallsInto_lines (c :: text)
  generalize whole : c :: text = all at falls
  generalize lines all = ls at falls
  cases falls with
  | nothing => cases whole
  | unended => exact ⟨text, [], by rw [whole]⟩
  | @newline line rest ls =>
      cases line with
      | nil => exact absurd (List.cons.inj whole).1 newline
      | cons d line =>
          obtain rfl := (List.cons.inj whole).1
          exact ⟨line, ls, rfl⟩
  | @returnNewline line rest ls =>
      cases line with
      | nil => exact absurd (List.cons.inj whole).1 return'
      | cons d line =>
          obtain rfl := (List.cons.inj whole).1
          exact ⟨line, ls, rfl⟩

/-! ## The first line of a kind -/

theorem firstAt_iff {p : List Char → Prop} {k : Nat} :
    FirstAt p ls k ↔
      ∃ above line below, ls = above ++ line :: below ∧ above.length = k ∧ p line ∧ ∀ l ∈ above, ¬p l := by
  constructor
  · rintro ⟨⟨line, here, kind⟩, least⟩
    obtain ⟨hk, rfl⟩ := List.getElem?_eq_some_iff.mp here
    refine ⟨ls.take k, ls[k], ls.drop (k + 1), ?_, List.length_take_of_le hk.le, kind, fun l hl other => ?_⟩
    · rw [← List.drop_eq_getElem_cons hk, List.take_append_drop]
    · obtain ⟨n, hn, rfl⟩ := List.mem_take_iff_getElem.mp hl
      have early : n < k := by omega
      exact absurd (least ⟨_, List.getElem?_eq_getElem (early.trans hk), other⟩) early.not_ge
  · rintro ⟨above, line, below, rfl, rfl, kind, others⟩
    refine ⟨⟨line, by simp, kind⟩, ?_⟩
    rintro n ⟨l, hl, other⟩
    by_contra early
    rw [List.getElem?_append_left (by omega)] at hl
    exact others l (List.mem_of_getElem? hl) other

theorem exists_firstAt {p : List Char → Prop} (hl : line ∈ ls) (kind : p line) : ∃ k, FirstAt p ls k := by
  classical
  obtain ⟨n, hn, rfl⟩ := List.mem_iff_getElem.mp hl
  have found : ∃ n, ∃ line ∈ ls[n]?, p line := ⟨n, _, List.getElem?_eq_getElem hn, kind⟩
  exact ⟨Nat.find found, Nat.find_spec found, fun _ h => Nat.find_min' found h⟩

theorem exists_split_of_take {ls' above below : List (List Char)} (split : ls = above ++ line :: below)
    (agree : ls'.take (above.length + 1) = ls.take (above.length + 1)) : ∃ more, ls' = above ++ line :: more := by
  have start : ls.take (above.length + 1) = above ++ [line] := by
    rw [split, List.append_cons]
    exact List.take_left' List.length_append
  refine ⟨ls'.drop (above.length + 1), ?_⟩
  rw [List.append_cons, ← start, ← agree, List.take_append_drop]

/-! ## Texts put together from lines -/

theorem lines_unlines_of_unreturned (h : ∀ l ∈ ls, '\n' ∉ l ∧ ∀ front, l ≠ front ++ ['\r']) :
    lines (unlines ls) = ls := by
  induction ls with
  | nil => rfl
  | cons l ls ih =>
      obtain ⟨hn, hr⟩ := h l List.mem_cons_self
      have joined : unlines (l :: ls) = l ++ '\n' :: unlines ls := by simp [unlines]
      rw [joined, lines_newline hn hr, ih fun l' hl' => h l' (List.mem_cons_of_mem _ hl')]

theorem lines_unlines (h : ∀ l ∈ ls, '\n' ∉ l ∧ '\r' ∉ l) : lines (unlines ls) = ls := by
  refine lines_unlines_of_unreturned fun l hl => ⟨(h l hl).1, ?_⟩
  rintro front rfl
  exact (h _ hl).2 (by simp)

theorem unlines_lines (hr : '\r' ∉ text) (hn : text ≠ [] → text.getLast? = some '\n') :
    unlines (lines text) = text := by
  have hf := fallsInto_lines text
  generalize lines text = ls at hf
  induction hf with
  | nothing => rfl
  | unended hne hl => exact absurd (List.mem_of_getLast? (hn hne)) hl
  | @newline line rest ls hl _ _ ih =>
      have hr' : '\r' ∉ rest := fun m => hr (by simp [m])
      have hn' : rest ≠ [] → rest.getLast? = some '\n' := by
        intro hne
        rw [← getLast?_append_cons hne line '\n']
        exact hn (by simp)
      simp only [unlines, List.flatMap_cons, List.append_assoc, List.singleton_append]
      rw [← unlines, ih hr' hn']
  | returnNewline _ _ _ => exact absurd (by simp) hr

theorem getLast?_unlines (hne : ls ≠ []) : (unlines ls).getLast? = some '\n' := by
  rw [← List.dropLast_append_getLast hne]
  simp [unlines]

end MembershipGrid.Text
