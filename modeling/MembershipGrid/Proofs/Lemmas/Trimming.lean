import MembershipGrid.Text.Blank
import Mathlib.Data.List.DropRight

/-!
# White space at the ends of a text

What it is to remove the white space at both ends, said without the function (`Trims`), and the laws of
`trim` that the readers of lines rest on.
-/

namespace MembershipGrid.Text

/-- A text of nothing but white space. -/
def Blank (text : List Char) : Prop := ∀ c ∈ text, isBlank c

/-- A text that neither begins nor ends with white space. -/
@[mk_iff]
structure Trimmed (text : List Char) : Prop where
  first : ∀ c ∈ text.head?, isBlank c = false
  last : ∀ c ∈ text.getLast?, isBlank c = false

/-- What is left of a text when the white space at its ends is removed. -/
inductive Trims : List Char → List Char → Prop
  | intro {front core back : List Char} :
      Blank front → Blank back → Trimmed core → Trims (front ++ core ++ back) core

variable {text core front back : List Char}

/-! ## Blank texts -/

instance (text : List Char) : Decidable (Blank text) := List.decidableBAll (isBlank · = true) text

instance (c? : Option Char) : Decidable (∀ c ∈ c?, isBlank c = false) := Option.decidableForallMem c?

instance (text : List Char) : Decidable (Trimmed text) := decidable_of_iff' _ (trimmed_iff text)

theorem blank_nil : Blank [] := List.forall_mem_nil _

theorem Blank.append (hf : Blank front) (hb : Blank back) : Blank (front ++ back) :=
  List.forall_mem_append.mpr ⟨hf, hb⟩

theorem trimmed_nil : Trimmed [] := ⟨nofun, nofun⟩

theorem Blank.not_mem {c : Char} (h : Blank text) (hc : isBlank c = false) : c ∉ text :=
  fun hm => Bool.false_ne_true (hc.symm.trans (h c hm))

theorem Blank.trims (h : Blank text) : Trims text [] := by
  have whole : Trims (text ++ [] ++ []) [] := .intro h blank_nil trimmed_nil
  rwa [List.append_nil, List.append_nil] at whole

theorem Trims.blank (h : Trims text []) : Blank text := by
  cases h with
  | intro hf hb _ => exact (hf.append blank_nil).append hb

/-- White space that is put around a text is removed with the rest. -/
theorem Trims.pad (h : Trims text core) (hf : Blank front) (hb : Blank back) :
    Trims (front ++ text ++ back) core := by
  cases h with
  | @intro before _ after hf' hb' hc =>
      have padded : Trims ((front ++ before) ++ core ++ (after ++ back)) core :=
        .intro (hf.append hf') (hb'.append hb) hc
      simpa only [List.append_assoc] using padded

/-! ## The function and the relation agree -/

theorem trimStart_eq (hf : Blank front) (hc : ∀ c ∈ core.head?, isBlank c = false) (hne : core ≠ [])
    (back : List Char) : trimStart (front ++ core ++ back) = core ++ back := by
  obtain ⟨c, rest, rfl⟩ := List.exists_cons_of_ne_nil hne
  rw [trimStart, List.append_assoc, List.dropWhile_append_of_pos hf, List.cons_append,
    List.dropWhile_cons_of_neg (Bool.eq_false_iff.mp (hc c rfl))]

theorem trimEnd_eq (hb : Blank back) (hc : ∀ c ∈ core.getLast?, isBlank c = false) :
    trimEnd (core ++ back) = core := by
  have hb' : ∀ c ∈ back.reverse, isBlank c = true := fun c hm => hb c (List.mem_reverse.mp hm)
  rw [trimEnd, List.reverse_append, List.dropWhile_append_of_pos hb', List.reverse_eq_iff]
  rw [← List.head?_reverse] at hc
  cases hr : core.reverse with
  | nil => rfl
  | cons c rest =>
      rw [hr] at hc
      exact List.dropWhile_cons_of_neg (Bool.eq_false_iff.mp (hc c rfl))

theorem Trims.trim_eq (h : Trims text core) : trim text = core := by
  by_cases hne : core = []
  · subst hne
    rw [trim, trimStart, List.dropWhile_eq_nil_iff.mpr h.blank]
    rfl
  · cases h with
    | intro hf hb hc => rw [trim, trimStart_eq hf hc.first hne, trimEnd_eq hb hc.last]

theorem trimStart_split (text : List Char) :
    ∃ front, Blank front ∧ text = front ++ trimStart text ∧
      ∀ c ∈ (trimStart text).head?, isBlank c = false := by
  refine ⟨text.takeWhile isBlank, fun _ => List.mem_takeWhile_imp, List.takeWhile_append_dropWhile.symm, ?_⟩
  intro c hc
  have stops := List.head?_dropWhile_not isBlank text
  rwa [← trimStart, hc] at stops

theorem trimEnd_split (text : List Char) :
    ∃ back, Blank back ∧ text = trimEnd text ++ back ∧
      ∀ c ∈ (trimEnd text).getLast?, isBlank c = false := by
  obtain ⟨back, hb, split, last⟩ := trimStart_split text.reverse
  refine ⟨back.reverse, fun c hm => hb c (List.mem_reverse.mp hm), ?_, fun c hc => last c ?_⟩
  · rw [trimEnd, ← List.reverse_append, ← trimStart, ← split, List.reverse_reverse]
  · rwa [trimEnd, List.getLast?_reverse] at hc

theorem trims_trim (text : List Char) : Trims text (trim text) := by
  obtain ⟨front, hf, split, first⟩ := trimStart_split text
  obtain ⟨back, hb, split', last⟩ := trimEnd_split (trimStart text)
  have trimmed : Trimmed (trim text) := by
    refine ⟨fun c hc => first c ?_, last⟩
    rw [split', List.head?_append, ← trim, hc]
    rfl
  have whole : Trims (front ++ trim text ++ back) (trim text) := .intro hf hb trimmed
  rwa [List.append_assoc, trim, ← split', ← split] at whole

theorem Trims.of_pad (h : Trims (front ++ text ++ back) core) (hf : Blank front) (hb : Blank back) :
    Trims text core := by
  have padded := (trims_trim text).pad hf hb
  rw [← h.trim_eq, padded.trim_eq]
  exact trims_trim text

/-! ## Texts that are split -/

theorem Trims.trimStart (h : Trims text core) : Trims (trimStart text) core := by
  obtain ⟨front, hf, split, _⟩ := trimStart_split text
  have padded : Trims (front ++ Text.trimStart text ++ []) core := by rwa [List.append_nil, ← split]
  exact padded.of_pad hf blank_nil

theorem Trims.trimEnd (h : Trims text core) : Trims (trimEnd text) core := by
  obtain ⟨back, hb, split, _⟩ := trimEnd_split text
  have padded : Trims ([] ++ Text.trimEnd text ++ back) core := by rwa [List.nil_append, ← split]
  exact padded.of_pad blank_nil hb

/-- On either side of a character that is kept, one end is left to trim. -/
theorem trims_append_cons {c : Char} (hc : isBlank c = false) (left right : List Char) :
    Trims (left ++ c :: right) (trimStart left ++ c :: trimEnd right) := by
  obtain ⟨front, hf, left_eq, first⟩ := trimStart_split left
  obtain ⟨back, hb, right_eq, last⟩ := trimEnd_split right
  have trimmed : Trimmed (trimStart left ++ c :: trimEnd right) := by
    constructor
    · intro d hd
      cases start : trimStart left with
      | nil =>
          rw [start] at hd
          cases hd
          exact hc
      | cons e rest =>
          rw [start] at hd first
          exact first d hd
    · intro d hd
      rw [List.getLast?_append_of_ne_nil _ (List.cons_ne_nil _ _), List.getLast?_cons] at hd
      cases stop : (trimEnd right).getLast? with
      | none =>
          rw [stop] at hd
          cases hd
          exact hc
      | some e =>
          rw [stop] at hd last
          exact last d hd
  have whole : Trims (front ++ (trimStart left ++ c :: trimEnd right) ++ back) _ := .intro hf hb trimmed
  rwa [← List.append_assoc, ← left_eq, List.append_assoc, List.cons_append, ← right_eq] at whole

end MembershipGrid.Text
