import MembershipGrid.Proofs.Lemmas.Reading

/-!
# The first defect of a text

Which error comes of a text that is no grid. The first line that cannot be a row decides it, whatever
stands below that line, and its length counts more than its characters. Where every line could be a row,
there are no cells.
-/

namespace MembershipGrid.Grid

/-- A line that cannot be a row under a certain first line. -/
def Defective (first line : List Char) : Prop :=
  line.length ≠ first.length ∨ ∃ c ∈ line, c ≠ 'x' ∧ c ≠ '.'

/-- What is wrong with such a line, and the error for it on a line with a certain number. -/
inductive Defect (first : List Char) (number : Nat) : List Char → GridError → Prop
  | uneven {line : List Char} : line.length ≠ first.length →
      Defect first number line (.unevenRow number first.length line.length)
  | unknown {front back : List Char} {c : Char} : (front ++ c :: back).length = first.length →
      (∀ d ∈ front, d = 'x' ∨ d = '.') → c ≠ 'x' → c ≠ '.' →
      Defect first number (front ++ c :: back) (.unknownSymbol c number (front.length + 1))

instance (first line : List Char) : Decidable (Defective first line) :=
  @instDecidableOr _ _ _ (List.decidableBEx (fun c => c ≠ 'x' ∧ c ≠ '.') line)

variable {text : String} {first line front : List Char} {above below ls : List (List Char)} {c : Char}
  {number column width : Nat} {e : GridError}

/-! ## One line -/

theorem readCells_of_unknown (known : ∀ d ∈ front, d = 'x' ∨ d = '.') (hx : c ≠ 'x') (hd : c ≠ '.')
    (back : List Char) :
    readCells number column (front ++ c :: back) =
      .error (.unknownSymbol c number (column + front.length)) := by
  induction front generalizing column with
  | nil =>
      rw [List.nil_append, readCells, Symbol.ofChar?, if_neg hx, if_neg hd]
      rfl
  | cons d front ih =>
      obtain ⟨here, later⟩ := List.forall_mem_cons.mp known
      obtain ⟨s, rfl⟩ := exists_toChar_iff.mpr here
      rw [List.cons_append, readCells, Symbol.ofChar?_eq_some_iff.mpr rfl, ih later, List.length_cons,
        Nat.add_right_comm, ← Nat.add_assoc]
      rfl

theorem Defect.readRow_eq (h : Defect first number line e) : readRow first.length number line = .error e := by
  cases h with
  | uneven uneven => rw [readRow, if_neg uneven]
  | unknown even known hx hd => rw [readRow, if_pos even, readCells_of_unknown known hx hd, Nat.add_comm 1]

theorem Defective.exists_defect (h : Defective first line) (number : Nat) :
    ∃ e, Defect first number line e := by
  by_cases even : line.length = first.length
  · have found : (line.find? fun c => c ≠ 'x' ∧ c ≠ '.').isSome := by
      simpa using h.resolve_left (not_not.mpr even)
    obtain ⟨c, hc⟩ := Option.isSome_iff_exists.mp found
    obtain ⟨unknown, front, back, rfl, known⟩ := List.find?_eq_some_iff_append.mp hc
    simp only [ne_eq, decide_eq_true_eq, Bool.not_eq_eq_eq_not, Bool.not_true, decide_eq_false_iff_not] at unknown known
    exact ⟨_, .unknown even (fun d hd => by have := known d hd; tauto) unknown.1 unknown.2⟩
  · exact ⟨_, .uneven even⟩

/-! ## All lines -/

theorem not_defective_iff :
    ¬Defective first line ↔ line.length = first.length ∧ ∀ c ∈ line, c = 'x' ∨ c = '.' := by
  rw [Defective, not_or, not_not]
  refine and_congr_right fun _ => ?_
  push Not
  simp only [ne_eq, or_iff_not_imp_left]

theorem exists_readRows_iff :
    (∃ cells, readRows first.length number ls = .ok cells) ↔ ∀ line ∈ ls, ¬Defective first line := by
  simp only [not_defective_iff]
  constructor
  · rintro ⟨cells, read⟩ line hl
    obtain ⟨table, rfl, even, -⟩ := readRows_eq_ok_iff.mp read
    obtain ⟨row, hr, rfl⟩ := List.mem_map.mp hl
    exact ⟨by rw [List.length_map, even row hr], exists_map_toChar_iff.mp ⟨row, rfl⟩⟩
  · intro sound
    obtain ⟨table, rfl⟩ : ls ∈ Set.range (List.map (List.map Symbol.toChar)) := by
      rw [Set.range_list_map]
      exact fun line hl => exists_map_toChar_iff.mpr (sound line hl).2
    refine ⟨table.flatten, readRows_eq_ok_iff.mpr ⟨table, rfl, fun row hr => ?_, rfl⟩⟩
    rw [← (sound _ (List.mem_map_of_mem hr)).1, List.length_map]

theorem readRows_of_defect (sound : ∀ line ∈ above, ¬Defective first line)
    (h : Defect first (number + above.length) line e) (below : List (List Char)) :
    readRows first.length number (above ++ line :: below) = .error e := by
  obtain ⟨cells, read⟩ := exists_readRows_iff.mpr sound
  rw [readRows_append, read, readRows, h.readRow_eq]
  rfl

theorem ofText_of_defect (hl : Text.lines text.toList = above ++ line :: below)
    (top : (above ++ [line]).head? = some first) (sound : ∀ line ∈ above, ¬Defective first line)
    (h : Defect first (above.length + 1) line e) : ofText text = .error e := by
  rw [Nat.add_comm] at h
  have read := readRows_of_defect sound h below
  rw [← hl] at read
  cases cut : Text.lines text.toList with
  | nil => simp [cut] at hl
  | cons first' rest =>
      have same : first' = first := by
        rw [cut, List.append_cons] at hl
        have head := congrArg List.head? hl
        rw [List.head?_append, top] at head
        exact Option.some.inj head
      subst same
      rw [cut] at read
      exact ofText_of_readRows_error cut read

/-! ## Texts without a defect -/

theorem ofText_of_no_line (none : Text.lines text.toList = []) : ofText text = .error .noRows := by
  unfold ofText
  split
  · rfl
  · rename_i some
    cases none.symm.trans some

theorem ofText_of_empty_lines (some : Text.lines text.toList ≠ [])
    (empty : ∀ line ∈ Text.lines text.toList, line = []) : ofText text = .error .noColumns := by
  unfold ofText
  split
  · rename_i none
    exact absurd none some
  · rename_i first rest hl
    have blank := hl ▸ empty
    obtain rfl : first = [] := empty _ (hl ▸ List.mem_cons_self)
    have sound : ∀ line ∈ [] :: rest, ¬Defective [] line := by
      intro line hm
      rw [not_defective_iff, blank line hm]
      exact ⟨rfl, nofun⟩
    split
    · rename_i e he
      obtain ⟨cells, read⟩ : ∃ cells, readRows 0 1 ([] :: rest) = .ok cells := exists_readRows_iff.mpr sound
      cases he.symm.trans read
    · exact dif_neg (Nat.lt_irrefl 0)

/-- What a text comes to in which every line could be a row. -/
inductive Outcome (text : String) : Except GridError Grid → Prop
  | noRows : text = "" → Outcome text (.error .noRows)
  | noColumns : Text.lines text.toList ≠ [] → (∀ line ∈ Text.lines text.toList, line = []) →
      Outcome text (.error .noColumns)
  | read {line : List Char} {g : Grid} : line ∈ Text.lines text.toList → line ≠ [] → Outcome text (.ok g)

theorem outcome_of_sound
    (sound : ∀ first ∈ (Text.lines text.toList).head?, ∀ line ∈ Text.lines text.toList, ¬Defective first line) :
    Outcome text (ofText text) := by
  cases hl : Text.lines text.toList with
  | nil =>
      rw [ofText_of_no_line hl]
      exact .noRows (String.toList_eq_nil_iff.mp (Text.lines_eq_nil_iff.mp hl))
  | cons first rest =>
      have rows := sound first (by rw [hl]; rfl)
      simp only [not_defective_iff] at rows
      by_cases blank : first = []
      · have empty : ∀ line ∈ Text.lines text.toList, line = [] := by
          intro line hm
          rw [← List.length_eq_zero_iff, (rows line hm).1, blank, List.length_nil]
        have some : Text.lines text.toList ≠ [] := by simp [hl]
        rw [ofText_of_empty_lines some empty]
        exact .noColumns some empty
      · have some : Text.lines text.toList ≠ [] := by simp [hl]
        obtain ⟨g, hg⟩ := exists_ofText_iff.mpr ⟨some, first.length, List.length_pos_iff.mpr blank, rows⟩
        rw [hg]
        exact .read (hl ▸ List.mem_cons_self) blank

/-! ## Any text -/

/-- The first line that differs in length from the first one or has a character that is no symbol decides the
error, with its number: a wrong length first, else its first unknown character. What stands below it makes no
difference. If there is no such line, only the empty text and texts of empty lines are refused. -/
theorem first_defect_decides_error (text : String) :
    (∀ first k, (Text.lines text.toList).head? = some first →
      Text.FirstAt (Defective first) (Text.lines text.toList) k →
      ∃ line e, (Text.lines text.toList)[k]? = some line ∧ Defect first (k + 1) line e ∧ ofText text = .error e ∧
        ∀ other : String, (Text.lines other.toList).take (k + 1) = (Text.lines text.toList).take (k + 1) →
          ofText other = .error e) ∧
    ((∀ first, (Text.lines text.toList).head? = some first →
        ¬∃ k, Text.FirstAt (Defective first) (Text.lines text.toList) k) →
      (ofText text = .error (.empty "input has no rows") ↔ text = "") ∧
      (ofText text = .error (.empty "rows have no columns") ↔
        Text.lines text.toList ≠ [] ∧ ∀ line ∈ Text.lines text.toList, line = []) ∧
      ∀ e, ofText text = .error e → e = .empty "input has no rows" ∨ e = .empty "rows have no columns") := by
  constructor
  · intro first k top at_k
    obtain ⟨above, line, below, hl, rfl, bad, sound⟩ := Text.firstAt_iff.mp at_k
    obtain ⟨e, defect⟩ := bad.exists_defect (above.length + 1)
    rw [hl, List.append_cons, List.head?_append_of_ne_nil _ (by simp)] at top
    have refused (other : String) (more : List (List Char))
        (cut : Text.lines other.toList = above ++ line :: more) : ofText other = .error e :=
      ofText_of_defect cut top sound defect
    refine ⟨line, e, by simp [hl], defect, refused text below hl, fun other agree => ?_⟩
    obtain ⟨more, cut⟩ := Text.exists_split_of_take hl agree
    exact refused other more cut
  · intro none
    have sound : ∀ first ∈ (Text.lines text.toList).head?, ∀ line ∈ Text.lines text.toList,
        ¬Defective first line :=
      fun first top line hl bad => none first top (Text.exists_firstAt hl bad)
    have outcome := outcome_of_sound sound
    generalize ofText text = result at outcome ⊢
    cases outcome with
    | noRows empty =>
        subst empty
        exact ⟨by simp [GridError.noRows], iff_of_false (by decide) fun h => h.1 rfl, by simp [GridError.noRows]⟩
    | noColumns some empty =>
        refine ⟨iff_of_false (by decide) ?_, iff_of_true rfl ⟨some, empty⟩, by simp [GridError.noColumns]⟩
        rintro rfl
        exact some rfl
    | @read line _ hl some =>
        refine ⟨iff_of_false nofun ?_, iff_of_false nofun fun h => some (h.2 line hl), nofun⟩
        rintro rfl
        cases hl

theorem first_defect_decides_error_third_line :
    Text.FirstAt (Defective ['x', '.']) (Text.lines "x.\n.x\nxo\nabc".toList) 2 ∧
      ofText "x.\n.x\nxo\nabc" = .error (.unknownSymbol 'o' 3 2) ∧
      ofText "x.\n.x\r\nxo" = .error (.unknownSymbol 'o' 3 2) ∧
      ofText "\r\n\n" = .error (.empty "rows have no columns") := by
  have third : Text.FirstAt (Defective ['x', '.']) (Text.lines "x.\n.x\nxo\nabc".toList) 2 :=
    Text.firstAt_iff.mpr ⟨[['x', '.'], ['.', 'x']], ['x', 'o'], [['a', 'b', 'c']], by decide⟩
  have said : ofText "x.\n.x\nxo\nabc" = .error (.unknownSymbol 'o' 3 2) := by decide
  obtain ⟨_, e, -, -, refused, others⟩ := (first_defect_decides_error _).1 _ 2 rfl third
  cases refused.symm.trans said
  refine ⟨third, refused, others _ (by decide), ?_⟩
  have sound : ∀ line ∈ Text.lines "\r\n\n".toList, ¬Defective [] line := by decide
  refine ((first_defect_decides_error "\r\n\n").2 ?_).2.1.mpr (by decide)
  rintro first top ⟨n, ⟨line, hl, bad⟩, -⟩
  cases top
  exact sound line (List.mem_of_getElem? hl) bad

end MembershipGrid.Grid
