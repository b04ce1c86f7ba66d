import MembershipGrid.Embedding
import MembershipGrid.Proofs.Lemmas.Hexadecimal
import Mathlib.Data.List.Basic
import Mathlib.Data.Option.Basic

/-!
# Texts of arrays

The text of an array is one line that shows its name and its bytes. Both can be read back from it, whatever
the bytes are, so no two arrays share a text.
-/

namespace MembershipGrid.Embedding

open Hexadecimal (Shortest)

def IsLetter (c : Char) : Prop := ('A' ≤ c ∧ c ≤ 'Z') ∨ ('a' ≤ c ∧ c ≤ 'z')

def IsDigit (c : Char) : Prop := '0' ≤ c ∧ c ≤ '9'

/-- A name of letters, digits and underscores that does not begin with a digit. -/
inductive Identifier : List Char → Prop
  | intro {first : Char} {rest : List Char} :
      first = '_' ∨ IsLetter first → (∀ c ∈ rest, c = '_' ∨ IsLetter c ∨ IsDigit c) →
      Identifier (first :: rest)

/-- What stands between the braces. -/
def items (bytes : Bytes) : List Char :=
  (bytes.flatMap fun byte => numeral byte ++ [',', ' ']) ++ ['0', 'x', '0', '0']

/-- The pieces of a text, which is cut wherever a space follows a comma. -/
def pieces : List Char → List (List Char)
  | [] => [[]]
  | ',' :: ' ' :: rest => [] :: pieces rest
  | c :: rest => (pieces rest).modifyHead (c :: ·)

/-- The number that an item of an array stands for. -/
def number? : List Char → Option Nat
  | '0' :: 'x' :: digits => Hexadecimal.value? digits
  | _ => none

variable {name name' text : String} {bytes bytes' : Bytes} {token rest : List Char} {c : Char}

/-! ## Names -/

theorem isUpper_iff : c.isUpper = true ↔ 'A' ≤ c ∧ c ≤ 'Z' := decide_eq_true_iff

theorem isLower_iff : c.isLower = true ↔ 'a' ≤ c ∧ c ≤ 'z' :=
  Bool.and_eq_true_iff.trans (and_congr decide_eq_true_iff decide_eq_true_iff)

theorem isAlpha_iff : c.isAlpha = true ↔ IsLetter c :=
  Bool.or_eq_true_iff.trans (or_congr isUpper_iff isLower_iff)

theorem isDigit_iff : c.isDigit = true ↔ IsDigit c :=
  Bool.and_eq_true_iff.trans (and_congr decide_eq_true_iff decide_eq_true_iff)

theorem isIdentifierPart_iff : isIdentifierPart c = true ↔ c = '_' ∨ IsLetter c ∨ IsDigit c := by
  simp [isIdentifierPart, Char.isAlphanum, isAlpha_iff, isDigit_iff]

theorem isIdentifier_iff : isIdentifier name = true ↔ Identifier name.toList := by
  unfold isIdentifier
  cases name.toList with
  | nil => exact ⟨nofun, nofun⟩
  | cons first rest =>
      simp only [isIdentifierStart, Bool.and_eq_true, Bool.or_eq_true, beq_iff_eq, List.all_eq_true,
        isAlpha_iff, isIdentifierPart_iff]
      constructor
      · rintro ⟨start, parts⟩
        exact .intro start parts
      · rintro ⟨start, parts⟩
        exact ⟨start, parts⟩

theorem Identifier.isIdentifierPart (h : Identifier token) (hc : c ∈ token) : isIdentifierPart c = true := by
  cases h with
  | intro start parts =>
      rw [isIdentifierPart_iff]
      rcases List.mem_cons.mp hc with rfl | later
      · rcases start with low | letter
        · exact .inl low
        · exact .inr (.inl letter)
      · exact parts c later

theorem Identifier.not_mem (h : Identifier token) (hc : Embedding.isIdentifierPart c = false) : c ∉ token :=
  fun hm => Bool.false_ne_true (hc.symm.trans (h.isIdentifierPart hm))

/-! ## Items -/

theorem pieces_of_not_mem (h : ',' ∉ token) : pieces token = [token] := by
  induction token with
  | nil => rfl
  | cons c token ih =>
      simp only [List.mem_cons, not_or] at h
      rw [pieces, ih h.2]
      · rfl
      · exact fun _ comma _ => h.1 comma.symm

theorem pieces_append (h : ',' ∉ token) (rest : List Char) :
    pieces (token ++ ',' :: ' ' :: rest) = token :: pieces rest := by
  induction token with
  | nil => rfl
  | cons c token ih =>
      simp only [List.mem_cons, not_or] at h
      rw [List.cons_append, pieces, ih h.2]
      · rfl
      · exact fun _ comma _ => h.1 comma.symm

theorem not_mem_numeral {byte : UInt8} (zero : c ≠ '0') (mark : c ≠ 'x') (hc : Hexadecimal.digit? c = none) :
    c ∉ numeral byte := by
  simp [numeral, zero, mark, Hexadecimal.not_mem_toDigits hc]

theorem pieces_items (bytes : Bytes) : pieces (items bytes) = bytes.map numeral ++ [['0', 'x', '0', '0']] := by
  induction bytes with
  | nil => exact pieces_of_not_mem (by decide)
  | cons byte bytes ih =>
      have comma : ',' ∉ numeral byte := not_mem_numeral (by decide) (by decide) (by decide)
      have split : items (byte :: bytes) = numeral byte ++ ',' :: ' ' :: items bytes := by simp [items]
      rw [split, pieces_append comma, ih]
      rfl

theorem getElem?_pieces_items {i : Nat} {byte : UInt8} (h : bytes[i]? = some byte) :
    (pieces (items bytes))[i]? = some (numeral byte) := by
  have inside : i < bytes.length := (List.getElem?_eq_some_iff.mp h).1
  rw [pieces_items, List.getElem?_append_left (by rwa [List.length_map]), List.getElem?_map, h]
  rfl

theorem number?_numeral (byte : UInt8) : number? (numeral byte) = some byte.toNat :=
  (Hexadecimal.shortest_toDigits byte.toNat).value

theorem map_number?_items (bytes : Bytes) :
    (pieces (items bytes)).map number? = (bytes.map UInt8.toNat ++ [0]).map some := by
  rw [pieces_items, List.map_append, List.map_map, List.map_append, List.map_map]
  congr 1
  exact List.map_congr_left fun byte _ => number?_numeral byte

theorem items_injective (same : items bytes = items bytes') : bytes = bytes' := by
  have numbers := map_number?_items bytes
  rw [same, map_number?_items] at numbers
  have bytes_eq := List.append_cancel_right (List.map_injective_iff.mpr (Option.some_injective _) numbers)
  exact (List.map_injective_iff.mpr (fun a b => UInt8.toNat_inj.mp) bytes_eq).symm

/-! ## The whole text -/

theorem toList_arrayDefinition (name : String) (bytes : Bytes) :
    (arrayDefinition name bytes).toList =
      "char ".toList ++ name.toList ++ "[] = \x7b".toList ++ items bytes ++ "\x7d;\n".toList := by
  simp [arrayDefinition, items]

theorem arrayDefinition?_eq_some_iff :
    arrayDefinition? name bytes = some text ↔ Identifier name.toList ∧ text = arrayDefinition name bytes := by
  rw [arrayDefinition?, ← isIdentifier_iff]
  split_ifs with valid
  · simp [valid, eq_comm]
  · simp [valid]

theorem newline_not_mem_items (bytes : Bytes) : '\n' ∉ items bytes := by
  simp only [items, List.mem_append, List.mem_flatMap, not_or, not_exists, not_and]
  refine ⟨fun byte _ => ⟨not_mem_numeral (by decide) (by decide) (by decide), by decide⟩, by decide⟩

theorem count_newline_arrayDefinition (h : Identifier name.toList) (bytes : Bytes) :
    (arrayDefinition name bytes).toList.count '\n' = 1 := by
  have unbroken : '\n' ∉ name.toList := h.not_mem (by decide)
  rw [toList_arrayDefinition]
  simp [List.count_append, List.count_eq_zero_of_not_mem unbroken,
    List.count_eq_zero_of_not_mem (newline_not_mem_items bytes)]

/-- A name ends at the bracket that follows it. -/
theorem Identifier.takeWhile_append (h : Identifier token) (rest : List Char) :
    (token ++ '[' :: rest).takeWhile Embedding.isIdentifierPart = token := by
  rw [List.takeWhile_append_of_pos fun _ => h.isIdentifierPart, List.takeWhile_cons_of_neg (by decide),
    List.append_nil]

theorem arrayDefinition_injective (h : Identifier name.toList) (h' : Identifier name'.toList)
    (same : arrayDefinition name bytes = arrayDefinition name' bytes') : name = name' ∧ bytes = bytes' := by
  have texts := congrArg String.toList same
  simp only [toList_arrayDefinition, List.append_assoc] at texts
  have after : name.toList ++ '[' :: ("] = \x7b".toList ++ (items bytes ++ "\x7d;\n".toList)) =
      name'.toList ++ '[' :: ("] = \x7b".toList ++ (items bytes' ++ "\x7d;\n".toList)) :=
    List.append_cancel_left texts
  have names := congrArg (List.takeWhile Embedding.isIdentifierPart) after
  rw [h.takeWhile_append, h'.takeWhile_append] at names
  rw [names] at texts
  simp only [List.append_cancel_left_eq, List.append_cancel_right_eq] at texts
  exact ⟨String.toList_inj.mp names, items_injective texts⟩

/-- A definition is written for an identifier and for nothing else. It is one line, whose items are the
shortest numerals of the bytes and a zero, and it shows its name and its bytes. -/
theorem definition_reads_back :
    (∀ (name : String) (bytes : Bytes),
      ((∃ text, arrayDefinition? name bytes = some text) ↔ Identifier name.toList) ∧
      ∀ text, arrayDefinition? name bytes = some text →
        text.toList.count '\n' = 1 ∧
        ∃ between : List Char,
          text.toList = "char ".toList ++ name.toList ++ "[] = \x7b".toList ++ between ++ "\x7d;\n".toList ∧
          (pieces between).length = bytes.length + 1 ∧
          (∀ (i : Nat) (byte : UInt8), bytes[i]? = some byte →
            ∃ digits, (pieces between)[i]? = some ('0' :: 'x' :: digits) ∧ Shortest digits byte.toNat ∧
              (digits.length = 1 ∨ digits.length = 2)) ∧
          (pieces between).getLast? = some ['0', 'x', '0', '0'] ∧
          (pieces between).map number? = (bytes.map UInt8.toNat ++ [0]).map some) ∧
    ∀ (name name' : String) (bytes bytes' : Bytes) (text : String), arrayDefinition? name bytes = some text →
      arrayDefinition? name' bytes' = some text → name = name' ∧ bytes = bytes' := by
  refine ⟨fun name bytes => ⟨?_, fun text written => ?_⟩, fun name name' bytes bytes' text hd hd' => ?_⟩
  · simp only [arrayDefinition?_eq_some_iff, exists_and_left, exists_eq, and_true]
  · obtain ⟨identifier, rfl⟩ := arrayDefinition?_eq_some_iff.mp written
    refine ⟨count_newline_arrayDefinition identifier bytes, items bytes, toList_arrayDefinition name bytes, ?_⟩
    refine ⟨?_, fun i byte hi => ⟨_, getElem?_pieces_items hi, Hexadecimal.shortest_toDigits _,
      Hexadecimal.length_toDigits_byte byte⟩, ?_, map_number?_items bytes⟩
    · simp [pieces_items]
    · simp [pieces_items]
  · obtain ⟨identifier, rfl⟩ := arrayDefinition?_eq_some_iff.mp hd
    obtain ⟨identifier', same⟩ := arrayDefinition?_eq_some_iff.mp hd'
    exact arrayDefinition_injective identifier identifier' same

theorem definition_reads_back_zeros :
    arrayDefinition? "_a1" [0, 10, 0, 255] = some "char _a1[] = \x7b0x0, 0xa, 0x0, 0xff, 0x00\x7d;\n" ∧
      (∃ between, "char _a1[] = \x7b0x0, 0xa, 0x0, 0xff, 0x00\x7d;\n".toList =
          "char ".toList ++ "_a1".toList ++ "[] = \x7b".toList ++ between ++ "\x7d;\n".toList ∧
        (pieces between).map number? = [some 0, some 10, some 0, some 255, some 0] ∧
        ∃ digits, (pieces between)[3]? = some ('0' :: 'x' :: digits) ∧ Shortest digits 255) ∧
      ∀ name bytes,
        arrayDefinition? name bytes = some "char _a1[] = \x7b0x0, 0xa, 0x0, 0xff, 0x00\x7d;\n" →
          name = "_a1" ∧ bytes = [0, 10, 0, 255] := by
  have written : arrayDefinition? "_a1" [0, 10, 0, 255] =
      some "char _a1[] = \x7b0x0, 0xa, 0x0, 0xff, 0x00\x7d;\n" := by decide
  obtain ⟨shown, distinct⟩ := definition_reads_back
  obtain ⟨-, between, form, -, items, -, numbers⟩ := (shown _ _).2 _ written
  obtain ⟨digits, item, shortest, -⟩ := items 3 255 rfl
  refine ⟨written, ⟨between, form, numbers, digits, item, shortest⟩, fun name bytes again => ?_⟩
  exact distinct name _ bytes _ _ again written

end MembershipGrid.Embedding
