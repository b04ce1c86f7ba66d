import MembershipGrid.Comparison.Tally
import Mathlib.Data.List.Basic
import Mathlib.Data.List.TakeWhile

/-!
# Objects of numbers

A reader for texts that hold one object whose members are natural numbers, whatever white space they have
between their tokens, and the pretty form of such an object, in which each member has a line. The reader
gives back the members of the pretty form in their order.
-/

namespace MembershipGrid.Json

/-! ## Numerals -/

/-- A decimal numeral without zeros in front. -/
structure Plain (digits : List Char) (n : Nat) : Prop where
  nonempty : digits ≠ []
  decimal : ∀ c ∈ digits, c.isDigit
  leading : digits.head? = some '0' → digits = ['0']
  value : Nat.ofDigitChars 10 digits 0 = n

def number? (digits : List Char) : Option Nat :=
  if digits ≠ [] ∧ digits.all Char.isDigit ∧ (digits.head? = some '0' → digits = ['0']) then
    some (Nat.ofDigitChars 10 digits 0)
  else none

variable {digits text rest : List Char} {n : Nat} {c : Char} {key : String}
  {members : List (String × Nat)}

theorem number?_eq_some_iff : number? digits = some n ↔ Plain digits n := by
  rw [number?]
  split_ifs with plain
  · rw [Option.some.injEq]
    exact ⟨fun value => ⟨plain.1, List.all_eq_true.mp plain.2.1, plain.2.2, value⟩, Plain.value⟩
  · constructor
    · intro h
      cases h
    · exact fun h => absurd ⟨h.nonempty, List.all_eq_true.mpr h.decimal, h.leading⟩ plain

theorem digitChar_ne_zero : ∀ n < 10, 0 < n → Nat.digitChar n ≠ '0' := by decide

theorem head?_toDigits_ne (h : 0 < n) : (Nat.toDigits 10 n).head? ≠ some '0' := by
  induction n using Nat.strongRecOn with
  | _ n ih =>
      by_cases small : n < 10
      · rw [Nat.toDigits_of_lt_base small, List.head?_cons]
        exact fun zero => digitChar_ne_zero n small h (Option.some.inj zero)
      · rw [Nat.toDigits_of_base_le (by decide) (by omega), List.head?_append_of_ne_nil _ Nat.toDigits_ne_nil]
        exact ih (n / 10) (by omega) (by omega)

theorem plain_toDigits (n : Nat) : Plain (Nat.toDigits 10 n) n where
  nonempty := Nat.toDigits_ne_nil
  decimal := fun _ => Nat.isDigit_of_mem_toDigits (by decide) (by decide)
  leading := fun zero => by
    obtain rfl | positive := Nat.eq_zero_or_pos n
    · rfl
    · exact absurd zero (head?_toDigits_ne positive)
  value := Nat.ofDigitChars_ten_toDigits

/-! ## Tokens -/

inductive Token where
  | opening
  | closing
  | colon
  | comma
  | name (text : String)
  | number (n : Nat)
  deriving DecidableEq

def mark? (c : Char) : Option Token :=
  if c = '\x7b' then some .opening
  else if c = '\x7d' then some .closing
  else if c = ':' then some .colon
  else if c = ',' then some .comma
  else none

def isSpace (c : Char) : Bool := c = ' ' || c = '\n' || c = '\r' || c = '\t'

/-- A text that stands between quotation marks as it is, without an escape. -/
def Verbatim (text : List Char) : Prop := ∀ c ∈ text, c ≠ '"' ∧ c ≠ '\\' ∧ ' ' ≤ c

instance (text : List Char) : Decidable (Verbatim text) :=
  List.decidableBAll (fun c => c ≠ '"' ∧ c ≠ '\\' ∧ ' ' ≤ c) text

/-- The tokens of a text. Texts with escapes, fractions and signs are refused. -/
def tokens? : List Char → Option (List Token)
  | [] => some []
  | c :: rest =>
    if isSpace c then tokens? rest
    else if c = '"' then
      let text := rest.takeWhile (· ≠ '"')
      if '"' ∈ rest ∧ Verbatim text then
        (tokens? ((rest.dropWhile (· ≠ '"')).drop 1)).map (.name (String.ofList text) :: ·)
      else none
    else if c.isDigit then
      (number? (c :: rest.takeWhile Char.isDigit)).bind fun n =>
        (tokens? (rest.dropWhile Char.isDigit)).map (.number n :: ·)
    else (mark? c).bind fun token => (tokens? rest).map (token :: ·)
termination_by text => text.length
decreasing_by
  all_goals
    have quoted := List.length_dropWhile_le (· ≠ '"') rest
    have numeral := List.length_dropWhile_le Char.isDigit rest
    simp only [List.length_drop, List.length_cons]
    omega

theorem tokens?_space (h : isSpace c) (rest : List Char) : tokens? (c :: rest) = tokens? rest := by
  rw [tokens?, if_pos h]

theorem tokens?_mark {token : Token} (h : mark? c = some token) (rest : List Char) :
    tokens? (c :: rest) = (tokens? rest).map (token :: ·) := by
  have other : isSpace c = false ∧ c ≠ '"' ∧ c.isDigit = false := by
    unfold mark? at h
    split_ifs at h with opening closing colon comma <;> subst c <;> decide
  rw [tokens?, other.1, if_neg nofun, if_neg other.2.1, other.2.2, if_neg nofun, h]
  rfl

theorem tokens?_name (h : Verbatim text) (rest : List Char) :
    tokens? ('"' :: text ++ '"' :: rest) = (tokens? rest).map (.name (String.ofList text) :: ·) := by
  have inside : ∀ c ∈ text, decide (c ≠ '"') = true := fun c hc => decide_eq_true (h c hc).1
  have taken : (text ++ '"' :: rest).takeWhile (· ≠ '"') = text := by
    rw [List.takeWhile_append_of_pos inside]
    simp
  have dropped : (text ++ '"' :: rest).dropWhile (· ≠ '"') = '"' :: rest := by
    rw [List.dropWhile_append_of_pos inside]
    simp
  rw [List.cons_append, tokens?, if_neg (by decide), if_pos rfl, taken, dropped, if_pos ⟨by simp, h⟩]
  rfl

theorem tokens?_number (h : Plain digits n) (ends : ∀ c ∈ rest.head?, c.isDigit = false) :
    tokens? (digits ++ rest) = (tokens? rest).map (.number n :: ·) := by
  have stops : rest.takeWhile Char.isDigit = [] ∧ rest.dropWhile Char.isDigit = rest := by
    cases rest with
    | nil => exact ⟨rfl, rfl⟩
    | cons c rest =>
        have hc := ends c rfl
        exact ⟨List.takeWhile_cons_of_neg (by simp [hc]), List.dropWhile_cons_of_neg (by simp [hc])⟩
  cases digits with
  | nil => exact absurd rfl h.nonempty
  | cons c digits =>
      have decimal : ∀ d ∈ digits, d.isDigit := fun d hd => h.decimal d (List.mem_cons_of_mem _ hd)
      have first := h.decimal c List.mem_cons_self
      have other : isSpace c = false ∧ c ≠ '"' := by
        constructor
        · by_contra space
          simp only [isSpace, Bool.not_eq_false, Bool.or_eq_true, decide_eq_true_eq] at space
          obtain ((rfl | rfl) | rfl) | rfl := space <;> cases first
        · rintro rfl
          cases first
      rw [List.cons_append, tokens?, other.1, if_neg nofun, if_neg other.2, if_pos first,
        List.takeWhile_append_of_pos decimal, List.dropWhile_append_of_pos decimal, stops.1, stops.2,
        List.append_nil, number?_eq_some_iff.mpr h]
      rfl

/-! ## Objects -/

/-- The members of an object after its opening brace. -/
def members? : List Token → Option (List (String × Nat))
  | [.name key, .colon, .number n, .closing] => some [(key, n)]
  | .name key :: .colon :: .number n :: .comma :: rest => (members? rest).map ((key, n) :: ·)
  | _ => none

/-- The members of the object that a text holds. -/
def object? (text : List Char) : Option (List (String × Nat)) :=
  (tokens? text).bind fun
    | .opening :: rest => if rest = [.closing] then some [] else members? rest
    | _ => none

/-- A member on a line of its own, up to its number. -/
def memberLine (key : String) (digits : List Char) : List Char :=
  ' ' :: ' ' :: '"' :: key.toList ++ '"' :: ':' :: ' ' :: digits

/-- The lines of an object in its pretty form, after the one that opens it. -/
inductive MemberLines : List (String × Nat) → List Char → Prop
  | last {key : String} {digits : List Char} {n : Nat} : Verbatim key.toList → Plain digits n →
      MemberLines [(key, n)] (memberLine key digits ++ ['\n', '\x7d'])
  | more {key : String} {digits rest : List Char} {n : Nat} {members : List (String × Nat)} :
      Verbatim key.toList → Plain digits n → MemberLines members rest →
      MemberLines ((key, n) :: members) (memberLine key digits ++ ',' :: '\n' :: rest)

/-- The pretty form of an object: a line for each member, indented by two spaces, with a colon and a space
after the key and a comma before the next line. -/
def Pretty (members : List (String × Nat)) (text : List Char) : Prop :=
  ∃ lines, MemberLines members lines ∧ text = '\x7b' :: '\n' :: lines

theorem tokens?_memberLine (hk : Verbatim key.toList) (hd : Plain digits n)
    (ends : ∀ c ∈ rest.head?, c.isDigit = false) :
    tokens? (memberLine key digits ++ rest) =
      (tokens? rest).map ([.name key, .colon, .number n] ++ ·) := by
  have spelled : memberLine key digits ++ rest =
      ' ' :: ' ' :: ('"' :: key.toList ++ '"' :: ':' :: ' ' :: (digits ++ rest)) := by
    simp [memberLine]
  rw [spelled, tokens?_space rfl, tokens?_space rfl, tokens?_name hk, tokens?_mark rfl, tokens?_space rfl,
    tokens?_number hd ends, String.ofList_toList, Option.map_map, Option.map_map]
  rfl

theorem exists_tokens?_of_memberLines (h : MemberLines members text) :
    ∃ tokens, tokens? text = some tokens ∧ members? tokens = some members := by
  induction h with
  | @last key digits n hk hd =>
      refine ⟨[.name key, .colon, .number n, .closing], ?_, rfl⟩
      rw [tokens?_memberLine hk hd (by rintro _ ⟨⟩; rfl), tokens?_space rfl, tokens?_mark rfl, tokens?]
      rfl
  | @more key digits rest n members hk hd _ ih =>
      obtain ⟨tokens, ht, hm⟩ := ih
      refine ⟨.name key :: .colon :: .number n :: .comma :: tokens, ?_, ?_⟩
      · rw [tokens?_memberLine hk hd (by rintro _ ⟨⟩; rfl), tokens?_mark rfl, tokens?_space rfl, ht]
        rfl
      · rw [members?, hm]
        rfl

theorem object?_of_pretty (h : Pretty members text) : object? text = some members := by
  obtain ⟨lines, hl, rfl⟩ := h
  obtain ⟨tokens, ht, hm⟩ := exists_tokens?_of_memberLines hl
  rw [object?, tokens?_mark rfl, tokens?_space rfl, ht]
  have stays : tokens ≠ [.closing] := by
    rintro rfl
    cases hm
  exact (if_neg stays).trans hm

end MembershipGrid.Json
