import Mathlib.Algebra.Group.Nat.Defs
import Mathlib.Data.List.Basic

/-!
# Hexadecimal numerals

What a numeral in lower case stands for, said by reading it (`value?`). The digits that are written for a
number stand for that number, and there are no fewer that do.
-/

namespace MembershipGrid.Hexadecimal

def digit? (c : Char) : Option Nat :=
  if '0' ≤ c ∧ c ≤ '9' then some (c.toNat - '0'.toNat)
  else if 'a' ≤ c ∧ c ≤ 'f' then some (c.toNat - 'a'.toNat + 10)
  else none

/-- The number that digits come to after others that came to `before`. -/
def valueFrom? (before : Nat) : List Char → Option Nat
  | [] => some before
  | c :: rest => (digit? c).bind fun d => valueFrom? (16 * before + d) rest

/-- The number that a numeral stands for. It has one digit at least. -/
def value? : List Char → Option Nat
  | [] => none
  | c :: rest => valueFrom? 0 (c :: rest)

/-- A numeral for a number that has none with fewer digits. -/
structure Shortest (digits : List Char) (n : Nat) : Prop where
  value : value? digits = some n
  least : ∀ other, value? other = some n → digits.length ≤ other.length

variable {c : Char} {digits : List Char} {before d n : Nat}

/-! ## Digits -/

theorem digit?_digitChar : ∀ n < 16, digit? (Nat.digitChar n) = some n := by decide

theorem digit?_lt (h : digit? c = some d) : d < 16 := by
  unfold digit? at h
  split_ifs at h with decimal letter
  · cases h
    have last : c.toNat ≤ 57 := decimal.2
    change c.toNat - 48 < 16
    omega
  · cases h
    have last : c.toNat ≤ 102 := letter.2
    change c.toNat - 97 + 10 < 16
    omega

/-! ## Numerals -/

theorem value?_of_ne_nil (h : digits ≠ []) : value? digits = valueFrom? 0 digits := by
  cases digits with
  | nil => exact absurd rfl h
  | cons c rest => rfl

theorem valueFrom?_append (before : Nat) (front back : List Char) :
    valueFrom? before (front ++ back) = (valueFrom? before front).bind (valueFrom? · back) := by
  induction front generalizing before with
  | nil => rfl
  | cons c front ih =>
      rw [List.cons_append, valueFrom?, valueFrom?, Option.bind_assoc]
      exact congrArg _ (funext fun d => ih _)

theorem valueFrom?_lt (h : valueFrom? before digits = some n) : n < (before + 1) * 16 ^ digits.length := by
  induction digits generalizing before with
  | nil =>
      cases h
      simp
  | cons c rest ih =>
      obtain ⟨d, hd, later⟩ := Option.bind_eq_some_iff.mp h
      calc n < (16 * before + d + 1) * 16 ^ rest.length := ih later
        _ ≤ (before + 1) * 16 * 16 ^ rest.length := by
            have small := digit?_lt hd
            exact Nat.mul_le_mul_right _ (by omega)
        _ = (before + 1) * 16 ^ (c :: rest).length := by rw [List.length_cons, Nat.pow_succ']; ac_rfl

theorem not_mem_of_valueFrom? (h : valueFrom? before digits = some n) (hc : digit? c = none) : c ∉ digits := by
  induction digits generalizing before with
  | nil => exact List.not_mem_nil
  | cons other rest ih =>
      obtain ⟨d, hd, later⟩ := Option.bind_eq_some_iff.mp h
      rw [List.mem_cons, not_or]
      constructor
      · rintro rfl
        cases hc.symm.trans hd
      · exact ih later

/-! ## The numeral that is written -/

theorem valueFrom?_toDigits (n : Nat) : valueFrom? 0 (Nat.toDigits 16 n) = some n := by
  induction n using Nat.strongRecOn with
  | ind n ih =>
      by_cases small : n < 16
      · simp [Nat.toDigits_of_lt_base small, valueFrom?, digit?_digitChar n small]
      · have front := ih (n / 16) (by omega)
        have last := digit?_digitChar (n % 16) (by omega)
        rw [Nat.toDigits_of_base_le (by decide) (by omega), valueFrom?_append, front]
        simp [valueFrom?, last, Nat.div_add_mod]

theorem shortest_toDigits (n : Nat) : Shortest (Nat.toDigits 16 n) n where
  value := by rw [value?_of_ne_nil Nat.toDigits_ne_nil, valueFrom?_toDigits]
  least other h := by
    cases other with
    | nil => cases h
    | cons c rest =>
        have bound := valueFrom?_lt h
        rw [Nat.zero_add, Nat.one_mul] at bound
        exact (Nat.length_toDigits_le_iff (by decide) (by simp)).mpr bound

theorem length_toDigits_byte (byte : UInt8) :
    (Nat.toDigits 16 byte.toNat).length = 1 ∨ (Nat.toDigits 16 byte.toNat).length = 2 := by
  have small : byte.toNat < 16 ^ 2 := byte.toNat_lt
  have upper := (Nat.length_toDigits_le_iff (b := 16) (by decide) Nat.two_pos).mpr small
  have lower : 0 < (Nat.toDigits 16 byte.toNat).length := Nat.length_toDigits_pos
  omega

theorem not_mem_toDigits (hc : digit? c = none) (n : Nat) : c ∉ Nat.toDigits 16 n :=
  not_mem_of_valueFrom? (valueFrom?_toDigits n) hc

end MembershipGrid.Hexadecimal
