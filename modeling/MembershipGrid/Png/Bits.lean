import MembershipGrid.Text.Utf8

/-!
# Bits

A packed block is a sequence of bits. A byte holds eight of them, the lowest first, and the last
byte is filled up with zeros. Reading the bits of the bytes gives back the bits and that filling
(`ofBytes_toBytes`).
-/

namespace MembershipGrid.Png

abbrev Bits := List Bool

namespace Bits

/-- A number in `count` bits, the lowest first. Higher digits are lost. -/
def number : (count : Nat) → Nat → Bits
  | 0, _ => []
  | count + 1, n => (n % 2 == 1) :: number count (n / 2)

/-- The number that bits spell, the lowest first. -/
def value : Bits → Nat
  | [] => 0
  | bit :: rest => bit.toNat + 2 * value rest

def readNumber? (count : Nat) (bits : Bits) : Option (Nat × Bits) :=
  let head := bits.take count
  if head.length = count then some (value head, bits.drop count) else none

def ofBytes (bytes : Bytes) : Bits := bytes.flatMap fun byte => number 8 byte.toNat

/-- Puts `count` bytes of bits behind the bytes that are done, which are held last first. -/
def toBytesAfter : (count : Nat) → Bits → (done : Bytes) → Bytes
  | 0, _, done => done.reverse
  | count + 1, bits, done =>
    toBytesAfter count (bits.drop 8) (UInt8.ofNat (value (bits.take 8)) :: done)

def toBytes (bits : Bits) : Bytes := toBytesAfter ((bits.length + 7) / 8) bits []

/-! ## Numbers -/

theorem length_number (count n : Nat) : (number count n).length = count := by
  induction count generalizing n with
  | zero => rfl
  | succ count ih => rw [number, List.length_cons, ih]

theorem value_number {count n : Nat} (small : n < Nat.pow 2 count) : value (number count n) = n := by
  induction count generalizing n with
  | zero => simp at small; rw [small]; rfl
  | succ count ih =>
    have high : n / 2 < Nat.pow 2 count := by
      rw [Nat.div_lt_iff_lt_mul (by decide)]
      exact small
    rw [number, value, ih high]
    have := Nat.mod_lt n (show 0 < 2 by decide)
    by_cases odd : n % 2 = 1
    · simp only [odd, beq_self_eq_true, Bool.toNat_true]; omega
    · simp only [show n % 2 = 0 by omega, show ((0 : Nat) == 1) = false from rfl, Bool.toNat_false]
      omega

theorem value_lt (bits : Bits) : value bits < Nat.pow 2 bits.length := by
  induction bits with
  | nil => exact Nat.one_pos
  | cons bit rest ih =>
    change bit.toNat + 2 * value rest < Nat.pow 2 rest.length * 2
    have := Bool.toNat_le bit
    omega

theorem number_zero (count : Nat) : number count 0 = List.replicate count false := by
  induction count with
  | zero => rfl
  | succ count ih => rw [number, ih]; rfl

theorem number_value {count : Nat} {bits : Bits} (fits : bits.length ≤ count) :
    number count (value bits) = bits ++ List.replicate (count - bits.length) false := by
  induction bits generalizing count with
  | nil => exact number_zero count
  | cons bit rest ih =>
    obtain ⟨count, rfl⟩ : ∃ n, count = n + 1 := ⟨count - 1, by simp at fits; omega⟩
    have low : (value (bit :: rest) % 2 == 1) = bit := by
      rw [value, Nat.add_mul_mod_self_left]
      cases bit <;> rfl
    have high : value (bit :: rest) / 2 = value rest := by
      have := Bool.toNat_le bit
      rw [value]
      omega
    rw [number, low, high, ih (by simpa using fits), List.length_cons, Nat.add_sub_add_right,
      List.cons_append]

theorem readNumber?_number {count n : Nat} (small : n < Nat.pow 2 count) (rest : Bits) :
    readNumber? count (number count n ++ rest) = some (n, rest) := by
  have length := length_number count n
  have head : (number count n ++ rest).take count = number count n := List.take_left' length
  have tail : (number count n ++ rest).drop count = rest := List.drop_left' length
  simp only [readNumber?, head, tail, length, if_true, value_number small]

/-! ## Bytes -/

theorem toBytesAfter_eq (count : Nat) (bits : Bits) (done : Bytes) :
    toBytesAfter count bits done = done.reverse ++ toBytesAfter count bits [] := by
  induction count generalizing bits done with
  | zero => simp [toBytesAfter]
  | succ count ih =>
    rw [toBytesAfter, ih, toBytesAfter, ih (bits.drop 8) [_]]
    simp

theorem toBytesAfter_succ (count : Nat) (bits : Bits) :
    toBytesAfter (count + 1) bits [] =
      UInt8.ofNat (value (bits.take 8)) :: toBytesAfter count (bits.drop 8) [] := by
  rw [toBytesAfter, toBytesAfter_eq]
  rfl

theorem number_byte (bits : Bits) :
    number 8 (UInt8.ofNat (value (bits.take 8))).toNat =
      bits.take 8 ++ List.replicate (8 - bits.length) false := by
  have short : (bits.take 8).length ≤ 8 := List.length_take_le 8 bits
  have small : value (bits.take 8) < 256 :=
    Nat.lt_of_lt_of_le (value_lt _) (Nat.pow_le_pow_right (by decide) short)
  rw [UInt8.toNat_ofNat', Nat.mod_eq_of_lt small, number_value short, List.length_take]
  congr 2
  omega

theorem ofBytes_cons (byte : UInt8) (bytes : Bytes) :
    ofBytes (byte :: bytes) = number 8 byte.toNat ++ ofBytes bytes := by
  rw [ofBytes, List.flatMap_cons, ← ofBytes]

theorem ofBytes_toBytesAfter {count : Nat} {bits : Bits} (fits : bits.length ≤ 8 * count) :
    ofBytes (toBytesAfter count bits []) =
      bits ++ List.replicate (8 * count - bits.length) false := by
  induction count generalizing bits with
  | zero =>
    obtain rfl : bits = [] := List.eq_nil_of_length_eq_zero (by omega)
    rfl
  | succ count ih =>
    have later : (bits.drop 8).length ≤ 8 * count := by rw [List.length_drop]; omega
    rw [toBytesAfter_succ, ofBytes_cons, number_byte, ih later, List.length_drop]
    by_cases full : 8 ≤ bits.length
    · rw [Nat.sub_eq_zero_of_le full, List.replicate_zero, List.append_nil, ← List.append_assoc,
        List.take_append_drop]
      congr 2
      omega
    · rw [List.take_of_length_le (by omega), List.drop_eq_nil_of_le (by omega), List.nil_append,
        List.append_assoc, List.replicate_append_replicate]
      congr 2
      omega

theorem ofBytes_take (count : Nat) (bytes : Bytes) :
    ofBytes (bytes.take count) = (ofBytes bytes).take (8 * count) := by
  induction bytes generalizing count with
  | nil => simp [ofBytes]
  | cons byte more ih =>
    cases count with
    | zero => rfl
    | succ count =>
      have all : (number 8 byte.toNat).take (8 * count + 8) = number 8 byte.toNat :=
        List.take_of_length_le (by rw [length_number]; omega)
      rw [List.take_succ_cons, ofBytes_cons, ih, ofBytes_cons, List.take_append, length_number,
        Nat.mul_succ, Nat.add_sub_cancel, all]

theorem ofBytes_toBytes (bits : Bits) :
    ∃ filling, filling < 8 ∧ ofBytes (toBytes bits) = bits ++ List.replicate filling false :=
  ⟨_, by omega, ofBytes_toBytesAfter (by omega)⟩

end Bits

end MembershipGrid.Png
