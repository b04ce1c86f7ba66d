import MembershipGrid.Text.Utf8

/-!
# Number fields

Numbers of a fixed count of bytes, the highest byte first, and the cut of a stated count of bytes
from the front. Reading a field gives back the number that was written (`readNumber?_number`).
-/

namespace MembershipGrid.Png

/-- A number in `count` bytes, the highest first. Higher digits are lost. -/
def number : (count : Nat) → Nat → Bytes
  | 0, _ => []
  | count + 1, n => number count (n / 256) ++ [UInt8.ofNat n]

/-- The number that bytes spell, the highest first. -/
def value (bytes : Bytes) : Nat := bytes.foldl (fun n byte => n * 256 + byte.toNat) 0

def take? (count : Nat) (bytes : Bytes) : Option (Bytes × Bytes) :=
  let head := bytes.take count
  if head.length = count then some (head, bytes.drop count) else none

def readNumber? (count : Nat) (bytes : Bytes) : Option (Nat × Bytes) :=
  (take? count bytes).map fun (head, rest) => (value head, rest)

/-! ## Reading what was written -/

theorem length_number (count n : Nat) : (number count n).length = count := by
  induction count generalizing n with
  | zero => rfl
  | succ count ih => simp [number, ih]

theorem value_number {count n : Nat} (small : n < Nat.pow 256 count) : value (number count n) = n := by
  induction count generalizing n with
  | zero => simp at small; simp [number, value, small]
  | succ count ih =>
    have high : n / 256 < Nat.pow 256 count := by
      rw [Nat.div_lt_iff_lt_mul (by decide)]
      exact small
    have digits := ih high
    simp only [value] at digits
    simp only [value, number, List.foldl_append, digits, List.foldl_cons, List.foldl_nil,
      UInt8.toNat_ofNat']
    omega

theorem take?_append (head rest : Bytes) :
    take? head.length (head ++ rest) = some (head, rest) := by
  simp [take?]

theorem readNumber?_number {count n : Nat} (small : n < Nat.pow 256 count) (rest : Bytes) :
    readNumber? count (number count n ++ rest) = some (n, rest) := by
  have cut := take?_append (number count n) rest
  rw [length_number] at cut
  simp only [readNumber?, cut, Option.map_some, value_number small]

end MembershipGrid.Png
