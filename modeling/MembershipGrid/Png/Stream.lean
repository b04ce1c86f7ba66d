import MembershipGrid.Png.Checksum
import MembershipGrid.Png.Packed.Block
import MembershipGrid.Png.Stored

/-!
# Compressed streams

Lines of bytes are put into a compressed stream: two bytes that start it, blocks, and a checksum of
the bytes. The blocks either pack the lines or store them as they are. Only such streams are read,
and reading gives back the bytes of the lines (`decode?_packed`, `decode?_stored`).
-/

namespace MembershipGrid.Png.Stream

def header : Bytes := [0x78, 0x01]

def ofBlocks (blocks data : Bytes) : Bytes := header ++ (blocks ++ number 4 (adler data))

def packed (lines : List Bytes) : Bytes :=
  ofBlocks (Packed.encode (lines.flatMap Token.ofLine)) lines.flatten

def stored (lines : List Bytes) : Bytes := ofBlocks (Stored.encode lines.flatten) lines.flatten

/-- The size of a stream that stores `count` bytes, if they do not fill all their blocks. If they
do, the bytes of the last block are not counted. -/
def storedSize (count : Nat) : Nat :=
  header.length + (count - 1) / Stored.blockSize * (Stored.blockSize + 5) +
    (count % Stored.blockSize + 5) + 4

/-- The stream that packs some lines, unless that takes more room than to store the others. -/
def encode (toPack toStore : List Bytes) : Bytes :=
  if storedSize toStore.flatten.length < (packed toPack).length then stored toStore
  else packed toPack

def readBlocks? (blocks : Bytes) : Option Bytes :=
  if (Bits.ofBytes (blocks.take 1)).take Packed.marks.length = Packed.marks then
    Packed.decode? blocks
  else Stored.decode? blocks

def decode? (bytes : Bytes) : Option Bytes := do
  let (start, bytes) ← take? header.length bytes
  let (blocks, bytes) ← take? (bytes.length - 4) bytes
  let (sum, rest) ← readNumber? 4 bytes
  let data ← readBlocks? blocks
  if start = header ∧ sum = adler data ∧ rest = [] then some data else none

/-! ## Reading what was written -/

theorem adler_lt (data : Bytes) : adler data < Nat.pow 256 4 := by
  have small : ∀ (data : Bytes) (sums : Nat × Nat), sums.1 < 65521 → sums.2 < 65521 →
      (data.foldl adlerByte sums).1 < 65521 ∧ (data.foldl adlerByte sums).2 < 65521 := by
    intro data
    induction data with
    | nil => exact fun _ low high => ⟨low, high⟩
    | cons byte more ih =>
      exact fun _ _ _ => ih _ (Nat.mod_lt _ (by decide)) (Nat.mod_lt _ (by decide))
  obtain ⟨low, high⟩ := small data (1, 0) (by decide) (by decide)
  have bound : Nat.pow 256 4 = 65536 * 65536 := rfl
  rw [adler, bound]
  omega

theorem decode?_ofBlocks {blocks data : Bytes} (read : readBlocks? blocks = some data) :
    decode? (ofBlocks blocks data) = some data := by
  have cut := take?_append blocks (number 4 (adler data))
  have sum := readNumber?_number (adler_lt data) []
  have size : (blocks ++ number 4 (adler data)).length - 4 = blocks.length := by
    rw [List.length_append, length_number, Nat.add_sub_cancel]
  rw [List.append_nil] at sum
  simp only [decode?, ofBlocks, take?_append, size, cut, sum, Option.bind_eq_bind, Option.bind_some]
  rw [read, Option.bind_some]
  exact if_pos ⟨trivial, rfl, trivial⟩

theorem readBlocks?_packed (lines : List Bytes) :
    readBlocks? (Packed.encode (lines.flatMap Token.ofLine)) = some lines.flatten := by
  have expanded := Token.expandAll_flatMap (fun line done => Token.expandAll_ofLine line done)
    lines []
  rw [readBlocks?, if_pos (Packed.take_marks_encode _), Packed.decode?_encode, expanded,
    List.append_nil, List.reverse_reverse]
  exact congrArg some List.flatMap_id'

theorem decode?_packed (lines : List Bytes) : decode? (packed lines) = some lines.flatten :=
  decode?_ofBlocks (readBlocks?_packed lines)

theorem readBlocks?_stored (data : Bytes) : readBlocks? (Stored.encode data) = some data := by
  have other : (Bits.ofBytes ((Stored.encode data).take 1)).take Packed.marks.length ≠
      Packed.marks := by
    rcases Stored.take_encode data with first | first <;> rw [first] <;> decide
  rw [readBlocks?, if_neg other, Stored.decode?_encode]

theorem decode?_stored (lines : List Bytes) : decode? (stored lines) = some lines.flatten :=
  decode?_ofBlocks (readBlocks?_stored lines.flatten)

end MembershipGrid.Png.Stream
