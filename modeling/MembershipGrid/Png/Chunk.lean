import MembershipGrid.Png.Checksum
import MembershipGrid.Png.Field

/-!
# Chunks

An image file is a sequence of chunks. A chunk has a length, a name of four letters, data and a
checksum of the name and the data. Chunks are read back as they were written (`readAll?_encode`).
-/

namespace MembershipGrid.Png

structure Chunk where
  name : Bytes
  data : Bytes
  deriving DecidableEq

namespace Chunk

def header : Bytes := [0x49, 0x48, 0x44, 0x52]

def pixels : Bytes := [0x49, 0x44, 0x41, 0x54]

def trailer : Bytes := [0x49, 0x45, 0x4e, 0x44]

def encode (c : Chunk) : Bytes :=
  number 4 c.data.length ++ c.name ++ c.data ++ number 4 (crc (c.name ++ c.data)).toNat

def read? (bytes : Bytes) : Option (Chunk × Bytes) := do
  let (size, bytes) ← readNumber? 4 bytes
  let (name, bytes) ← take? 4 bytes
  let (data, bytes) ← take? size bytes
  let (sum, bytes) ← readNumber? 4 bytes
  if sum = (crc (name ++ data)).toNat then some (⟨name, data⟩, bytes) else none

/-- Reads at most `limit` chunks, up to the trailer. What follows the trailer is not looked at. -/
def readAll? : (limit : Nat) → Bytes → Option (List Chunk)
  | 0, _ => none
  | limit + 1, bytes => do
    let (chunk, rest) ← read? bytes
    if chunk.name = trailer then return [chunk]
    return chunk :: (← readAll? limit rest)

/-! ## Reading what was written -/

theorem read?_encode {c : Chunk} (name_length : c.name.length = 4)
    (data_small : c.data.length < Nat.pow 256 4) (rest : Bytes) :
    read? (c.encode ++ rest) = some (c, rest) := by
  have sum_small : (crc (c.name ++ c.data)).toNat < Nat.pow 256 4 := UInt32.toNat_lt _
  have name := take?_append c.name (c.data ++ (number 4 (crc (c.name ++ c.data)).toNat ++ rest))
  rw [name_length] at name
  simp only [encode, List.append_assoc, read?, readNumber?_number data_small, Option.bind_eq_bind,
    Option.bind_some, name, take?_append, readNumber?_number sum_small, if_true]

theorem readAll?_encode {chunks : List Chunk}
    (proper : ∀ c ∈ chunks, c.name.length = 4 ∧ c.data.length < Nat.pow 256 4 ∧ c.name ≠ trailer)
    (rest : Bytes) (limit : Nat) (enough : chunks.length < limit) :
    readAll? limit (chunks.flatMap encode ++ (encode ⟨trailer, []⟩ ++ rest)) =
      some (chunks ++ [⟨trailer, []⟩]) := by
  induction chunks generalizing limit with
  | nil =>
    obtain ⟨limit, rfl⟩ : ∃ n, limit = n + 1 := ⟨limit - 1, by simp at enough; omega⟩
    have last := read?_encode (c := ⟨trailer, []⟩) rfl (by decide) rest
    simp [readAll?, last]
  | cons c more ih =>
    obtain ⟨limit, rfl⟩ : ∃ n, limit = n + 1 := ⟨limit - 1, by simp at enough; omega⟩
    obtain ⟨name_length, data_small, not_last⟩ := proper c List.mem_cons_self
    have first := read?_encode name_length data_small
      (more.flatMap encode ++ (encode ⟨trailer, []⟩ ++ rest))
    have later := ih (fun c h => proper c (List.mem_cons_of_mem _ h)) limit (by simpa using enough)
    simp only [List.flatMap_cons, List.append_assoc, readAll?, first, Option.bind_eq_bind,
      Option.bind_some, not_last, if_false, later, Option.pure_def, List.cons_append]

end Chunk

end MembershipGrid.Png
