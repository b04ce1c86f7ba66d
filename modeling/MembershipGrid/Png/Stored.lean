import MembershipGrid.Png.Field
import MembershipGrid.RowMajor

/-!
# Stored blocks

Bytes can be stored as they are, in blocks of at most `blockSize` bytes. The last block is marked,
and it is empty only if there is nothing to store. Reading the blocks gives back the bytes
(`decode?_encode`).
-/

namespace MembershipGrid.Png.Stored

def blockSize : Nat := 65535

def block (last : Bool) (data : Bytes) : Bytes :=
  [if last then 1 else 0] ++ (number 2 data.length).reverse ++
    (number 2 (blockSize - data.length)).reverse ++ data

def blocks (pieces : List Bytes) : Bytes :=
  pieces.dropLast.flatMap (block false) ++ block true (pieces.getLast?.getD [])

def encode (data : Bytes) : Bytes := blocks (RowMajor.pieces blockSize data)

def readBlock? : Bytes → Option (Bool × Bytes × Bytes)
  | [] => none
  | kind :: bytes => do
    let (size, bytes) ← take? 2 bytes
    let (complement, bytes) ← take? 2 bytes
    let (data, bytes) ← take? (value size.reverse) bytes
    if kind ≤ 1 ∧ value complement.reverse = blockSize - data.length then
      some (kind = 1, data, bytes)
    else none

def readBlocks? : (limit : Nat) → Bytes → Option (Bytes × Bytes)
  | 0, _ => none
  | limit + 1, bytes => do
    let (last, data, rest) ← readBlock? bytes
    if last then return (data, rest)
    let (more, rest) ← readBlocks? limit rest
    return (data ++ more, rest)

def decode? (bytes : Bytes) : Option Bytes := do
  let (data, rest) ← readBlocks? bytes.length bytes
  if rest = [] then some data else none

/-! ## Reading what was written -/

theorem take?_reverse_number (count n : Nat) (rest : Bytes) :
    take? count ((number count n).reverse ++ rest) = some ((number count n).reverse, rest) := by
  have cut := take?_append (number count n).reverse rest
  rwa [List.length_reverse, length_number] at cut

theorem readBlock?_block (last : Bool) (data rest : Bytes) (fits : data.length ≤ blockSize) :
    readBlock? (block last data ++ rest) = some (last, data, rest) := by
  have size : value (number 2 data.length) = data.length :=
    value_number (Nat.lt_succ_of_le fits)
  have complement : value (number 2 (blockSize - data.length)) = blockSize - data.length :=
    value_number (Nat.lt_succ_of_le (Nat.sub_le _ _))
  cases last <;> simp [block, readBlock?, take?_reverse_number, size, take?_append, complement]

theorem readBlocks?_flatMap {pieces : List Bytes} {last : Bytes}
    (fit : ∀ data ∈ pieces, data.length ≤ blockSize) (last_fits : last.length ≤ blockSize)
    (limit : Nat) (enough : pieces.length < limit) :
    readBlocks? limit (pieces.flatMap (block false) ++ block true last) =
      some (pieces.flatten ++ last, []) := by
  induction pieces generalizing limit with
  | nil =>
    obtain ⟨limit, rfl⟩ : ∃ n, limit = n + 1 := ⟨limit - 1, by simp at enough; omega⟩
    have read := readBlock?_block true last [] last_fits
    rw [List.append_nil] at read
    simp [readBlocks?, read]
  | cons data more ih =>
    obtain ⟨limit, rfl⟩ : ∃ n, limit = n + 1 := ⟨limit - 1, by simp at enough; omega⟩
    have later := ih (fun d h => fit d (List.mem_cons_of_mem _ h)) limit (by simpa using enough)
    simp [readBlocks?, readBlock?_block false data _ (fit data List.mem_cons_self), later]

theorem length_le_flatMap_block (pieces : List Bytes) :
    pieces.length ≤ (pieces.flatMap (block false)).length := by
  induction pieces with
  | nil => exact Nat.le_refl 0
  | cons data more ih =>
    simp only [List.length_cons, List.flatMap_cons, List.length_append, block]
    omega

theorem decode?_blocks {pieces : List Bytes} (fit : ∀ data ∈ pieces, data.length ≤ blockSize) :
    decode? (blocks pieces) = some pieces.flatten := by
  have front_fit : ∀ data ∈ pieces.dropLast, data.length ≤ blockSize := fun data h =>
    fit data (List.dropLast_subset pieces h)
  have last_fits : (pieces.getLast?.getD []).length ≤ blockSize := by
    cases last : pieces.getLast? with
    | none => exact Nat.zero_le _
    | some data => exact fit data (List.mem_of_getLast? last)
  have enough : pieces.dropLast.length < (blocks pieces).length := by
    have fewer := length_le_flatMap_block pieces.dropLast
    simp only [blocks, block, List.length_append, List.length_singleton]
    omega
  have whole : pieces.dropLast.flatten ++ pieces.getLast?.getD [] = pieces.flatten := by
    rcases List.eq_nil_or_concat pieces with rfl | ⟨front, last, rfl⟩ <;> simp
  have read := readBlocks?_flatMap front_fit last_fits _ enough
  rw [← blocks, whole] at read
  simp only [decode?, read, Option.bind_eq_bind, Option.bind_some, if_true]

theorem decode?_encode (data : Bytes) : decode? (encode data) = some data := by
  rw [encode, decode?_blocks fun _ h => RowMajor.length_of_mem_pieces h,
    RowMajor.flatten_pieces (by decide)]

/-- The first byte of stored blocks has only its lowest bit for a mark. -/
theorem take_encode (data : Bytes) : (encode data).take 1 = [0] ∨ (encode data).take 1 = [1] := by
  rw [encode, blocks]
  cases (RowMajor.pieces blockSize data).dropLast with
  | nil => exact .inr rfl
  | cons first more => exact .inl rfl

end MembershipGrid.Png.Stored
