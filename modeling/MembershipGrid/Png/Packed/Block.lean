import MembershipGrid.Png.Packed.Code
import MembershipGrid.Png.Token

/-!
# Packed blocks

A packed block starts with the description of its code. Tokens follow, in words of the code, and the
word of the end. Reading a block gives back the bytes that its tokens stand for (`decode?_encode`).
-/

namespace MembershipGrid.Png.Packed

/-! ## Lengths -/

def lengthCount : Nat := 29

/-- How many repeats more than three the length with a given number has at least. -/
def lengthStart (length : Nat) : Nat :=
  if length = 28 then 255
  else if length < 4 then length
  else (4 + length % 4) * Nat.pow 2 (length / 4 - 1)

/-- How many bits say how many more repeats there are. -/
def lengthDigits (length : Nat) : Nat := if length = 28 then 0 else length / 4 - 1

/-- The number of the last length that has at most so many repeats more than three. -/
def lengthFor (more : Nat) : Nat :=
  (List.range lengthCount).countP (fun length => lengthStart length ≤ more) - 1

/-! ## Writing -/

def bits : Token → Bits
  | .literal byte => word byte.toNat
  | .again more =>
    word (endSymbol + 1 + lengthFor more) ++
      (Bits.number (lengthDigits (lengthFor more)) (more - lengthStart (lengthFor more)) ++
        distanceWord)

def encode (tokens : List Token) : Bytes :=
  Bits.toBytes (opening :: (tokens.map bits ++ [word endSymbol])).flatten

/-! ## Reading -/

def readRepeat? (length : Nat) (bits : Bits) : Option (Token × Bits) := do
  let (extra, rest) ← Bits.readNumber? (lengthDigits length) bits
  if rest.take distanceWord.length = distanceWord then
    some (.again ⟨(lengthStart length + extra) % 256, Nat.mod_lt _ (by decide)⟩,
      rest.drop distanceWord.length)
  else none

def readToken? (bits : Bits) : Option (Option Token × Bits) := do
  let (symbol, rest) ← code.read? bits
  if symbol < endSymbol then some (some (.literal (UInt8.ofNat symbol)), rest)
  else if symbol = endSymbol then some (none, rest)
  else
    let (token, rest) ← readRepeat? (symbol - (endSymbol + 1)) rest
    some (some token, rest)

/-- Reads at most `limit` tokens, up to the end. The bytes that are done are held last first. -/
def readTokens? : (limit : Nat) → Bits → (done : Bytes) → Option (Bytes × Bits)
  | 0, _, _ => none
  | limit + 1, bits, done => do
    let (token, rest) ← readToken? bits
    match token with
    | some token => readTokens? limit rest (token.expand done)
    | none => some (done.reverse, rest)

def decode? (block : Bytes) : Option Bytes := do
  let bits := Bits.ofBytes block
  let (data, rest) ← readTokens? bits.length (bits.drop opening.length) []
  if bits.take opening.length = opening ∧ rest.length < 8 then some data else none

/-! ## Reading what was written -/

theorem lengthFor_fits : ∀ more : Fin 256,
    lengthFor more < lengthCount ∧ lengthStart (lengthFor more) ≤ more ∧
      more - lengthStart (lengthFor more) < Nat.pow 2 (lengthDigits (lengthFor more)) := by
  decide +kernel

theorem readRepeat?_bits (more : Fin 256) (rest : Bits) :
    readRepeat? (lengthFor more)
        (Bits.number (lengthDigits (lengthFor more)) (more - lengthStart (lengthFor more)) ++
          (distanceWord ++ rest)) = some (.again more, rest) := by
  have same : (lengthStart (lengthFor more) + (more - lengthStart (lengthFor more))) % 256 = more := by
    rw [Nat.add_sub_cancel' (lengthFor_fits more).2.1]
    exact Nat.mod_eq_of_lt more.isLt
  simp only [readRepeat?, Bits.readNumber?_number (lengthFor_fits more).2.2, Option.bind_eq_bind,
    Option.bind_some, List.take_left, List.drop_left, if_true, same, Fin.eta]

theorem readToken?_bits (token : Token) (rest : Bits) :
    readToken? (bits token ++ rest) = some (some token, rest) := by
  cases token with
  | literal byte =>
    have below : byte.toNat < endSymbol := UInt8.toNat_lt byte
    have read := read?_word (Nat.lt_trans below (by decide)) rest
    simp only [bits, readToken?, read, Option.bind_eq_bind, Option.bind_some, if_pos below,
      UInt8.ofNat_toNat]
  | again more =>
    have small : endSymbol + 1 + lengthFor more < symbolCount := by
      have := (lengthFor_fits more).1
      simp only [endSymbol, symbolCount, lengthCount] at this ⊢
      omega
    have above : ¬endSymbol + 1 + lengthFor more < endSymbol := by omega
    have other : endSymbol + 1 + lengthFor more ≠ endSymbol := by omega
    simp only [bits, readToken?, List.append_assoc, read?_word small, Option.bind_eq_bind,
      Option.bind_some, if_neg above, if_neg other, Nat.add_sub_cancel_left, readRepeat?_bits]

theorem readToken?_end (rest : Bits) : readToken? (word endSymbol ++ rest) = some (none, rest) := by
  have read := read?_word (show endSymbol < symbolCount by decide) rest
  simp only [readToken?, read, Option.bind_eq_bind, Option.bind_some, Nat.lt_irrefl, if_false,
    if_true]

theorem readTokens?_of_token {bits rest : Bits} {token : Token}
    (read : readToken? bits = some (some token, rest)) (limit : Nat) (done : Bytes) :
    readTokens? (limit + 1) bits done = readTokens? limit rest (token.expand done) := by
  rw [readTokens?, read]
  rfl

theorem readTokens?_of_end {bits rest : Bits} (read : readToken? bits = some (none, rest))
    (limit : Nat) (done : Bytes) :
    readTokens? (limit + 1) bits done = some (done.reverse, rest) := by
  rw [readTokens?, read]
  rfl

theorem readTokens?_bits (tokens : List Token) (rest : Bits) (done : Bytes) (limit : Nat)
    (enough : tokens.length < limit) :
    readTokens? limit (tokens.flatMap bits ++ (word endSymbol ++ rest)) done =
      some ((Token.expandAll done tokens).reverse, rest) := by
  induction tokens generalizing done limit with
  | nil =>
    obtain ⟨limit, rfl⟩ : ∃ n, limit = n + 1 := ⟨limit - 1, by simp at enough; omega⟩
    rw [List.flatMap_nil, List.nil_append, readTokens?_of_end (readToken?_end rest)]
    rfl
  | cons token more ih =>
    obtain ⟨limit, rfl⟩ : ∃ n, limit = n + 1 := ⟨limit - 1, by simp at enough; omega⟩
    rw [List.flatMap_cons, List.append_assoc, readTokens?_of_token (readToken?_bits token _),
      ih _ limit (by simpa using enough)]
    rfl

theorem length_bits_pos (token : Token) : 0 < (bits token).length := by
  cases token with
  | literal byte =>
    exact length_word_pos (Nat.lt_trans (UInt8.toNat_lt byte) (by decide))
  | again more =>
    simp only [bits, distanceWord, List.length_append, List.length_singleton]
    omega

theorem length_le_flatMap_bits (tokens : List Token) :
    tokens.length ≤ (tokens.flatMap bits).length := by
  induction tokens with
  | nil => exact Nat.le_refl 0
  | cons token more ih =>
    have := length_bits_pos token
    simp only [List.length_cons, List.flatMap_cons, List.length_append]
    omega

theorem ofBytes_encode (tokens : List Token) :
    ∃ filling, filling.length < 8 ∧ Bits.ofBytes (encode tokens) =
      opening ++ (tokens.flatMap bits ++ (word endSymbol ++ filling)) := by
  obtain ⟨n, small, same⟩ :=
    Bits.ofBytes_toBytes (opening :: (tokens.map bits ++ [word endSymbol])).flatten
  refine ⟨List.replicate n false, by rwa [List.length_replicate], ?_⟩
  rw [encode, same, List.flatten_cons, List.flatten_append, List.flatten_singleton,
    List.flatMap_def, List.append_assoc, List.append_assoc]

theorem decode?_encode (tokens : List Token) :
    decode? (encode tokens) = some (Token.expandAll [] tokens).reverse := by
  obtain ⟨filling, small, same⟩ := ofBytes_encode tokens
  have fewer := length_le_flatMap_bits tokens
  have ending := length_word_pos (show endSymbol < symbolCount by decide)
  have read := readTokens?_bits tokens filling [] (Bits.ofBytes (encode tokens)).length (by
    simp only [same, List.length_append]; omega)
  rw [decode?]
  simp only [same, List.drop_left, List.take_left] at read ⊢
  simp only [read, Option.bind_eq_bind, Option.bind_some]
  exact if_pos ⟨trivial, small⟩

theorem take_marks_encode (tokens : List Token) :
    (Bits.ofBytes ((encode tokens).take 1)).take marks.length = marks := by
  obtain ⟨filling, -, same⟩ := ofBytes_encode tokens
  rw [Bits.ofBytes_take, List.take_take, same, opening, List.append_assoc]
  exact List.take_left

end MembershipGrid.Png.Packed
