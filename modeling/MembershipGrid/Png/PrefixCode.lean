import MembershipGrid.Png.Bits

/-!
# Prefix codes

A prefix code gives words of bits to symbols, so that no word starts another one. It is a tree whose
leaves are the symbols; the way to a leaf is its word. A word is read as its symbol, whatever
follows (`read?_append`).
-/

namespace MembershipGrid.Png

/-- A prefix code for numbered symbols. -/
inductive PrefixCode where
  | unused
  | leaf (symbol : Nat)
  | fork (zero one : PrefixCode)
  deriving DecidableEq

namespace PrefixCode

def read? : PrefixCode → Bits → Option (Nat × Bits)
  | .leaf symbol, bits => some (symbol, bits)
  | .fork zero _, false :: bits => zero.read? bits
  | .fork _ one, true :: bits => one.read? bits
  | _, _ => none

def words : PrefixCode → List (Nat × Bits)
  | .unused => []
  | .leaf symbol => [(symbol, [])]
  | .fork zero one =>
    (zero.words.map fun (symbol, word) => (symbol, false :: word)) ++
      one.words.map fun (symbol, word) => (symbol, true :: word)

def word? (code : PrefixCode) (symbol : Nat) : Option Bits := code.words.lookup symbol

/-- The code for the symbols of a list, which are given with the lengths of their words, and the
symbols that are left when the code is full. A symbol that is due gets the word that has led here;
at most `limit` more bits are added to it. -/
def grow (depth : Nat) : (limit : Nat) → List (Nat × Nat) → PrefixCode × List (Nat × Nat)
  | _, [] => (.unused, [])
  | 0, (symbol, _) :: later => (.leaf symbol, later)
  | limit + 1, (symbol, length) :: later =>
    if length ≤ depth then (.leaf symbol, later)
    else
      let (zero, rest) := grow (depth + 1) limit ((symbol, length) :: later)
      let (one, rest) := grow (depth + 1) limit rest
      (.fork zero one, rest)

def maxLength : Nat := 15

def ofLength (lengths : List Nat) (length : Nat) : List (Nat × Nat) :=
  (lengths.zipIdx.filter (·.1 = length)).map fun (length, symbol) => (symbol, length)

/-- The code in which the symbols from zero on have words of the given lengths. Shorter words come
first, and among words of one length the lower symbols. A length of zero means no word. -/
def ofLengths (lengths : List Nat) : PrefixCode :=
  (grow 0 maxLength ((List.range maxLength).flatMap fun n => ofLength lengths (n + 1))).1

/-! ## Words are read as their symbols -/

theorem read?_append {code : PrefixCode} {symbol : Nat} {word : Bits}
    (mem : (symbol, word) ∈ code.words) (rest : Bits) :
    code.read? (word ++ rest) = some (symbol, rest) := by
  induction code generalizing word with
  | unused => simp [words] at mem
  | leaf s =>
    obtain ⟨rfl, rfl⟩ := Prod.mk.inj (List.mem_singleton.1 mem)
    rfl
  | fork zero one zero_ih one_ih =>
    rcases List.mem_append.1 mem with below | below
    · obtain ⟨⟨s, w⟩, leaf_mem, same⟩ := List.mem_map.1 below
      obtain ⟨rfl, rfl⟩ := Prod.mk.inj same
      exact zero_ih leaf_mem
    · obtain ⟨⟨s, w⟩, leaf_mem, same⟩ := List.mem_map.1 below
      obtain ⟨rfl, rfl⟩ := Prod.mk.inj same
      exact one_ih leaf_mem

theorem mem_of_word? {code : PrefixCode} {symbol : Nat} {word : Bits}
    (found : code.word? symbol = some word) : (symbol, word) ∈ code.words := by
  obtain ⟨before, after, split, -⟩ := List.lookup_eq_some_iff.1 found
  rw [split]
  exact List.mem_append_right before List.mem_cons_self

theorem read?_of_word? {code : PrefixCode} {symbol : Nat} {word : Bits}
    (found : code.word? symbol = some word) (rest : Bits) :
    code.read? (word ++ rest) = some (symbol, rest) :=
  read?_append (mem_of_word? found) rest

/-! ## Which symbols have words -/

/-- The set of the symbols that have words: bit `n` is set if symbol `n` has one. -/
def symbols (code : PrefixCode) : Nat := code.words.foldr (fun entry set => set ||| Nat.pow 2 entry.1) 0

theorem word?_isSome {code : PrefixCode} {symbol : Nat} (mem : code.symbols.testBit symbol) :
    (code.word? symbol).isSome := by
  rw [symbols] at mem
  rw [word?]
  revert mem
  induction code.words with
  | nil => exact fun mem => absurd mem (by simp)
  | cons entry more ih =>
    intro mem
    rw [List.foldr_cons, Nat.testBit_or, Bool.or_eq_true, Nat.pow_eq, Nat.testBit_two_pow] at mem
    rw [List.lookup_cons]
    split
    · rfl
    · next other =>
      rcases mem with later | here
      · exact ih later
      · rw [of_decide_eq_true here, beq_self_eq_true] at other
        exact absurd other (by decide)

end PrefixCode

end MembershipGrid.Png
