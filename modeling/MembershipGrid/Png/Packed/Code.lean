import MembershipGrid.Png.PrefixCode

/-!
# The code of packed blocks

A packed block uses one code for bytes, lengths and its end. The code is always the same and gives
the shortest words to bytes near zero. A block starts with a description of it. The word of every
symbol is read back, whatever follows (`read?_word`).
-/

namespace MembershipGrid.Png.Packed

/-- The lengths of the words of the symbols from zero on, each with the number of symbols in a row
whose words have it. -/
def lengthRuns : List (Nat × Nat) :=
  [(2, 1), (3, 1), (4, 1), (5, 2), (6, 2), (7, 3), (8, 5), (9, 7), (10, 9), (11, 12), (12, 171),
    (11, 10), (10, 1), (11, 1), (10, 9), (9, 5), (8, 1), (9, 1), (8, 5), (7, 3), (6, 3), (5, 1),
    (4, 1), (3, 1), (12, 3), (9, 2), (11, 1), (10, 1), (11, 2), (10, 1), (11, 6), (12, 1), (11, 1),
    (12, 11), (9, 1)]

def symbolCount : Nat := 286

def code : PrefixCode :=
  .ofLengths (lengthRuns.flatMap fun (length, count) => List.replicate count length)

def words : Array Bits :=
  Array.ofFn fun symbol : Fin symbolCount => (code.word? symbol.val).getD []

def word (symbol : Nat) : Bits := words[symbol]?.getD []

/-- The symbol of the end. The bytes are below it and the lengths above. -/
def endSymbol : Nat := 256

/-! ## The description of the code -/

/-- The lengths of the words that describe lengths, and of the word for a repeated length. -/
def descriptionLengths : List Nat := [0, 7, 7, 6, 5, 5, 4, 4, 5, 4, 4, 4, 4, 0, 0, 0, 1, 0, 0]

/-- The order in which the lengths of the words that describe lengths are listed. -/
def descriptionOrder : List Nat := [16, 17, 18, 0, 8, 7, 9, 6, 10, 5, 11, 4, 12, 3, 13, 2, 14, 1]

def repeatSymbol : Nat := 16

def descriptionCode : PrefixCode := .ofLengths descriptionLengths

def descriptionWord (symbol : Nat) : Bits := (descriptionCode.word? symbol).getD []

/-- Cuts a count of at least three into parts from three to six, with as many sixes as can be. -/
def repeatCounts (count : Nat) : List Nat :=
  if count % 6 = 0 then List.replicate (count / 6) 6
  else if count % 6 < 3 then List.replicate (count / 6 - 1) 6 ++ [4, count % 6 + 2]
  else List.replicate (count / 6) 6 ++ [count % 6]

/-- The description of a length that is repeated `count` times. Up to two times it is listed
again. -/
def describeRepeats (length count : Nat) : Bits :=
  if count < 3 then (List.replicate count (descriptionWord length)).flatten
  else (repeatCounts count).flatMap fun n => descriptionWord repeatSymbol ++ Bits.number 2 (n - 3)

/-- The description of a length that `run.2` symbols in a row have. -/
def describeRun (run : Nat × Nat) : Bits :=
  descriptionWord run.1 ++ describeRepeats run.1 (run.2 - 1)

/-- The lengths of the words for distances: there is one distance, and its word has one bit. -/
def distanceRuns : List (Nat × Nat) := [(1, 1)]

def distanceWord : Bits := [false]

/-- The marks of the last block and of a block with a code of its own. -/
def marks : Bits := [true, false, true]

/-- The description of the code: the numbers of symbols, of distances and of the lengths of
describing words, these lengths, and the lengths of words. -/
def description : Bits :=
  Bits.number 5 (symbolCount - 257) ++ Bits.number 5 0 ++
    Bits.number 4 (descriptionOrder.length - 4) ++
    (descriptionOrder.flatMap fun symbol => Bits.number 3 (descriptionLengths[symbol]?.getD 0)) ++
    (lengthRuns ++ distanceRuns).flatMap describeRun

def opening : Bits := marks ++ description

/-! ## Words are read as their symbols -/

theorem symbols_code : code.symbols = Nat.pow 2 symbolCount - 1 := by decide +kernel

theorem word?_eq {symbol : Nat} (small : symbol < symbolCount) :
    code.word? symbol = some (word symbol) := by
  have mem : code.symbols.testBit symbol := by
    rw [symbols_code, Nat.pow_eq, Nat.testBit_two_pow_sub_one]
    exact decide_eq_true small
  obtain ⟨w, found⟩ := Option.isSome_iff_exists.1 (PrefixCode.word?_isSome mem)
  simp only [word, words, Array.getElem?_ofFn, dif_pos small, Option.getD_some, found]

theorem read?_word {symbol : Nat} (small : symbol < symbolCount) (rest : Bits) :
    code.read? (word symbol ++ rest) = some (symbol, rest) :=
  PrefixCode.read?_of_word? (word?_eq small) rest

theorem read?_nil : code.read? [] = none := by decide +kernel

theorem length_word_pos {symbol : Nat} (small : symbol < symbolCount) :
    0 < (word symbol).length := by
  apply List.length_pos_iff.2
  intro empty
  have read := read?_word small []
  rw [empty, List.append_nil, read?_nil] at read
  exact Option.some_ne_none _ read.symm

end MembershipGrid.Png.Packed
