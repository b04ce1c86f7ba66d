import MembershipGrid.Text.Utf8

/-!
# Tokens of packed data

Packed data is a list of tokens: a byte, or the last byte again some times. A line is cut into runs
of zeros, which are repeated, and the bytes between them, which stand for themselves. The tokens of
a line expand to the line (`expandAll_ofLine`).
-/

namespace MembershipGrid.Png

inductive Token where
  /-- A byte. -/
  | literal (byte : UInt8)
  /-- The last byte again, three times and `more` times. -/
  | again (more : Fin 256)
  deriving DecidableEq

/-- Some zeros and the bytes that follow them. -/
structure Span where
  zeros : Nat
  data : Bytes

def Span.bytes (s : Span) : Bytes := List.replicate s.zeros 0 ++ s.data

namespace Token

/-! ## Expanding -/

/-- Puts what a token stands for behind the bytes that are done, which are held last first. -/
def expand (done : Bytes) : Token → Bytes
  | .literal byte => byte :: done
  | .again more => List.replicate (more + 3) (done.headD 0) ++ done

def expandAll (done : Bytes) (tokens : List Token) : Bytes := tokens.foldl expand done

/-! ## Packing a line -/

def maxRepeat : Nat := 258

/-- The tokens that repeat a zero. Up to four times it is written again. -/
def repeatZero (count : Nat) : List Token :=
  List.replicate (count / maxRepeat) (.again 255) ++
    if 4 < count % maxRepeat then [.again (Fin.ofNat 256 (count % maxRepeat - 3))]
    else List.replicate (count % maxRepeat) (.literal 0)

def zeros : Nat → List Token
  | 0 => []
  | count + 1 => .literal 0 :: repeatZero count

def ofSpan (s : Span) : List Token := zeros s.zeros ++ s.data.map .literal

/-- How many zeros at the start of a piece go on with an open run, and the bytes after them. -/
def leading (run : Nat) (piece : Bytes) : Nat × Bytes :=
  if run = 0 then (0, piece)
  else ((piece.takeWhile (· == 0)).length, piece.dropWhile (· == 0))

/-- The bytes up to the zeros at the end, and how many zeros these are. -/
def trailing (piece : Bytes) : Bytes × Nat :=
  ((piece.reverse.dropWhile (· == 0)).reverse, (piece.reverse.takeWhile (· == 0)).length)

/-- The spans of a line, which is looked at in pieces of eight bytes. A run of zeros starts at the
end of a piece and goes on as long as there are whole pieces. Here `run` zeros are open, `count`
whole pieces are left, and the spans that are done are held last first. -/
def spansAfter : (count : Nat) → (line : Bytes) → (run : Nat) → (done : List Span) → List Span
  | 0, line, run, done => (⟨0, line⟩ :: ⟨run, []⟩ :: done).reverse
  | count + 1, line, run, done =>
    let piece := line.take 8
    if piece.all (· == 0) then spansAfter count (line.drop 8) (run + piece.length) done
    else
      let (lead, rest) := leading run piece
      let (data, tail) := trailing rest
      spansAfter count (line.drop 8) tail (⟨run + lead, data⟩ :: done)

def ofLine (line : Bytes) : List Token :=
  (spansAfter (line.length / 8) line 0 []).flatMap ofSpan

/-! ## Packing loses nothing -/

theorem expandAll_append (done : Bytes) (first second : List Token) :
    expandAll done (first ++ second) = expandAll (expandAll done first) second :=
  List.foldl_append

theorem expandAll_map_literal (done data : Bytes) :
    expandAll done (data.map .literal) = data.reverse ++ done := by
  induction data generalizing done with
  | nil => rfl
  | cons byte more ih =>
    rw [List.map_cons, expandAll, List.foldl_cons, ← expandAll, ih, expand, List.reverse_cons,
      List.append_assoc, List.singleton_append]

theorem expandAll_replicate_literal (count : Nat) (done : Bytes) :
    expandAll done (List.replicate count (.literal 0)) = List.replicate count 0 ++ done := by
  rw [← List.map_replicate, expandAll_map_literal, List.reverse_replicate]

theorem headD_zeros (count : Nat) {done : Bytes} (zero : done.headD 0 = 0) :
    (List.replicate count 0 ++ done).headD 0 = 0 := by
  cases count with
  | zero => exact zero
  | succ count => rfl

theorem expand_again (more : Fin 256) {done : Bytes} (zero : done.headD 0 = 0) :
    expand done (.again more) = List.replicate (more + 3) 0 ++ done := by
  rw [expand, zero]

theorem expandAll_replicate_again (count : Nat) {done : Bytes} (zero : done.headD 0 = 0) :
    expandAll done (List.replicate count (.again 255)) =
      List.replicate (maxRepeat * count) 0 ++ done := by
  induction count generalizing done with
  | zero => rfl
  | succ count ih =>
    rw [List.replicate_succ, expandAll, List.foldl_cons, ← expandAll, expand_again _ zero,
      ih (headD_zeros _ zero), ← List.append_assoc, List.replicate_append_replicate, Nat.mul_succ]
    rfl

theorem expandAll_repeatZero (count : Nat) {done : Bytes} (zero : done.headD 0 = 0) :
    expandAll done (repeatZero count) = List.replicate count 0 ++ done := by
  have whole := Nat.div_add_mod count maxRepeat
  rw [repeatZero, expandAll_append, expandAll_replicate_again _ zero]
  split
  · next long =>
    have part := Nat.mod_lt count (show 0 < maxRepeat by decide)
    have more : (Fin.ofNat 256 (count % maxRepeat - 3)).val + 3 = count % maxRepeat := by
      simp only [maxRepeat] at part long ⊢
      rw [Fin.val_ofNat]
      omega
    rw [expandAll, List.foldl_cons, List.foldl_nil, expand_again _ (headD_zeros _ zero), more,
      ← List.append_assoc, List.replicate_append_replicate, Nat.add_comm, whole]
  · rw [expandAll_replicate_literal, ← List.append_assoc, List.replicate_append_replicate,
      Nat.add_comm, whole]

theorem expandAll_zeros (count : Nat) (done : Bytes) :
    expandAll done (zeros count) = List.replicate count 0 ++ done := by
  cases count with
  | zero => rfl
  | succ count =>
    rw [zeros, expandAll, List.foldl_cons, ← expandAll, expand, expandAll_repeatZero _ rfl,
      List.append_cons, ← List.replicate_succ']

theorem expandAll_ofSpan (done : Bytes) (s : Span) :
    expandAll done (ofSpan s) = s.bytes.reverse ++ done := by
  rw [ofSpan, expandAll_append, expandAll_zeros, expandAll_map_literal, Span.bytes,
    List.reverse_append, List.reverse_replicate, List.append_assoc]

theorem expandAll_flatMap {α : Type} {pack : α → List Token} {bytes : α → Bytes}
    (each : ∀ item done, expandAll done (pack item) = (bytes item).reverse ++ done)
    (items : List α) (done : Bytes) :
    expandAll done (items.flatMap pack) = (items.flatMap bytes).reverse ++ done := by
  induction items generalizing done with
  | nil => rfl
  | cons item more ih =>
    rw [List.flatMap_cons, expandAll_append, each, ih, List.flatMap_cons, List.reverse_append,
      List.append_assoc]

theorem replicate_leading (run : Nat) (piece : Bytes) :
    List.replicate (leading run piece).1 0 ++ (leading run piece).2 = piece := by
  rw [leading]
  split
  · rfl
  · have zeros := List.eq_replicate_of_mem fun byte mem =>
      eq_of_beq (List.all_eq_true.1 (List.all_takeWhile (l := piece) (p := (· == 0))) byte mem)
    rw [← zeros, List.takeWhile_append_dropWhile]

theorem trailing_replicate (piece : Bytes) :
    (trailing piece).1 ++ List.replicate (trailing piece).2 0 = piece := by
  have same := congrArg List.reverse (replicate_leading 1 piece.reverse)
  rwa [List.reverse_append, List.reverse_replicate, List.reverse_reverse] at same

theorem flatMap_spansAfter (count : Nat) (line : Bytes) (run : Nat) (done : List Span) :
    (spansAfter count line run done).flatMap Span.bytes =
      done.reverse.flatMap Span.bytes ++ (List.replicate run 0 ++ line) := by
  induction count generalizing line run done with
  | zero => simp [spansAfter, Span.bytes]
  | succ count ih =>
    have whole := List.take_append_drop 8 line
    simp only [spansAfter]
    split
    · next blank =>
      have zeros : line.take 8 = List.replicate (line.take 8).length 0 :=
        List.eq_replicate_of_mem fun byte mem => eq_of_beq (List.all_eq_true.1 blank byte mem)
      rw [ih, ← List.replicate_append_replicate, ← zeros, List.append_assoc, whole]
    · have lead := replicate_leading run (line.take 8)
      have tail := trailing_replicate (leading run (line.take 8)).2
      rw [ih, List.reverse_cons, List.flatMap_append, List.flatMap_singleton, Span.bytes,
        ← List.replicate_append_replicate]
      simp only [List.append_assoc]
      rw [← List.append_assoc _ _ (line.drop 8), tail, ← List.append_assoc _ _ (line.drop 8), lead,
        whole]

theorem expandAll_ofLine (line done : Bytes) :
    expandAll done (ofLine line) = line.reverse ++ done := by
  rw [ofLine, expandAll_flatMap fun s done => expandAll_ofSpan done s, flatMap_spansAfter]
  rfl

end Token

end MembershipGrid.Png
