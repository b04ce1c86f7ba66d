import MembershipGrid.Text.Utf8

/-!
# Filters

A line packs better once each byte is taken less a prediction. The prediction uses bytes that are
known before: the same channel of the pixel on the left, of the pixel above, and of the corner, the
pixel above the left one. Undoing a filter gives back the line (`undo_apply`).
-/

namespace MembershipGrid.Png

/-- What predicts a byte. -/
inductive Filter where
  /-- Zero: the line is kept as it is. -/
  | plain
  /-- The byte on the left. -/
  | sub
  /-- The byte above. -/
  | up
  /-- The mean of both, rounded down. -/
  | average
  /-- Of the bytes on the left, above and in the corner, the one closest to what they lead to. -/
  | paeth
  deriving DecidableEq

namespace Filter

def mark : Filter → UInt8
  | .plain => 0
  | .sub => 1
  | .up => 2
  | .average => 3
  | .paeth => 4

def ofMark? (byte : UInt8) : Option Filter :=
  [plain, sub, up, average, paeth].find? (·.mark = byte)

/-- Of three bytes, the one closest to the sum of the first two less the third. Of two that are as
close, the one named first. -/
def closest (left above corner : UInt8) : UInt8 :=
  let target : Int := left.toNat + above.toNat - corner.toNat
  let away (byte : UInt8) : Nat := (target - byte.toNat).natAbs
  if away left ≤ away above ∧ away left ≤ away corner then left
  else if away above ≤ away corner then above
  else corner

def predict (left above corner : UInt8) : Filter → UInt8
  | .plain => 0
  | .sub => left
  | .up => above
  | .average => UInt8.ofNat ((left.toNat + above.toNat) / 2)
  | .paeth => closest left above corner

/-- The prediction for the byte below `above` that follows the bytes that are done, each held with
the byte above it, the last one first. Outside of the image there are zeros. -/
def prediction (f : Filter) (done : List (UInt8 × UInt8)) (above : UInt8) : UInt8 :=
  let (left, corner) := done[2]?.getD (0, 0)
  f.predict left above corner

/-- Adds a byte and the byte above it to the bytes that are done, and its difference to theirs. -/
def applyByte (f : Filter) (state : List (UInt8 × UInt8) × Bytes) (byte : UInt8 × UInt8) :
    List (UInt8 × UInt8) × Bytes :=
  (byte :: state.1, (byte.1 - f.prediction state.1 byte.2) :: state.2)

def apply (f : Filter) (above line : Bytes) : Bytes :=
  ((line.zip above).foldl f.applyByte ([], [])).2.reverse

/-- Adds the byte with a given difference, and the byte above it, to the bytes that are done. -/
def undoByte (f : Filter) (done : List (UInt8 × UInt8)) (difference : UInt8 × UInt8) :
    List (UInt8 × UInt8) :=
  (difference.1 + f.prediction done difference.2, difference.2) :: done

/-- The line whose bytes less their predictions are given. -/
def undo (f : Filter) (above differences : Bytes) : Bytes :=
  ((differences.zip above).foldl f.undoByte []).reverse.map Prod.fst

/-! ## The choice of a filter -/

def distance (byte : UInt8) : Nat := min byte.toNat (256 - byte.toNat)

def weight (line : Bytes) : Nat := line.foldl (fun sum byte => sum + distance byte) 0

/-- The later of two candidates, if it is not heavier. -/
def lighter (first second : Nat × Filter) : Nat × Filter :=
  if second.1 ≤ first.1 then second else first

/-- The filter that leaves the least of a line; of those that leave the same, the last one. -/
def lightest (above line : Bytes) : Filter :=
  let weighed (f : Filter) := (weight (f.apply above line), f)
  ([up, average, paeth].foldl (fun best f => lighter best (weighed f)) (weighed sub)).2

/-! ## Undoing a filter -/

theorem ofMark?_mark (f : Filter) : ofMark? f.mark = some f := by
  cases f <;> decide

theorem foldl_applyByte (f : Filter) (bytes done : List (UInt8 × UInt8)) (rest : Bytes) :
    (bytes.foldl f.applyByte (done, rest)).2.reverse =
      rest.reverse ++ (bytes.foldl f.applyByte (done, [])).2.reverse := by
  induction bytes generalizing done rest with
  | nil => simp
  | cons byte more ih =>
    rw [List.foldl_cons, applyByte, ih, List.foldl_cons, applyByte, ih _ [_]]
    simp

theorem foldl_undoByte (f : Filter) (bytes done : List (UInt8 × UInt8)) (above : Bytes)
    (same : bytes.map Prod.snd = above.take bytes.length) :
    ((bytes.foldl f.applyByte (done, [])).2.reverse.zip above).foldl f.undoByte done =
      bytes.reverse ++ done := by
  induction bytes generalizing done above with
  | nil => rfl
  | cons byte more ih =>
    cases above with
    | nil => simp at same
    | cons up later =>
      obtain ⟨rfl, later_same⟩ := List.cons.inj same
      rw [List.foldl_cons, applyByte, foldl_applyByte, List.reverse_singleton,
        List.singleton_append, List.zip_cons_cons, List.foldl_cons, undoByte, UInt8.sub_add_cancel,
        ih _ _ later_same, List.reverse_cons, List.append_assoc, List.singleton_append]

theorem length_apply (f : Filter) {above line : Bytes} (same : line.length = above.length) :
    (f.apply above line).length = line.length := by
  have count : ∀ (bytes done : List (UInt8 × UInt8)) (rest : Bytes),
      (bytes.foldl f.applyByte (done, rest)).2.length = rest.length + bytes.length := by
    intro bytes
    induction bytes with
    | nil => exact fun _ _ => rfl
    | cons byte more ih =>
      intro done rest
      rw [List.foldl_cons, applyByte, ih]
      simp only [List.length_cons]
      omega
  rw [apply, List.length_reverse, count, List.length_zip, same, Nat.min_self]
  exact Nat.zero_add _

theorem undo_apply (f : Filter) {above line : Bytes} (same : line.length = above.length) :
    f.undo above (f.apply above line) = line := by
  have pairs : (line.zip above).map Prod.snd = above.take (line.zip above).length := by
    rw [List.map_snd_zip (Nat.le_of_eq same.symm), List.length_zip, same, Nat.min_self,
      List.take_length]
  rw [undo, apply, foldl_undoByte f _ _ _ pairs, List.append_nil, List.reverse_reverse,
    List.map_fst_zip (Nat.le_of_eq same)]

end Filter

end MembershipGrid.Png
