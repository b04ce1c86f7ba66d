import MembershipGrid.Png.RoundTrip
import MembershipGrid.Proofs.Failures
import MembershipGrid.Proofs.Lemmas.Reckoning
import Mathlib.Algebra.Group.Nat.Defs

/-!
# Saving images

A raster is saved if its sides fit into an image file, and what is read back from the file is the raster. Where
a side is too long nothing is written, and where a side is empty the file is left without content.
-/

namespace MembershipGrid

open Reckoning (Gives)

variable {r : Raster} {path : String} {w v : World} {place : Location}

/-- A product, or the largest count if the product exceeds it. -/
def Reckoning.mulBounded (m n : Nat) : Reckoning Nat := ⟨Raster.boundedMul m n, [Raster.boundedMul m n]⟩

namespace Raster

/-- Saving, with the products that are worked out before anything is written. -/
def reckonSave (r : Raster) (path : String) : Reckoning (ExceptT GridError Script Unit) :=
  if Png.maxSide < r.width ∨ Png.maxSide < r.height then do
    let expected ← Reckoning.mulBounded (← Reckoning.mulBounded r.width r.height) 3
    return throw (.wrongSize r.width r.height expected r.data.length)
  else do
    let expected ← Reckoning.mul (← Reckoning.mul r.width r.height) 3
    match ofBytes? r.width r.height r.data with
    | none => return throw (.wrongSize r.width r.height expected r.data.length)
    | some image => return image.write path

/-! ## Products -/

theorem boundedMul_boundedMul (a b : Nat) :
    boundedMul (boundedMul a b) 3 = min (3 * a * b) maxCount := by
  have triple : 3 * a * b = a * b * 3 := by ac_rfl
  rw [boundedMul, boundedMul, triple]
  omega

theorem gives_mulBounded (a b : Nat) : Gives maxCount (Reckoning.mulBounded a b) (boundedMul a b) :=
  ⟨rfl, fun _ hn => List.mem_singleton.mp hn ▸ Nat.min_le_right _ _⟩

theorem gives_reckonSave_of_long (long : Png.maxSide < r.width ∨ Png.maxSide < r.height) :
    Gives maxCount (r.reckonSave path) (r.save path) := by
  rw [reckonSave, if_pos long, save, if_pos long]
  exact (gives_mulBounded _ _).bind ((gives_mulBounded _ _).bind (Reckoning.gives_pure _ _))

theorem gives_reckonSave {bound : Nat} (fits : r.width ≤ Png.maxSide ∧ r.height ≤ Png.maxSide)
    (held : r.data.length ≤ bound) : Gives bound (r.reckonSave path) (r.save path) := by
  have bytes : r.width * r.height * 3 ≤ bound := r.length_data ▸ held
  rw [reckonSave, if_neg (by omega), save_of_fits fits, ofBytes?_data]
  exact (Reckoning.gives_mul (by omega)).bind ((Reckoning.gives_mul bytes).bind (Reckoning.gives_pure _ _))

/-! ## Outcomes -/

theorem run_save_of_long (long : Png.maxSide < r.width ∨ Png.maxSide < r.height) (path : String) (w : World) :
    (r.save path).run.run w =
      (.error (.wrongSize r.width r.height (min (3 * r.width * r.height) maxCount) r.data.length), w) := by
  rw [save, if_pos long, boundedMul_boundedMul]
  rfl

theorem run_save_of_empty (fits : r.width ≤ Png.maxSide ∧ r.height ≤ Png.maxSide)
    (empty : r.width = 0 ∨ r.height = 0) (ht : w.disk.target path = .ok place) :
    (r.save path).run.run w =
      (.error (.storage path (if r.width = 0 then .zeroWidth else .zeroHeight)),
        { w with disk := w.disk.store place (.file []) }) := by
  rw [save_of_fits fits, write]
  split
  · exact Script.run_bind_of_ok (run_writeImage ht [])
  · rw [if_pos (by omega)]
    exact Script.run_bind_of_ok (run_writeImage ht [])

theorem run_save_of_error {e : StorageError} (fits : r.width ≤ Png.maxSide ∧ r.height ≤ Png.maxSide)
    (ht : w.disk.target path = .error e) : (r.save path).run.run w = (.error (.storage path e), w) := by
  rw [save_of_fits fits, write]
  split
  · exact Script.run_bind_of_error (run_writeImage_of_error ht [])
  · split
    · exact Script.run_bind_of_error (run_writeImage_of_error ht [])
    · exact run_writeImage_of_error ht (Png.encode r)

/-- The ways in which saving can end. -/
inductive SaveRun (r : Raster) (path : String) (w : World) : Except GridError Unit × World → Prop
  | long : Png.maxSide < r.width ∨ Png.maxSide < r.height → SaveRun r path w
      (.error (.wrongSize r.width r.height (min (3 * r.width * r.height) maxCount) r.data.length), w)
  | unopened {e : StorageError} : w.disk.target path = .error e →
      SaveRun r path w (.error (.storage path e), w)
  | empty {place : Location} : r.width = 0 ∨ r.height = 0 → w.disk.target path = .ok place →
      SaveRun r path w (.error (.storage path (if r.width = 0 then .zeroWidth else .zeroHeight)),
        { w with disk := w.disk.store place (.file []) })
  | saved {place : Location} : 0 < r.width ∧ r.width ≤ Png.maxSide → 0 < r.height ∧ r.height ≤ Png.maxSide →
      w.disk.target path = .ok place →
      SaveRun r path w (.ok (), { w with disk := w.disk.store place (.file (Png.encode r)) })

theorem saveRun (r : Raster) (path : String) (w : World) : SaveRun r path w ((r.save path).run.run w) := by
  by_cases fits : r.width ≤ Png.maxSide ∧ r.height ≤ Png.maxSide
  · cases ht : w.disk.target path with
    | error e =>
        rw [run_save_of_error fits ht]
        exact .unopened ht
    | ok place =>
        by_cases empty : r.width = 0 ∨ r.height = 0
        · rw [run_save_of_empty fits empty ht]
          exact .empty empty ht
        · have width : 0 < r.width ∧ r.width ≤ Png.maxSide := by omega
          have height : 0 < r.height ∧ r.height ≤ Png.maxSide := by omega
          rw [run_save ht width height]
          exact .saved width height ht
  · have long : Png.maxSide < r.width ∨ Png.maxSide < r.height := by omega
    rw [run_save_of_long long]
    exact .long long

theorem exists_run_save_iff :
    (∃ v, (r.save path).run.run w = (.ok (), v)) ↔
      (∃ place, w.disk.target path = .ok place) ∧ (0 < r.width ∧ r.width ≤ Png.maxSide) ∧
        0 < r.height ∧ r.height ≤ Png.maxSide := by
  constructor
  · rintro ⟨v, ended⟩
    have ran := saveRun r path w
    rw [ended] at ran
    cases ran with
    | saved width height ht => exact ⟨⟨_, ht⟩, width, height⟩
  · rintro ⟨⟨place, ht⟩, width, height⟩
    exact ⟨_, run_save ht width height⟩

/-- A raster is saved exactly if the file can be opened and each side has from one to 2³² - 1 pixels, and then the
file holds the rows of the raster. A side that is too long is refused first, and nothing is touched; the count in
the error is exact up to the largest one. Only then an empty side is refused, with the file open. No product on the
way is too large. -/
theorem saves_what_fits (r : Raster) (path : String) (w : World) :
    ((∃ v, (r.save path).run.run w = (.ok (), v)) ↔
      (∃ place, w.disk.target path = .ok place) ∧
        (1 ≤ r.width ∧ r.width ≤ 2 ^ 32 - 1) ∧ 1 ≤ r.height ∧ r.height ≤ 2 ^ 32 - 1) ∧
    (∀ v, (r.save path).run.run w = (.ok (), v) →
      Disk.ChangedAt (w.disk.targets {path}) w.disk v.disk ∧
      ∃ content image, v.disk.read path = .ok content ∧ Png.decode? content = some image ∧
        image.width = r.width ∧ image.height = r.height ∧
        ∀ row < r.height,
          image.rows[row]? = some ((r.data.drop (row * (r.width * 3))).take (r.width * 3))) ∧
    (2 ^ 32 - 1 < r.width ∨ 2 ^ 32 - 1 < r.height →
      (r.save path).run.run w = (.error (.wrongSize r.width r.height
        (min (3 * r.width * r.height) (2 ^ 64 - 1)) r.data.length), w) ∧
      Gives (2 ^ 64 - 1) (r.reckonSave path) (r.save path)) ∧
    (r.width ≤ 2 ^ 32 - 1 ∧ r.height ≤ 2 ^ 32 - 1 →
      (∀ bound, r.data.length ≤ bound → Gives bound (r.reckonSave path) (r.save path)) ∧
      (r.width = 0 ∨ r.height = 0 → ∀ place, w.disk.target path = .ok place →
        (r.save path).run.run w =
          (.error (.storage path (if r.width = 0 then .zeroWidth else .zeroHeight)),
            { w with disk := w.disk.store place (.file []) }))) := by
  refine ⟨exists_run_save_iff, fun v saved => ?_, fun long => ?_, fun fits => ?_⟩
  · obtain ⟨⟨place, ht⟩, width, height⟩ := exists_run_save_iff.mp ⟨v, saved⟩
    cases saved.symm.trans (run_save ht width height)
    have whole := Png.decode?_encode width.2 height.2 []
    rw [List.append_nil] at whole
    refine ⟨Disk.changedAt_of_target ht _, _, r, Disk.read_store_target ht _, whole, rfl, rfl, fun row hr => ?_⟩
    exact RowMajor.getElem?_rows hr r.data
  · exact ⟨run_save_of_long long path w, gives_reckonSave_of_long long⟩
  · exact ⟨fun bound => gives_reckonSave fits, fun empty place => run_save_of_empty fits empty⟩

theorem saves_what_fits_usedDesk :
    (∃ r v content image, ofCells 2 1 [CellClass.falseMember, .falseOutside] = .ok r ∧
      (r.save "c.png").run.run usedDesk = (.ok (), v) ∧ v.disk.read "c.png" = .ok content ∧
      Png.decode? content = some image ∧ image.rows[0]? = some [255, 0, 0, 255, 255, 0]) ∧
    (∃ r, ofCells (2 ^ 32) 0 ([] : List Symbol) = .ok r ∧
      (r.save "c.png").run.run usedDesk = (.error (.wrongSize (2 ^ 32) 0 0 0), usedDesk)) ∧
    ∃ r v, ofCells 0 3 ([] : List Symbol) = .ok r ∧
      (r.save "c.png").run.run usedDesk = (.error (.storage "c.png" .zeroWidth), v) ∧
      v.disk.read "c.png" = .ok [] := by
  have placed : usedDesk.disk.target "c.png" = .ok ["desk", "c.png"] := rfl
  refine ⟨?_, ?_, ?_⟩
  · have full : [CellClass.falseMember, .falseOutside].length = 2 * 1 := rfl
    obtain ⟨r, painted⟩ := exists_ofCells_iff.mpr full
    obtain ⟨width, height, data⟩ := data_of_ofCells painted
    obtain ⟨saved, held, -⟩ := saves_what_fits r "c.png" usedDesk
    obtain ⟨v, ran⟩ := saved.mpr ⟨⟨_, placed⟩, by omega, by omega⟩
    obtain ⟨-, content, image, read, decoded, -, -, rows⟩ := held v ran
    refine ⟨r, v, content, image, painted, ran, read, decoded, ?_⟩
    rw [rows 0 (by omega), width, data]
    rfl
  · have full : ([] : List Symbol).length = 2 ^ 32 * 0 := rfl
    obtain ⟨r, painted⟩ := exists_ofCells_iff.mpr full
    obtain ⟨width, height, data⟩ := data_of_ofCells painted
    obtain ⟨-, -, refused, -⟩ := saves_what_fits r "c.png" usedDesk
    obtain ⟨ran, -⟩ := refused (by omega)
    rw [width, height, data] at ran
    exact ⟨r, painted, ran⟩
  · have full : ([] : List Symbol).length = 0 * 3 := rfl
    obtain ⟨r, painted⟩ := exists_ofCells_iff.mpr full
    obtain ⟨width, height, data⟩ := data_of_ofCells painted
    obtain ⟨-, -, -, fitting⟩ := saves_what_fits r "c.png" usedDesk
    have ran := (fitting (by omega)).2 (by omega) _ placed
    rw [if_pos width] at ran
    exact ⟨r, _, painted, ran, Disk.read_store_target placed []⟩

end Raster

end MembershipGrid
