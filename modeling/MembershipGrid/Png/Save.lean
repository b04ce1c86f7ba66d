import MembershipGrid.Png.Image
import MembershipGrid.Script

/-!
# Saving an image

An image file can hold sides from one pixel to `Png.maxSide`. Sides that are too long are refused
before the file is touched, and so are bytes that are too few for the sides; empty sides are refused
once the file is open.
-/

namespace MembershipGrid.Raster

def maxCount : Nat := UInt64.size - 1

/-- A product, or the largest count if the product exceeds it. -/
def boundedMul (a b : Nat) : Nat := min (a * b) maxCount

def writeImage (path : String) (content : Bytes) : ExceptT GridError Script Unit := do
  match ← Script.writeBytes path content with
  | .error e => throw (.storage path e)
  | .ok () => return

/-- Opens a file for a raster and writes it, unless a side is empty. -/
def write (r : Raster) (path : String) : ExceptT GridError Script Unit := do
  if r.width = 0 then
    writeImage path []
    throw (.storage path .zeroWidth)
  else if r.height = 0 then
    writeImage path []
    throw (.storage path .zeroHeight)
  else writeImage path (Png.encode r)

def save (r : Raster) (path : String) : ExceptT GridError Script Unit :=
  if Png.maxSide < r.width ∨ Png.maxSide < r.height then
    throw (.wrongSize r.width r.height (boundedMul (boundedMul r.width r.height) 3) r.data.length)
  else
    match ofBytes? r.width r.height r.data with
    | none => throw (.wrongSize r.width r.height (r.width * r.height * 3) r.data.length)
    | some image => image.write path

end MembershipGrid.Raster
