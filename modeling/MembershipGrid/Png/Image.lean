import MembershipGrid.Png.Chunk
import MembershipGrid.Png.Scanline
import MembershipGrid.Png.Stream
import MembershipGrid.Raster

/-!
# Image files

A raster is stored as a PNG file with eight bits for each of three channels. Bytes after the end of
the image are ignored when a file is read.
-/

namespace MembershipGrid.Png

def signature : Bytes := [0x89, 0x50, 0x4e, 0x47, 0x0d, 0x0a, 0x1a, 0x0a]

def maxSide : Nat := UInt32.size - 1

/-- The most bytes of the stream that are put into one chunk. -/
def chunkSize : Nat := UInt32.size / 2 - 1

/-- Eight bits for each of three channels, the standard compression and filters, no interlacing. -/
def layout : Bytes := [8, 2, 0, 0, 0]

/-- The row of zeros above a raster. -/
def edge (width : Nat) : Bytes := List.replicate (width * 3) 0

def scanlines (choose : Bytes → Bytes → Filter) (r : Raster) : List Bytes :=
  Scanline.lines choose (edge r.width) r.rows

/-- The stream of a raster. Filters are chosen only for lines that are packed. -/
def stream (r : Raster) : Bytes :=
  Stream.encode (scanlines Filter.lightest r) (scanlines (fun _ _ => .plain) r)

def headerChunk (r : Raster) : Chunk :=
  ⟨Chunk.header, number 4 r.width ++ number 4 r.height ++ layout⟩

def pixelChunks (r : Raster) : List Chunk :=
  (RowMajor.pieces chunkSize (stream r)).map (⟨Chunk.pixels, ·⟩)

def encode (r : Raster) : Bytes :=
  signature ++
    ((headerChunk r :: pixelChunks r).flatMap Chunk.encode ++ Chunk.encode ⟨Chunk.trailer, []⟩)

/-! ## Reading -/

def ofLines? (width height : Nat) (lines : Bytes) : Option Raster := do
  let rows ← Scanline.readRows? (edge width) (RowMajor.rows (width * 3 + 1) height lines) []
  if length_data : rows.flatten.length = width * height * 3 then
    some ⟨width, height, rows.flatten, length_data⟩
  else none

def ofChunks? : List Chunk → Option Raster
  | [] => none
  | first :: rest => do
    let (width, data) ← readNumber? 4 first.data
    let (height, data) ← readNumber? 4 data
    let lines ← Stream.decode? ((rest.filter (·.name = Chunk.pixels)).flatMap Chunk.data)
    if first.name = Chunk.header ∧ data = layout ∧ lines.length = (width * 3 + 1) * height then
      ofLines? width height lines
    else none

def decode? (bytes : Bytes) : Option Raster := do
  let (start, rest) ← take? signature.length bytes
  if start = signature then ofChunks? (← Chunk.readAll? rest.length rest) else none

end MembershipGrid.Png
