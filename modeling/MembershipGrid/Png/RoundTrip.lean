import MembershipGrid.Png.Image

/-!
# Reading back an image file

A raster whose sides fit into an image file is read back from it as it was, and bytes that are added
after the image do not matter (`decode?_encode`).
-/

namespace MembershipGrid.Png

/-! ## The lines -/

section Lines

variable (choose : Bytes → Bytes → Filter) (r : Raster)

theorem length_edge (width : Nat) : (edge width).length = width * 3 := List.length_replicate

theorem length_of_mem_scanlines {line : Bytes} (h : line ∈ scanlines choose r) :
    line.length = r.width * 3 + 1 :=
  Scanline.length_of_mem_lines choose (length_edge r.width) (fun _ => Raster.length_of_mem_rows) h

theorem length_scanlines : (scanlines choose r).length = r.height := by
  rw [scanlines, Scanline.length_lines, r.length_rows]

theorem length_flatten_scanlines :
    (scanlines choose r).flatten.length = (r.width * 3 + 1) * r.height := by
  rw [RowMajor.length_flatten fun _ => length_of_mem_scanlines choose r, length_scanlines]

theorem rows_flatten_scanlines :
    RowMajor.rows (r.width * 3 + 1) r.height (scanlines choose r).flatten =
      scanlines choose r := by
  have cut := RowMajor.rows_flatten fun _ => length_of_mem_scanlines choose r
  rwa [length_scanlines] at cut

theorem ofLines?_scanlines :
    ofLines? r.width r.height (scanlines choose r).flatten = some r := by
  have length_data : r.rows.flatten.length = r.width * r.height * 3 := by
    rw [r.flatten_rows, r.length_data]
  have read : Scanline.readRows? (edge r.width) (scanlines choose r) [] = some r.rows :=
    Scanline.readRows?_lines choose (length_edge r.width) fun _ => Raster.length_of_mem_rows
  simp only [ofLines?, rows_flatten_scanlines, read, Option.bind_eq_bind, Option.bind_some,
    dif_pos length_data]
  exact congrArg some (Raster.ext rfl rfl r.flatten_rows)

/-- The stream of a raster holds its lines, with some choice of filters. -/
theorem decode?_stream :
    ∃ choose, Stream.decode? (stream r) = some (scanlines choose r).flatten := by
  rw [stream, Stream.encode]
  split
  · exact ⟨_, Stream.decode?_stored _⟩
  · exact ⟨_, Stream.decode?_packed _⟩

end Lines

/-! ## The chunks -/

theorem filter_pixelChunks (r : Raster) :
    (pixelChunks r).filter (fun c => c.name = Chunk.pixels) = pixelChunks r := by
  apply List.filter_eq_self.2
  intro c h
  obtain ⟨data, -, rfl⟩ := List.mem_map.1 h
  exact decide_eq_true rfl

theorem flatMap_data_pixelChunks (r : Raster) :
    (pixelChunks r).flatMap Chunk.data = stream r := by
  rw [pixelChunks, List.flatMap_map]
  exact List.flatMap_id'.trans (RowMajor.flatten_pieces (by decide) _)

theorem ofChunks?_chunks {r : Raster} (width_le : r.width ≤ maxSide)
    (height_le : r.height ≤ maxSide) :
    ofChunks? (headerChunk r :: (pixelChunks r ++ [⟨Chunk.trailer, []⟩])) = some r := by
  have width : readNumber? 4 (headerChunk r).data =
      some (r.width, number 4 r.height ++ layout) := by
    rw [headerChunk, List.append_assoc]
    exact readNumber?_number (Nat.lt_succ_of_le width_le) _
  have height : readNumber? 4 (number 4 r.height ++ layout) = some (r.height, layout) :=
    readNumber?_number (Nat.lt_succ_of_le height_le) _
  have last : [(⟨Chunk.trailer, []⟩ : Chunk)].filter (fun c => c.name = Chunk.pixels) = [] := by
    decide
  have name : (headerChunk r).name = Chunk.header := rfl
  obtain ⟨choose, lines⟩ := decode?_stream r
  simp only [ofChunks?, width, height, name, List.filter_append, filter_pixelChunks, last,
    List.append_nil, flatMap_data_pixelChunks, lines, Option.bind_eq_bind, Option.bind_some,
    length_flatten_scanlines, and_self, if_true, ofLines?_scanlines]

theorem proper_of_mem {r : Raster} {c : Chunk} (h : c ∈ headerChunk r :: pixelChunks r) :
    c.name.length = 4 ∧ c.data.length < Nat.pow 256 4 ∧ c.name ≠ Chunk.trailer := by
  rcases List.mem_cons.1 h with rfl | pixel
  · refine ⟨rfl, ?_, (by decide : Chunk.header ≠ Chunk.trailer)⟩
    simp only [headerChunk, List.length_append, length_number]
    decide
  · obtain ⟨data, piece, rfl⟩ := List.mem_map.1 pixel
    exact ⟨rfl, Nat.lt_of_le_of_lt (RowMajor.length_of_mem_pieces piece) (by decide),
      (by decide : Chunk.pixels ≠ Chunk.trailer)⟩

theorem length_le_flatMap_encode (chunks : List Chunk) :
    chunks.length ≤ (chunks.flatMap Chunk.encode).length := by
  induction chunks with
  | nil => exact Nat.le_refl 0
  | cons c more ih =>
    simp only [List.length_cons, List.flatMap_cons, List.length_append, Chunk.encode, length_number]
    omega

/-! ## The file -/

theorem decode?_of_read {body : Bytes} {chunks : List Chunk}
    (read : Chunk.readAll? body.length body = some chunks) :
    decode? (signature ++ body) = ofChunks? chunks := by
  simp only [decode?, take?_append, read, Option.bind_eq_bind, Option.bind_some, if_true]

/-- A raster whose sides fit is read back from its file, whatever follows the image. -/
theorem decode?_encode {r : Raster} (width_le : r.width ≤ maxSide) (height_le : r.height ≤ maxSide)
    (rest : Bytes) : decode? (encode r ++ rest) = some r := by
  have fewer := length_le_flatMap_encode (headerChunk r :: pixelChunks r)
  have proper := fun c (h : c ∈ headerChunk r :: pixelChunks r) => proper_of_mem h
  have read := Chunk.readAll?_encode proper rest _
    (show _ < ((headerChunk r :: pixelChunks r).flatMap Chunk.encode ++
        (Chunk.encode ⟨Chunk.trailer, []⟩ ++ rest)).length by
      rw [List.length_append, List.length_append, Chunk.encode, List.length_append, length_number]
      omega)
  have file : encode r ++ rest =
      signature ++ ((headerChunk r :: pixelChunks r).flatMap Chunk.encode ++
        (Chunk.encode ⟨Chunk.trailer, []⟩ ++ rest)) := by
    rw [encode, List.append_assoc, List.append_assoc]
  rw [file, decode?_of_read read, List.cons_append, ofChunks?_chunks width_le height_le]

end MembershipGrid.Png
