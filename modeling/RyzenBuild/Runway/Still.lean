import RyzenBuild.Lib.Png
import RyzenBuild.Lib.Running

/-!
`make_png_from_binary` of `runway_hook.sh`: the bytes of a file as a grey picture, 256 in a
row. `zlib.compress` is handed in.
-/
namespace RyzenBuild.Runway

open Png Running

/-- `struct.pack(">I", n)`, which refuses what four bytes do not hold. -/
def structPack (n : Nat) : Option (List UInt8) := if n < 2 ^ 32 then some (be n) else none

def width : Nat := 256

def heightOf (data : List UInt8) : Nat := (data.length + width - 1) / width

/-- Row `y` with its filter type. -/
def filterRow (data : List UInt8) (y : Nat) : List UInt8 :=
  let row := (data.take ((y + 1) * width)).drop (y * width)
  let row := if row.length < width then row ++ List.replicate (width - row.length) 0 else row
  0 :: row

/-- The filtered rows of data that is not empty. -/
def rawOf (data : List UInt8) : List UInt8 :=
  ((List.range (heightOf data)).map (filterRow data)).flatten

def pngChunk (tag payload : List UInt8) : Option (List UInt8) := do
  let length ← structPack payload.length
  let check ← structPack (crc32 (tag ++ payload) % 2 ^ 32)
  some (length ++ tag ++ payload ++ check)

def makePngFromBinary (compress : List UInt8 → List UInt8) (data : List UInt8) :
    Option (List UInt8) := do
  let data := if data.length = 0 then [0] else data
  let wide ← structPack width
  let high ← structPack (heightOf data)
  let first ← pngChunk ihdr (wide ++ high ++ plainGrey)
  let second ← pngChunk idat (compress (rawOf data))
  let third ← pngChunk iend []
  some (signature ++ first ++ second ++ third)

/-- The pixels of a file: its bytes in rows of 256, the last one filled up with zeros. -/
structure Shows (data : List UInt8) (rows : List (List UInt8)) : Prop where
  wide : ∀ row ∈ rows, row.length = 256
  least : rows.length = max 1 ((data.length + 255) / 256)
  content : ∃ padding, rows.flatten = data ++ List.replicate padding 0

section Rows

variable (data : List UInt8)

/-- The data with the zeros that fill the last row. -/
def padded : List UInt8 := data ++ List.replicate (heightOf data * width - data.length) 0

theorem padded_length : (padded data).length = heightOf data * width := by
  rw [padded, List.length_append, List.length_replicate]
  simp only [heightOf, width]
  omega

/-- A row is what there is of the data, and zeros from its end on. -/
theorem block_padded (y : Nat) (inside : y < heightOf data) : block width (padded data) y =
    (data.drop (y * 256)).take 256 ++ List.replicate (256 - (data.length - y * 256)) 0 := by
  simp only [heightOf, width] at inside
  have begun : y * 256 - data.length = 0 := by omega
  have room : 256 - (data.length - y * 256) ≤ heightOf data * 256 - data.length := by
    simp only [heightOf, width]
    omega
  rw [block, padded, width, List.drop_append, begun, List.drop_zero, List.take_append,
    List.length_drop, List.take_replicate, Nat.min_eq_left room]

theorem filterRow_eq (y : Nat) (inside : y < heightOf data) :
    filterRow data y = unfiltered (block width (padded data) y) := by
  have cut : (data.take ((y + 1) * width)).drop (y * width) = (data.drop (y * 256)).take 256 := by
    have size : (y + 1) * 256 - y * 256 = 256 := by omega
    rw [width, List.drop_take, size]
  have length : ((data.drop (y * 256)).take 256).length = min 256 (data.length - y * 256) := by
    rw [List.length_take, List.length_drop]
  rw [filterRow, cut, block_padded data y inside, unfiltered]
  simp only [length, width]
  split
  · next short =>
      have same : 256 - min 256 (data.length - y * 256) = 256 - (data.length - y * 256) := by omega
      rw [same]
  · next full =>
      have same : 256 - (data.length - y * 256) = 0 := by omega
      rw [same, List.replicate_zero, List.append_nil]

def grid : List (List UInt8) := (List.range (heightOf data)).map (block width (padded data))

theorem grid_flatten : (grid data).flatten = padded data := by
  rw [grid, ← List.flatMap_def, flatMap_block, ← padded_length, List.take_length]

theorem rawOf_eq : rawOf data = (grid data).flatMap unfiltered := by
  have rows : (List.range (heightOf data)).map (filterRow data) =
      (grid data).map unfiltered := by
    rw [grid, List.map_map]
    apply List.map_congr_left
    intro y member
    exact filterRow_eq data y (List.mem_range.mp member)
  rw [rawOf, rows, List.flatMap_def]

theorem grid_shows (some : data ≠ []) : Shows data (grid data) where
  wide := by
    intro row member
    obtain ⟨y, inside, rfl⟩ := List.mem_map.mp member
    have inside := List.mem_range.mp inside
    rw [block_length, padded_length]
    simp only [heightOf, width] at inside ⊢
    omega
  least := by
    have positive := List.length_pos_of_ne_nil some
    rw [grid, List.length_map, List.length_range, heightOf, width]
    omega
  content := ⟨_, grid_flatten data⟩

end Rows

section Files

variable (compress : List UInt8 → List UInt8) (data : List UInt8)

/-- The data the rows are cut from. -/
def pixels : List UInt8 := if data.length = 0 then [0] else data

theorem pixels_ne_nil : pixels data ≠ [] := by
  rw [pixels]
  split
  · exact List.cons_ne_nil 0 []
  · next some =>
      rintro rfl
      exact some rfl

/-- The rows of the picture of a file. -/
def rowsOf : List (List UInt8) := grid (pixels data)

theorem rowsOf_shows : Shows data (rowsOf data) := by
  have shows := grid_shows (pixels data) (pixels_ne_nil data)
  cases data with
  | cons byte data => exact shows
  | nil =>
      obtain ⟨padding, content⟩ := shows.content
      exact ⟨shows.wide, shows.least, padding + 1, content⟩

def compressed : List UInt8 := compress ((rowsOf data).flatMap unfiltered)

def stillChunks : List Chunk :=
  [header width (rowsOf data).length, ⟨idat, compressed compress data⟩, ending]

theorem structPack_small (n : Nat) (small : n < 2 ^ 32) : structPack n = some (be n) :=
  if_pos small

theorem structPack_large (n : Nat) (large : ¬n < 2 ^ 32) : structPack n = none := if_neg large

theorem pngChunk_small (tag payload : List UInt8) (small : payload.length < 2 ^ 32) :
    pngChunk tag payload = some (Chunk.bytes ⟨tag, payload⟩) := by
  have check : structPack (crc32 (tag ++ payload) % 2 ^ 32) =
      some (be (crc32 (tag ++ payload))) := by
    rw [Nat.mod_eq_of_lt (crc32_small _), structPack_small _ (crc32_small _)]
  rw [pngChunk, structPack_small _ small, check, Chunk.bytes, frame, Chunk.covered,
    ← List.append_assoc]
  rfl

theorem pngChunk_large (tag payload : List UInt8) (large : ¬payload.length < 2 ^ 32) :
    pngChunk tag payload = none := by
  rw [pngChunk, structPack_large _ large]
  rfl

/-- A file is written unless a length does not fit into four bytes. -/
theorem makePngFromBinary_eq : makePngFromBinary compress data =
    if (rowsOf data).length < 2 ^ 32 ∧ (compressed compress data).length < 2 ^ 32 then
      some (signature ++ (stillChunks compress data).flatMap Chunk.bytes)
    else none := by
  have rows : heightOf (pixels data) = (rowsOf data).length := by
    rw [rowsOf, grid, List.length_map, List.length_range]
  have raw : compress (rawOf (pixels data)) = compressed compress data :=
    congrArg compress (rawOf_eq (pixels data))
  have wide : structPack width = some (be width) := structPack_small _ (by decide)
  have first : pngChunk ihdr (be width ++ be (rowsOf data).length ++ plainGrey) =
      some (header width (rowsOf data).length).bytes := by
    have length : (be width ++ be (rowsOf data).length ++ plainGrey).length = 13 := rfl
    exact pngChunk_small _ _ (by omega)
  have third : pngChunk iend [] = some ending.bytes := pngChunk_small _ _ (by decide)
  have start : makePngFromBinary compress data = (do
      let high ← structPack (rowsOf data).length
      let first ← pngChunk ihdr (be width ++ high ++ plainGrey)
      let second ← pngChunk idat (compressed compress data)
      some (signature ++ first ++ second ++ ending.bytes)) := by
    rw [← rows, ← raw]
    simp only [makePngFromBinary, pixels, wide, third, Option.bind_eq_bind, Option.bind_some]
  rw [start]
  by_cases high : (rowsOf data).length < 2 ^ 32
  · by_cases long : (compressed compress data).length < 2 ^ 32
    · have joined : signature ++ (stillChunks compress data).flatMap Chunk.bytes =
          signature ++ (header width (rowsOf data).length).bytes ++
            Chunk.bytes ⟨idat, compressed compress data⟩ ++ ending.bytes := by
        simp only [stillChunks, List.flatMap_cons, List.flatMap_nil, List.append_nil,
          List.append_assoc]
      rw [structPack_small _ high, pngChunk_small idat _ long, if_pos ⟨high, long⟩, joined]
      simp only [Option.bind_eq_bind, Option.bind_some, first]
    · rw [structPack_small _ high, pngChunk_large idat _ long, if_neg fun fits => long fits.2]
      simp only [Option.bind_eq_bind, Option.bind_some, first, Option.bind_none]
  · rw [structPack_large _ high, if_neg fun fits => high fits.1]
    rfl

theorem header_other (height : Nat) : (header width height).tag ≠ iend := by
  have tags : ihdr ≠ iend := by decide
  exact tags

/-- What a reader makes of the file that is written. -/
theorem readPicture_still (decompress : List UInt8 → Option (List UInt8))
    (inverse : ∀ raw, decompress (compress raw) = some raw)
    (high : (rowsOf data).length < 2 ^ 32) (long : (compressed compress data).length < 2 ^ 32) :
    readPicture decompress (signature ++ (stillChunks compress data).flatMap Chunk.bytes) =
      if (rowsOf data).length < 2 ^ 31 ∧ (compressed compress data).length < 2 ^ 31 then
        some ⟨256, rowsOf data⟩
      else none := by
  have shows := rowsOf_shows data
  have sound := header_sound width (rowsOf data).length
  have other := header_other (rowsOf data).length
  by_cases low : (rowsOf data).length < 2 ^ 31
  · by_cases short : (compressed compress data).length < 2 ^ 31
    · rw [if_pos ⟨low, short⟩]
      have some : 0 < (rowsOf data).length := by
        have least := shows.least
        omega
      apply readPicture_written decompress width (rowsOf data)
        [⟨idat, compressed compress data⟩] (by decide) (by decide) some low shows.wide
      · exact List.forall_mem_singleton.mpr ⟨rfl, short⟩
      · exact List.forall_mem_singleton.mpr rfl
      · rw [List.flatMap_singleton]
        exact inverse _
    · rw [if_neg fun fits => short fits.2]
      have refused := readPicture_refused decompress [header width (rowsOf data).length]
        (List.forall_mem_singleton.mpr sound) (List.forall_mem_singleton.mpr other) _
        (readChunk_long ⟨idat, compressed compress data⟩ rfl short long ending.bytes)
      simpa only [stillChunks, List.flatMap_cons, List.flatMap_nil, List.append_nil] using refused
  · rw [if_neg fun fits => low fits.1]
    exact readPicture_header decompress _ sound other
      (readHeader_tall width (rowsOf data).length low high) _

end Files

section Results

variable (compress : List UInt8 → List UInt8) (decompress : List UInt8 → Option (List UInt8))
  (inverse : ∀ raw, decompress (compress raw) = some raw) (data : List UInt8)

include inverse

/-- The picture of a file, of any bytes and of none, is the file: a reader of PNG gets its
bytes back in rows of 256, as few as they fill, with zeros behind them. It fails only where
a size goes past what the format allows, and then either the writer fails too or the
reader refuses the file. -/
theorem still_reads_back : ∃ rows, Shows data rows ∧
    (makePngFromBinary compress data = none ↔
      2 ^ 32 ≤ rows.length ∨ 2 ^ 32 ≤ (compress (rows.flatMap unfiltered)).length) ∧
    (makePngFromBinary compress data).bind (readPicture decompress) =
      if rows.length < 2 ^ 31 ∧ (compress (rows.flatMap unfiltered)).length < 2 ^ 31 then
        some ⟨256, rows⟩
      else none := by
  refine ⟨rowsOf data, rowsOf_shows data, ?_, ?_⟩
  · rw [makePngFromBinary_eq]
    split
    · next fits =>
        constructor
        · intro missing
          cases missing
        · rintro (tall | long)
          · exact absurd fits.1 (Nat.not_lt.mpr tall)
          · exact absurd fits.2 (Nat.not_lt.mpr long)
    · next large =>
        refine ⟨fun _ => ?_, fun _ => rfl⟩
        rcases not_and_or.mp large with tall | long
        · exact .inl (Nat.le_of_not_lt tall)
        · exact .inr (Nat.le_of_not_lt long)
  · rw [makePngFromBinary_eq]
    split
    · next fits => exact readPicture_still compress data decompress inverse fits.1 fits.2
    · next large =>
        rw [if_neg]
        · rfl
        · intro small
          have size : (compress ((rowsOf data).flatMap unfiltered)).length < 2 ^ 31 := small.2
          exact large ⟨by omega, by rw [compressed]; omega⟩

/-- A written file that can be read has three chunks, and a reader refuses every copy in which
bytes of one of them, no more than four in a row, are others than they were. -/
theorem still_damage_noticed (file : List UInt8)
    (written : makePngFromBinary compress data = some file)
    (readable : readPicture decompress file ≠ none) :
    ∃ chunks : List Chunk, chunks.map Chunk.tag = [ihdr, idat, iend] ∧
      file = signature ++ chunks.flatMap Chunk.bytes ∧
      ∀ copy, DamagedCopy chunks copy → readPicture decompress copy = none := by
  rw [makePngFromBinary_eq] at written
  split at written
  · next fits =>
      obtain rfl := Option.some.inj written
      have read := readPicture_still compress data decompress inverse fits.1 fits.2
      refine ⟨stillChunks compress data, rfl, rfl, ?_⟩
      have small : (compressed compress data).length < 2 ^ 31 := by
        by_contra long
        rw [read, if_neg fun both => long both.2] at readable
        exact readable rfl
      intro copy damaged
      have others : idat ≠ iend := by decide
      apply readPicture_damagedCopy decompress
        [header width (rowsOf data).length, ⟨idat, compressed compress data⟩] ending
      · exact List.forall_mem_cons.mpr
          ⟨header_sound width _, List.forall_mem_singleton.mpr ⟨rfl, small⟩⟩
      · exact List.forall_mem_cons.mpr ⟨header_other _, List.forall_mem_singleton.mpr others⟩
      · exact ending_sound
      · exact damaged
  · cases written

end Results

section Letters

/-- The raw bytes of one row that begins with two letters, and what `zlib.compress` makes of
them; other bytes are stored behind a mark here. -/
def letterRow : List UInt8 := [0, 97, 98] ++ List.replicate 254 0

def deflatedRow : List UInt8 := [120, 218, 99, 72, 76, 98, 24, 209, 0, 0, 195, 159, 0, 196]

def zlibCompress (raw : List UInt8) : List UInt8 :=
  if raw = letterRow then deflatedRow else 0 :: raw

def zlibDecompress (bytes : List UInt8) : Option (List UInt8) :=
  if bytes = deflatedRow then some letterRow else bytes.tail?

theorem zlib_inverse (raw : List UInt8) : zlibDecompress (zlibCompress raw) = some raw := by
  unfold zlibCompress
  split
  · next letters => rw [zlibDecompress, if_pos rfl, letters]
  · have marked : 0 :: raw ≠ deflatedRow := by
      intro same
      cases same
    rw [zlibDecompress, if_neg marked]
    rfl

theorem letters_deflated : compressed zlibCompress [97, 98] = deflatedRow := by
  have row : (rowsOf [97, 98]).flatMap unfiltered = letterRow := by decide +kernel
  rw [compressed, row, zlibCompress, if_pos rfl]

theorem letters_small : (rowsOf [97, 98]).length < 2 ^ 31 ∧
    (compressed zlibCompress [97, 98]).length < 2 ^ 31 := by
  rw [letters_deflated]
  decide

def lettersFile : List UInt8 := signature ++ (stillChunks zlibCompress [97, 98]).flatMap Chunk.bytes

theorem letters_written : makePngFromBinary zlibCompress [97, 98] = some lettersFile := by
  obtain ⟨low, short⟩ := letters_small
  rw [makePngFromBinary_eq, if_pos ⟨by omega, by omega⟩, lettersFile]

theorem letters_readable : readPicture zlibDecompress lettersFile ≠ none := by
  obtain ⟨low, short⟩ := letters_small
  rw [lettersFile, readPicture_still zlibCompress [97, 98] zlibDecompress zlib_inverse (by omega)
    (by omega), if_pos ⟨low, short⟩]
  exact Option.some_ne_none _

end Letters

theorem letters_read_back : ∃ rows, Shows [97, 98] rows ∧
    (makePngFromBinary zlibCompress [97, 98] = none ↔
      2 ^ 32 ≤ rows.length ∨ 2 ^ 32 ≤ (zlibCompress (rows.flatMap unfiltered)).length) ∧
    (makePngFromBinary zlibCompress [97, 98]).bind (readPicture zlibDecompress) =
      if rows.length < 2 ^ 31 ∧ (zlibCompress (rows.flatMap unfiltered)).length < 2 ^ 31 then
        some ⟨256, rows⟩
      else none :=
  still_reads_back zlibCompress zlibDecompress zlib_inverse [97, 98]

theorem letters_damage_noticed :
    ∃ chunks : List Chunk, chunks.map Chunk.tag = [ihdr, idat, iend] ∧
      lettersFile = signature ++ chunks.flatMap Chunk.bytes ∧
      ∀ copy, DamagedCopy chunks copy → readPicture zlibDecompress copy = none :=
  still_damage_noticed zlibCompress zlibDecompress zlib_inverse [97, 98] lettersFile
    letters_written letters_readable

end RyzenBuild.Runway
