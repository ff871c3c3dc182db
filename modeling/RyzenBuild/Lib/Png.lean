import RyzenBuild.Lib.Crc
import Mathlib.Algebra.Group.Nat.Defs
import Mathlib.Data.List.Basic

/-!
The container of a PNG file: a signature and chunks, each of them a length, a tag, a
payload and the check of the latter two. The reader is one of unfiltered pictures with a
byte for each pixel; what inflates the data is handed in.
-/
namespace RyzenBuild.Png

open Crc

/-- Four bytes, the most significant first. -/
def be (n : Nat) : List UInt8 :=
  [UInt8.ofNat (n / 2 ^ 24), UInt8.ofNat (n / 2 ^ 16), UInt8.ofNat (n / 2 ^ 8), UInt8.ofNat n]

def number (bytes : List UInt8) : Nat := bytes.foldl (fun n byte => 256 * n + byte.toNat) 0

def polynomial : BitVec 32 := 0xEDB88320

def crc32 (bytes : List UInt8) : Nat :=
  (~~~remainder polynomial (BitVec.allOnes 32) bytes).toNat

structure Chunk where
  tag : List UInt8
  payload : List UInt8
  deriving DecidableEq

/-- A length, the bytes that the check covers, and the check. -/
def frame (length : Nat) (covered : List UInt8) (check : Nat) : List UInt8 :=
  be length ++ covered ++ be check

namespace Chunk

def covered (c : Chunk) : List UInt8 := c.tag ++ c.payload

def bytes (c : Chunk) : List UInt8 := frame c.payload.length c.covered (crc32 c.covered)

/-- What the format demands of a chunk. -/
structure Sound (c : Chunk) : Prop where
  tag : c.tag.length = 4
  payload : c.payload.length < 2 ^ 31

end Chunk

def signature : List UInt8 := [0x89, 0x50, 0x4E, 0x47, 0x0D, 0x0A, 0x1A, 0x0A]

def ihdr : List UInt8 := [0x49, 0x48, 0x44, 0x52]

def idat : List UInt8 := [0x49, 0x44, 0x41, 0x54]

def iend : List UInt8 := [0x49, 0x45, 0x4E, 0x44]

def readChunk (bytes : List UInt8) : Option (Chunk × List UInt8) :=
  let length := number (bytes.take 4)
  let covered := (bytes.drop 4).take (4 + length)
  let check := (bytes.drop (8 + length)).take 4
  if bytes.length < 12 + length ∨ 2 ^ 31 ≤ length ∨ number check ≠ crc32 covered then none
  else some (⟨covered.take 4, covered.drop 4⟩, bytes.drop (12 + length))

/-- The chunks up to the last one, which nothing may follow. `fuel` bounds their number. -/
def readChunks : Nat → List UInt8 → Option (List Chunk)
  | 0, _ => none
  | fuel + 1, bytes => do
      let (c, rest) ← readChunk bytes
      if c.tag = iend then if rest = [] then some [c] else none
      else do
        let chunks ← readChunks fuel rest
        some (c :: chunks)

/-- Each row comes with its filter, and only the filter that does nothing is known. -/
def readRows (width : Nat) : Nat → List UInt8 → Option (List (List UInt8))
  | 0, raw => if raw = [] then some [] else none
  | height + 1, raw =>
      if raw.length < width + 1 ∨ raw.head? ≠ some 0 then none
      else do
        let rows ← readRows width height (raw.drop (width + 1))
        some ((raw.drop 1).take width :: rows)

structure Picture where
  width : Nat
  rows : List (List UInt8)
  deriving DecidableEq

/-- One byte a pixel, grey, neither filtered nor interlaced. -/
def plainGrey : List UInt8 := [8, 0, 0, 0, 0]

def readHeader (c : Chunk) : Option (Nat × Nat) :=
  let width := number (c.payload.take 4)
  let height := number ((c.payload.drop 4).take 4)
  if c.tag ≠ ihdr ∨ c.payload.drop 8 ≠ plainGrey ∨ width = 0 ∨ 2 ^ 31 ≤ width ∨ height = 0 ∨
    2 ^ 31 ≤ height then none
  else some (width, height)

def readPicture (inflate : List UInt8 → Option (List UInt8)) (file : List UInt8) :
    Option Picture := do
  if file.take 8 ≠ signature then none
  else do
    let chunks ← readChunks file.length (file.drop 8)
    let header ← chunks.head?
    let (width, height) ← readHeader header
    let data := chunks.tail.dropLast
    if data.any fun c => c.tag ≠ idat then none
    else do
      let raw ← inflate (data.flatMap Chunk.payload)
      let rows ← readRows width height raw
      some ⟨width, rows⟩

section Numbers

@[simp] theorem be_length (n : Nat) : (be n).length = 4 := rfl

theorem number_be (n : Nat) (small : n < 2 ^ 32) : number (be n) = n := by
  simp only [number, be, List.foldl_cons, List.foldl_nil, UInt8.toNat_ofNat']
  omega

theorem crc32_small (bytes : List UInt8) : crc32 bytes < 2 ^ 32 := BitVec.isLt _

/-- No two texts that differ in at most four bytes in a row have the same check. -/
theorem crc32_burst (before after first second : List UInt8) (length : first.length = second.length)
    (few : first.length ≤ 4)
    (same : crc32 (before ++ first ++ after) = crc32 (before ++ second ++ after)) :
    first = second := by
  have registers := BitVec.not_inj.mp (BitVec.eq_of_toNat_eq same)
  exact burst_noticed polynomial (by decide) _ before after first second length (by omega) registers

end Numbers

section Chunks

/-- The reader takes a chunk for what it says it is, if it is not too long and the check is
right. -/
theorem readChunk_frame (length : Nat) (covered : List UInt8) (check : Nat) (rest : List UInt8)
    (sized : covered.length = 4 + length) (small : length < 2 ^ 32) (checked : check < 2 ^ 32) :
    readChunk (frame length covered check ++ rest) =
      if length < 2 ^ 31 ∧ check = crc32 covered then some (⟨covered.take 4, covered.drop 4⟩, rest)
      else none := by
  have shape : frame length covered check ++ rest =
      be length ++ (covered ++ (be check ++ rest)) := by
    simp only [frame, List.append_assoc]
  have size : (frame length covered check ++ rest).length = 12 + length + rest.length := by
    rw [shape]
    simp only [List.length_append, be_length, sized]
    omega
  have first : (frame length covered check ++ rest).take 4 = be length := by
    rw [shape, List.take_left' (be_length length)]
  have behind : (frame length covered check ++ rest).drop 4 = covered ++ (be check ++ rest) := by
    rw [shape, List.drop_left' (be_length length)]
  have middle : ((frame length covered check ++ rest).drop 4).take (4 + length) = covered := by
    rw [behind, List.take_left' sized]
  have later : (frame length covered check ++ rest).drop (8 + length) = be check ++ rest := by
    have split : 8 + length = 4 + (4 + length) := by omega
    rw [split, ← List.drop_drop, behind, List.drop_left' sized]
  have last : ((frame length covered check ++ rest).drop (8 + length)).take 4 = be check := by
    rw [later, List.take_left' (be_length check)]
  have remains : (frame length covered check ++ rest).drop (12 + length) = rest := by
    have split : 12 + length = 8 + length + 4 := by omega
    rw [split, ← List.drop_drop, later, List.drop_left' (be_length check)]
  have long : ¬12 + length + rest.length < 12 + length := by omega
  simp only [readChunk, first, number_be length small, middle, last, remains, size,
    number_be check checked, long, false_or]
  by_cases right : length < 2 ^ 31 ∧ check = crc32 covered
  · have fine : ¬(2 ^ 31 ≤ length ∨ check ≠ crc32 covered) := by
      rintro (tall | wrong)
      · exact Nat.not_le_of_lt right.1 tall
      · exact wrong right.2
    rw [if_neg fine, if_pos right]
  · have bad : 2 ^ 31 ≤ length ∨ check ≠ crc32 covered := by
      by_contra fine
      obtain ⟨short, same⟩ := not_or.mp fine
      exact right ⟨Nat.lt_of_not_le short, Decidable.not_not.mp same⟩
    rw [if_pos bad, if_neg right]

theorem readChunk_bytes (c : Chunk) (sound : c.Sound) (rest : List UInt8) :
    readChunk (c.bytes ++ rest) = some (c, rest) := by
  have sized : c.covered.length = 4 + c.payload.length := by
    rw [Chunk.covered, List.length_append, sound.tag]
  have small := sound.payload
  rw [Chunk.bytes, readChunk_frame _ _ _ _ sized (by omega) (crc32_small _), if_pos ⟨small, rfl⟩,
    Chunk.covered, List.take_left' sound.tag, List.drop_left' sound.tag]

theorem readChunks_bytes (body : List Chunk) (ending : Chunk) (fuel : Nat)
    (sound : ∀ c ∈ body, c.Sound) (others : ∀ c ∈ body, c.tag ≠ iend) (last : ending.Sound)
    (ends : ending.tag = iend) (enough : body.length < fuel) :
    readChunks fuel ((body ++ [ending]).flatMap Chunk.bytes) = some (body ++ [ending]) := by
  induction body generalizing fuel with
  | nil =>
      cases fuel with
      | zero => cases enough
      | succ fuel =>
          have whole : ([] ++ [ending]).flatMap Chunk.bytes = ending.bytes ++ [] := by simp
          rw [whole, readChunks, readChunk_bytes ending last]
          simp only [Option.bind_eq_bind, Option.bind_some, ends, if_true]
          rfl
  | cons c body ih =>
      cases fuel with
      | zero => cases enough
      | succ fuel =>
          rw [List.length_cons, Nat.succ_lt_succ_iff] at enough
          have later := ih fuel (fun d member => sound d (List.mem_cons_of_mem c member))
            (fun d member => others d (List.mem_cons_of_mem c member)) enough
          have other := others c List.mem_cons_self
          rw [List.cons_append, List.flatMap_cons, readChunks,
            readChunk_bytes c (sound c List.mem_cons_self)]
          simp only [Option.bind_eq_bind, Option.bind_some, if_neg other, later]

/-- A chunk whose check is wrong stops the reader, whatever stands before and after it. -/
theorem readChunks_refused (before : List Chunk) (sound : ∀ c ∈ before, c.Sound)
    (others : ∀ c ∈ before, c.tag ≠ iend) (bytes : List UInt8) (bad : readChunk bytes = none)
    (fuel : Nat) : readChunks fuel (before.flatMap Chunk.bytes ++ bytes) = none := by
  induction before generalizing fuel with
  | nil =>
      cases fuel with
      | zero => rfl
      | succ fuel =>
          rw [List.flatMap_nil, List.nil_append, readChunks, bad]
          rfl
  | cons c before ih =>
      cases fuel with
      | zero => rfl
      | succ fuel =>
          have later := ih (fun d member => sound d (List.mem_cons_of_mem c member))
            (fun d member => others d (List.mem_cons_of_mem c member)) fuel
          have other := others c List.mem_cons_self
          rw [List.flatMap_cons, List.append_assoc, readChunks,
            readChunk_bytes c (sound c List.mem_cons_self)]
          simp only [Option.bind_eq_bind, Option.bind_some, if_neg other, later, Option.bind_none]

/-- The chunk `c` with other bytes than it had, no more than four in a row, under the check it
had. -/
structure Damaged (c : Chunk) (bytes : List UInt8) : Prop where
  change : ∃ before first second after, c.covered = before ++ first ++ after ∧
    bytes = frame c.payload.length (before ++ second ++ after) (crc32 c.covered) ∧
    second.length = first.length ∧ first.length ≤ 4 ∧ second ≠ first

theorem readChunk_damaged (c : Chunk) (sound : c.Sound) (bytes : List UInt8)
    (damaged : Damaged c bytes) (rest : List UInt8) : readChunk (bytes ++ rest) = none := by
  obtain ⟨before, first, second, after, covered, rfl, length, few, other⟩ := damaged.change
  have sized : (before ++ second ++ after).length = 4 + c.payload.length := by
    have whole : c.covered.length = 4 + c.payload.length := by
      rw [Chunk.covered, List.length_append, sound.tag]
    rw [covered] at whole
    simp only [List.length_append] at whole ⊢
    omega
  have wrong : crc32 c.covered ≠ crc32 (before ++ second ++ after) := by
    rw [covered]
    intro same
    exact other (crc32_burst before after first second length.symm few same).symm
  have small := sound.payload
  rw [readChunk_frame _ _ _ _ sized (by omega) (crc32_small _), if_neg fun right => wrong right.2]

end Chunks

section Rows

/-- A row behind the filter that does nothing. -/
def unfiltered (row : List UInt8) : List UInt8 := 0 :: row

theorem readRows_unfiltered (width : Nat) (rows : List (List UInt8))
    (wide : ∀ row ∈ rows, row.length = width) :
    readRows width rows.length (rows.flatMap unfiltered) = some rows := by
  induction rows with
  | nil => rfl
  | cons row rows ih =>
      have size := wide row List.mem_cons_self
      have later := ih fun other member => wide other (List.mem_cons_of_mem row member)
      have shape : (row :: rows).flatMap unfiltered = 0 :: (row ++ rows.flatMap unfiltered) := rfl
      have long : ¬(0 :: (row ++ rows.flatMap unfiltered)).length < width + 1 := by
        rw [List.length_cons, List.length_append]
        omega
      have rest : (0 :: (row ++ rows.flatMap unfiltered)).drop (width + 1) =
          rows.flatMap unfiltered := by
        rw [List.drop_succ_cons, List.drop_left' size]
      have here : ((0 :: (row ++ rows.flatMap unfiltered)).drop 1).take width = row := by
        rw [List.drop_succ_cons, List.drop_zero, List.take_left' size]
      have fine : ¬((0 :: (row ++ rows.flatMap unfiltered)).length < width + 1 ∨
          (0 :: (row ++ rows.flatMap unfiltered)).head? ≠ some 0) := by
        rintro (short | filter)
        · exact long short
        · exact filter rfl
      rw [shape, List.length_cons, readRows, if_neg fine, rest, here, later]
      rfl

end Rows

section Pictures

/-- The header of a picture. -/
def header (width height : Nat) : Chunk := ⟨ihdr, be width ++ be height ++ plainGrey⟩

def ending : Chunk := ⟨iend, []⟩

theorem header_sound (width height : Nat) : (header width height).Sound where
  tag := rfl
  payload := by
    have length : (header width height).payload.length = 13 := rfl
    omega

theorem ending_sound : ending.Sound := ⟨rfl, by decide⟩

theorem readHeader_header (width height : Nat) (wide : 0 < width) (narrow : width < 2 ^ 31)
    (tall : 0 < height) (low : height < 2 ^ 31) :
    readHeader (header width height) = some (width, height) := by
  have first : (header width height).payload.take 4 = be width := rfl
  have second : ((header width height).payload.drop 4).take 4 = be height := rfl
  have rest : (header width height).payload.drop 8 = plainGrey := rfl
  have tag : (header width height).tag = ihdr := rfl
  simp only [readHeader, first, second, rest, tag, number_be width (by omega),
    number_be height (by omega)]
  rw [if_neg (by simp; omega)]

theorem flatMap_length_le (chunks : List Chunk) :
    chunks.length ≤ (chunks.flatMap Chunk.bytes).length := by
  induction chunks with
  | nil => exact Nat.le_refl 0
  | cons c chunks ih =>
      have some : 4 ≤ c.bytes.length := by
        simp only [Chunk.bytes, frame, List.length_append, be_length]
        omega
      rw [List.flatMap_cons, List.length_append, List.length_cons]
      omega

theorem signature_first (bytes : List UInt8) : (signature ++ bytes).take 8 = signature :=
  List.take_left' rfl

theorem signature_rest (bytes : List UInt8) : (signature ++ bytes).drop 8 = bytes :=
  List.drop_left' rfl

/-- A picture in one or more pieces of data is read as it was written. -/
theorem readPicture_written (inflate : List UInt8 → Option (List UInt8)) (width : Nat)
    (rows : List (List UInt8)) (data : List Chunk) (wide : 0 < width) (narrow : width < 2 ^ 31)
    (tall : 0 < rows.length) (low : rows.length < 2 ^ 31) (sized : ∀ row ∈ rows, row.length = width)
    (sound : ∀ c ∈ data, c.Sound) (tags : ∀ c ∈ data, c.tag = idat)
    (inflated : inflate (data.flatMap Chunk.payload) = some (rows.flatMap unfiltered)) :
    readPicture inflate (signature ++
      (header width rows.length :: (data ++ [ending])).flatMap Chunk.bytes) =
        some ⟨width, rows⟩ := by
  have enough : (header width rows.length :: data).length < (signature ++
      (header width rows.length :: (data ++ [ending])).flatMap Chunk.bytes).length := by
    have bound := flatMap_length_le (header width rows.length :: (data ++ [ending]))
    simp only [List.length_append, List.length_cons] at bound ⊢
    omega
  have other : (header width rows.length).tag ≠ iend := by
    have tags : ihdr ≠ iend := by decide
    exact tags
  have chunks := readChunks_bytes (header width rows.length :: data) ending _
    (List.forall_mem_cons.mpr ⟨header_sound width rows.length, sound⟩)
    (List.forall_mem_cons.mpr ⟨other, fun c member => by rw [tags c member]; decide⟩)
    ending_sound rfl enough
  rw [List.cons_append] at chunks
  have alike : (data.any fun c => c.tag ≠ idat) = false := by
    rw [List.any_eq_false]
    intro c member
    simp [tags c member]
  simp only [readPicture, signature_first, signature_rest, chunks, alike, inflated,
    Option.bind_eq_bind, Option.bind_some, List.head?_cons, List.tail_cons, List.dropLast_concat,
    readHeader_header width rows.length wide narrow tall low,
    readRows_unfiltered width rows sized]
  rfl

theorem readPicture_refused (inflate : List UInt8 → Option (List UInt8)) (before : List Chunk)
    (sound : ∀ c ∈ before, c.Sound) (others : ∀ c ∈ before, c.tag ≠ iend) (bytes : List UInt8)
    (bad : readChunk bytes = none) :
    readPicture inflate (signature ++ (before.flatMap Chunk.bytes ++ bytes)) = none := by
  have refused := readChunks_refused before sound others bytes bad
  simp only [readPicture, signature_first, signature_rest, refused]
  rfl

theorem readPicture_damaged (inflate : List UInt8 → Option (List UInt8)) (before : List Chunk)
    (sound : ∀ c ∈ before, c.Sound) (others : ∀ c ∈ before, c.tag ≠ iend) (c : Chunk)
    (here : c.Sound) (bytes rest : List UInt8) (damaged : Damaged c bytes) :
    readPicture inflate (signature ++ (before.flatMap Chunk.bytes ++ (bytes ++ rest))) = none :=
  readPicture_refused inflate before sound others _ (readChunk_damaged c here bytes damaged rest)

/-- A chunk of more bytes than the format allows. -/
theorem readChunk_long (c : Chunk) (tag : c.tag.length = 4) (long : ¬c.payload.length < 2 ^ 31)
    (written : c.payload.length < 2 ^ 32) (rest : List UInt8) :
    readChunk (c.bytes ++ rest) = none := by
  have sized : c.covered.length = 4 + c.payload.length := by
    rw [Chunk.covered, List.length_append, tag]
  rw [Chunk.bytes, readChunk_frame _ _ _ _ sized written (crc32_small _),
    if_neg fun right => long right.1]

/-- Nothing behind a bad header mends it. -/
theorem readPicture_header (inflate : List UInt8 → Option (List UInt8)) (c : Chunk)
    (sound : c.Sound) (other : c.tag ≠ iend) (bad : readHeader c = none) (bytes : List UInt8) :
    readPicture inflate (signature ++ (c.bytes ++ bytes)) = none := by
  have read (fuel : Nat) : readChunks fuel (c.bytes ++ bytes) = none ∨
      ∃ chunks, readChunks fuel (c.bytes ++ bytes) = some (c :: chunks) := by
    cases fuel with
    | zero => exact .inl rfl
    | succ fuel =>
        rw [readChunks, readChunk_bytes c sound]
        simp only [Option.bind_eq_bind, Option.bind_some, if_neg other]
        cases readChunks fuel bytes with
        | none => exact .inl rfl
        | some chunks => exact .inr ⟨chunks, rfl⟩
  rcases read (signature ++ (c.bytes ++ bytes)).length with failed | ⟨chunks, parsed⟩
  · simp only [readPicture, signature_first, signature_rest, failed]
    rfl
  · simp only [readPicture, signature_first, signature_rest, parsed, Option.bind_eq_bind,
      Option.bind_some, List.head?_cons, bad, Option.bind_none]
    rfl

theorem readHeader_tall (width height : Nat) (tall : ¬height < 2 ^ 31) (written : height < 2 ^ 32) :
    readHeader (header width height) = none := by
  have second : ((header width height).payload.drop 4).take 4 = be height := rfl
  have large : 2 ^ 31 ≤ number (((header width height).payload.drop 4).take 4) := by
    rw [second, number_be height written]
    exact Nat.le_of_not_lt tall
  rw [readHeader, if_pos (.inr (.inr (.inr (.inr (.inr large)))))]

/-- A copy of a file of chunks in which one of them is damaged. -/
structure DamagedCopy (chunks : List Chunk) (copy : List UInt8) : Prop where
  change : ∃ before c after bytes, chunks = before ++ c :: after ∧ Damaged c bytes ∧
    copy = signature ++ (before.flatMap Chunk.bytes ++ (bytes ++ after.flatMap Chunk.bytes))

theorem readPicture_damagedCopy (inflate : List UInt8 → Option (List UInt8)) (body : List Chunk)
    (last : Chunk) (sound : ∀ c ∈ body, c.Sound) (others : ∀ c ∈ body, c.tag ≠ iend)
    (ends : last.Sound) (copy : List UInt8) (damaged : DamagedCopy (body ++ [last]) copy) :
    readPicture inflate copy = none := by
  obtain ⟨before, c, after, bytes, split, change, rfl⟩ := damaged.change
  have earlier : ∀ d ∈ before, d ∈ body := by
    intro d member
    have dropped : body = (before ++ c :: after).dropLast := by rw [← split, List.dropLast_concat]
    rw [dropped, List.dropLast_append_of_ne_nil (List.cons_ne_nil c after)]
    exact List.mem_append_left _ member
  have here : c.Sound := by
    have member : c ∈ body ++ [last] := by
      rw [split]
      exact List.mem_append_right _ List.mem_cons_self
    rcases List.mem_append.mp member with inside | only
    · exact sound c inside
    · rw [List.mem_singleton.mp only]
      exact ends
  exact readPicture_damaged inflate before (fun d member => sound d (earlier d member))
    (fun d member => others d (earlier d member)) c here bytes _ change

end Pictures

end RyzenBuild.Png
