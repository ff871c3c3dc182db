import Mathlib.Algebra.Group.Nat.Defs
import RyzenBuild.Lib.Running
import RyzenBuild.Delta.Roundtrip

/-!
The hashes of `deltaffi.c`: FNV-1a over a byte string, and the list of the
hashes of its blocks. One changed byte changes the hash of its block and of no
other.
-/
namespace RyzenBuild.Delta

open Memory Running

/-- One turn of the loop of `dl_fnv1a64`. -/
def fnvStep (h : UInt64) (byte : UInt8) : UInt64 :=
  (h ^^^ byte.toUInt64) * 1099511628211

def dlFnv1a64 (data : Nat → UInt8) (len : Nat) : UInt64 :=
  (List.range len).foldl (fun h i => fnvStep h (data i)) 1469598103934665603

/-- The loop of `dl_block_hashes`, the offsets in 64 bits as `size_t` is. -/
def blockHashLoop (data : Nat → UInt8) (len blockSize outCap off count : UInt64)
    (out : Nat → UInt64) : UInt64 × (Nat → UInt64) :=
  if off < len then
    let n := if off + blockSize > len then len - off else blockSize
    if count ≥ outCap then (count, out)
    else
      blockHashLoop data len blockSize outCap (off + blockSize) (count + 1)
        (Function.update out count.toNat
          (dlFnv1a64 (fun i => data (off.toNat + i)) n.toNat))
  else (count, out)
termination_by outCap.toNat - count.toNat
decreasing_by
  have room : count.toNat < outCap.toNat := UInt64.lt_iff_toNat_lt.mp (UInt64.not_le.mp ‹_›)
  have small := outCap.toNat_lt
  rw [UInt64.toNat_add, UInt64.toNat_one, Nat.mod_eq_of_lt (by omega)]
  omega

/-- The number of hashes returned, and the array behind `out`. -/
def dlBlockHashes (data : Nat → UInt8) (len blockSize : UInt64) (out : Option (Nat → UInt64))
    (outCap : UInt64) : UInt64 × Option (Nat → UInt64) :=
  match out with
  | none => (0, none)
  | some out =>
      if outCap = 0 then (0, some out)
      else if blockSize = 0 then (0, some out)
      else if len = 0 then
        (1, some (Function.update out 0 (dlFnv1a64 (asU8Buf []) 0)))
      else
        let (count, out) := blockHashLoop data len blockSize outCap 0 0 out
        (count, some out)

/-- The hashes in the array that a call fills, as many as it returned. -/
def blockHashes (data : List UInt8) (blockSize : UInt64) (out : Nat → UInt64) (outCap : UInt64) :
    List UInt64 :=
  let (count, out) :=
    dlBlockHashes (asU8Buf data) (UInt64.ofNat data.length) blockSize (some out) outCap
  match out with
  | none => []
  | some hashes => slice hashes 0 count.toNat

section Fnv

/-- FNV-1a of a byte string. -/
def fnv (data : List UInt8) : UInt64 := data.foldl fnvStep 1469598103934665603

theorem dlFnv1a64_eq (data : Nat → UInt8) (len : Nat) :
    dlFnv1a64 data len = fnv (slice data 0 len) := by
  simp [dlFnv1a64, fnv, slice, List.foldl_map]

theorem dlFnv1a64_asU8Buf (data : List UInt8) :
    dlFnv1a64 (asU8Buf data) data.length = fnv data := by
  rw [dlFnv1a64_eq, asU8Buf_slice]

/-- The multiplier is odd, so it has an inverse modulo the word. -/
theorem fnv_prime_cancel {first second : UInt64}
    (same : first * 1099511628211 = second * 1099511628211) : first = second := by
  have unit : (1099511628211 : UInt64) * 14886173955864302971 = 1 := by decide
  calc first = first * 1099511628211 * 14886173955864302971 := by
        rw [UInt64.mul_assoc, unit, UInt64.mul_one]
    _ = second * 1099511628211 * 14886173955864302971 := by rw [same]
    _ = second := by rw [UInt64.mul_assoc, unit, UInt64.mul_one]

theorem fnv_absorbing : Absorbing fnvStep where
  keeps := by
    intro byte first second same
    exact (UInt64.xor_left_inj _).mp (fnv_prime_cancel same)
  tells := by
    intro h first second same
    have widened : first.toUInt64 = second.toUInt64 :=
      (UInt64.xor_right_inj _).mp (fnv_prime_cancel same)
    have bytes := congrArg UInt64.toNat widened
    rw [UInt8.toNat_toUInt64, UInt8.toNat_toUInt64] at bytes
    exact UInt8.toNat_inj.mp bytes

end Fnv

section Blocks

/-- As many blocks as it takes to cover the length. -/
def blockCount (len blockSize : Nat) : Nat := (len + blockSize - 1) / blockSize

theorem lt_blockCount (len blockSize j : Nat) (positive : 0 < blockSize) :
    j < blockCount len blockSize ↔ j * blockSize < len := by
  rw [blockCount, ← Nat.succ_le_iff, Nat.le_div_iff_mul_le positive, Nat.succ_mul]
  omega

variable (data : List UInt8) (blockSize outCap : UInt64)

/-- Offset plus length does not wrap around while blocks remain: the first block
starts at 0, and a later one starts behind at most half the address space. -/
theorem block_end (off blockSize len : UInt64) (j : Nat) (small : len.toNat < 2 ^ 63)
    (placed : off.toNat = j * blockSize.toNat) (inside : off.toNat < len.toNat) :
    (off + blockSize).toNat = (j + 1) * blockSize.toNat := by
  have word := blockSize.toNat_lt
  rw [UInt64.toNat_add, placed, Nat.succ_mul]
  apply Nat.mod_eq_of_lt
  cases j with
  | zero => omega
  | succ j =>
      have before : blockSize.toNat ≤ (j + 1) * blockSize.toNat :=
        Nat.le_mul_of_pos_left _ (Nat.succ_pos j)
      omega

theorem slice_block (start size : Nat) :
    slice (fun i => asU8Buf data (start + i)) 0 (min size (data.length - start)) =
      (data.drop start).take size := by
  have length : ((data.drop start).take size).length = min size (data.length - start) := by simp
  rw [← asU8Buf_slice ((data.drop start).take size), length]
  apply slice_shift
  intro k inside
  have first : k < size := Nat.lt_of_lt_of_le inside (Nat.min_le_left _ _)
  simp [asU8Buf, List.getD_eq_getElem?_getD, first]

/-- What the loop hashes at the offset of block `j` is block `j`. -/
theorem block_hashed (off len : UInt64) (j : Nat) (whole : len.toNat = data.length)
    (small : len.toNat < 2 ^ 63) (placed : off.toNat = j * blockSize.toNat)
    (inside : off < len) :
    dlFnv1a64 (fun i => asU8Buf data (off.toNat + i))
        (if off + blockSize > len then len - off else blockSize).toNat =
      fnv (block blockSize.toNat data j) := by
  have within : off.toNat < len.toNat := UInt64.lt_iff_toNat_lt.mp inside
  have behind : (off + blockSize).toNat = off.toNat + blockSize.toNat := by
    rw [block_end off blockSize len j small placed within, placed, Nat.succ_mul]
  have size : (if off + blockSize > len then len - off else blockSize).toNat =
      min blockSize.toNat (data.length - j * blockSize.toNat) := by
    split
    · next short =>
        have past : len.toNat < (off + blockSize).toNat := UInt64.lt_iff_toNat_lt.mp short
        rw [UInt64.toNat_sub_of_le _ _ (UInt64.le_iff_toNat_le.mpr (Nat.le_of_lt within))]
        omega
    · next full =>
        have reached : (off + blockSize).toNat ≤ len.toNat :=
          UInt64.le_iff_toNat_le.mp (UInt64.not_lt.mp full)
        omega
  rw [dlFnv1a64_eq, size, placed, slice_block, block]

theorem offset_inside_iff (off len : UInt64) (j : Nat) (whole : len.toNat = data.length)
    (positive : 0 < blockSize.toNat) (placed : off.toNat = j * blockSize.toNat) :
    off < len ↔ j < blockCount data.length blockSize.toNat := by
  rw [lt_blockCount _ _ _ positive, UInt64.lt_iff_toNat_lt, whole, placed]

/-- From block `j` on the loop fills one cell after another, until the blocks
are used up. -/
theorem blockHashLoop_result (len off count : UInt64) (out : Nat → UInt64) (j : Nat)
    (whole : len.toNat = data.length) (small : len.toNat < 2 ^ 63)
    (positive : 0 < blockSize.toNat)
    (room : blockCount data.length blockSize.toNat ≤ outCap.toNat)
    (counted : count.toNat = j) (placed : off.toNat = j * blockSize.toNat)
    (started : j ≤ blockCount data.length blockSize.toNat) :
    let result := blockHashLoop (asU8Buf data) len blockSize outCap off count out
    result.1.toNat = blockCount data.length blockSize.toNat ∧
      ∀ i, result.2 i =
        if j ≤ i ∧ i < blockCount data.length blockSize.toNat then
          fnv (block blockSize.toNat data i)
        else out i := by
  induction off, count, out using blockHashLoop.induct (asU8Buf data) len blockSize outCap
    generalizing j with
  | case1 off count out inside full =>
      have before := (offset_inside_iff data blockSize off len j whole positive placed).mp inside
      have reached : outCap.toNat ≤ count.toNat := UInt64.le_iff_toNat_le.mp full
      omega
  | case2 off count out inside n free ih =>
      have within : off.toNat < len.toNat := UInt64.lt_iff_toNat_lt.mp inside
      have before := (offset_inside_iff data blockSize off len j whole positive placed).mp inside
      have next : (count + 1).toNat = j + 1 := by
        have bound := outCap.toNat_lt
        rw [UInt64.toNat_add, UInt64.toNat_one, counted, Nat.mod_eq_of_lt (by omega)]
      obtain ⟨total, cells⟩ :=
        ih (j + 1) next (block_end off blockSize len j small placed within) before
      rw [blockHashLoop, if_pos inside, if_neg free]
      refine ⟨total, ?_⟩
      intro i
      refine (cells i).trans ?_
      by_cases this : i = j
      · have later : ¬(j + 1 ≤ i ∧ i < blockCount data.length blockSize.toNat) := by omega
        have now : j ≤ i ∧ i < blockCount data.length blockSize.toNat := by omega
        rw [if_neg later, if_pos now, this, ← counted, Function.update_self, counted]
        exact block_hashed data blockSize off len j whole small placed inside
      · have later : (j + 1 ≤ i ∧ i < blockCount data.length blockSize.toNat) ↔
            (j ≤ i ∧ i < blockCount data.length blockSize.toNat) := by omega
        rw [Function.update_of_ne (counted ▸ this)]
        simp only [later]
  | case3 off count out done =>
      have past := mt (offset_inside_iff data blockSize off len j whole positive placed).mpr done
      have finished : j = blockCount data.length blockSize.toNat :=
        Nat.le_antisymm started (Nat.le_of_not_lt past)
      rw [blockHashLoop, if_neg done]
      refine ⟨counted.trans finished, ?_⟩
      intro i
      rw [if_neg (by omega)]

/-- The block hashes of a nonempty string, given room for all of them. -/
theorem blockHashes_eq (out : Nat → UInt64) (nonempty : data ≠ [])
    (small : data.length ≤ 2 ^ 63 - 1) (positive : 1 ≤ blockSize)
    (room : blockCount data.length blockSize.toNat ≤ outCap.toNat) :
    (dlBlockHashes (asU8Buf data) (UInt64.ofNat data.length) blockSize (some out)
        outCap).1.toNat = blockCount data.length blockSize.toNat ∧
      blockHashes data blockSize out outCap =
        (List.range (blockCount data.length blockSize.toNat)).map fun j =>
          fnv (block blockSize.toNat data j) := by
  have whole : (UInt64.ofNat data.length).toNat = data.length := by
    rw [UInt64.toNat_ofNat']
    omega
  have sized : 0 < blockSize.toNat := UInt64.le_iff_toNat_le.mp positive
  have length : 0 < data.length := List.length_pos_iff.mpr nonempty
  have some_block : 0 < blockCount data.length blockSize.toNat :=
    (lt_blockCount _ _ _ sized).mpr (by omega)
  have cap : outCap ≠ 0 := by
    rintro rfl
    exact Nat.not_lt.mpr room some_block
  have size : blockSize ≠ 0 := by
    rintro rfl
    exact absurd sized (Nat.lt_irrefl 0)
  have len : UInt64.ofNat data.length ≠ 0 := by
    intro zero
    rw [zero] at whole
    exact Nat.ne_of_lt length whole
  obtain ⟨total, cells⟩ := blockHashLoop_result data blockSize outCap
    (UInt64.ofNat data.length) 0 0 out 0 whole (by omega) sized room rfl
    (Nat.zero_mul _).symm (Nat.zero_le _)
  simp only [blockHashes, dlBlockHashes, if_neg cap, if_neg size, if_neg len]
  refine ⟨total, ?_⟩
  rw [slice, total]
  apply List.map_congr_left
  intro i member
  have before := List.mem_range.mp member
  rw [Nat.zero_add, cells i, if_pos ⟨Nat.zero_le _, before⟩]

theorem block_hashes_differ (x y : List UInt8) (k size count : Nat) (differ : DifferOnlyAt x y k)
    (positive : 0 < size) (within : k / size < count) :
    DifferOnlyAt ((List.range count).map fun j => fnv (block size x j))
      ((List.range count).map fun j => fnv (block size y j)) (k / size) where
  length := by simp
  here := by
    have changed := fnv_absorbing.differ (differ.block_here positive) 1469598103934665603
    simpa [within, fnv] using changed
  elsewhere := by
    intro i other
    by_cases before : i < count
    · simp [before, differ.block_elsewhere i other]
    · simp [before]

end Blocks

/-- One changed byte changes the hash of the string, and in the list of its block
hashes the hash of its block and no other. -/
theorem block_hashes_localise (x y : List UInt8) (k : Nat) (blockSize xCap yCap : UInt64)
    (xOut yOut : Nat → UInt64) (differ : DifferOnlyAt x y k) (small : x.length ≤ 2 ^ 63 - 1)
    (positive : 1 ≤ blockSize)
    (xRoom : blockCount x.length blockSize.toNat ≤ xCap.toNat)
    (yRoom : blockCount y.length blockSize.toNat ≤ yCap.toNat) :
    dlFnv1a64 (asU8Buf x) x.length ≠ dlFnv1a64 (asU8Buf y) y.length ∧
      (dlBlockHashes (asU8Buf x) (UInt64.ofNat x.length) blockSize (some xOut) xCap).1.toNat =
        blockCount x.length blockSize.toNat ∧
      (dlBlockHashes (asU8Buf y) (UInt64.ofNat y.length) blockSize (some yOut) yCap).1.toNat =
        blockCount y.length blockSize.toNat ∧
      DifferOnlyAt (blockHashes x blockSize xOut xCap) (blockHashes y blockSize yOut yCap)
        (k / blockSize.toNat) := by
  have sized : 0 < blockSize.toNat := UInt64.le_iff_toNat_le.mp positive
  have xSome : x ≠ [] := List.ne_nil_of_length_pos (Nat.zero_lt_of_lt differ.inside)
  have ySome : y ≠ [] := by
    apply List.ne_nil_of_length_pos
    rw [← differ.length]
    exact Nat.zero_lt_of_lt differ.inside
  have within : k / blockSize.toNat < blockCount x.length blockSize.toNat := by
    rw [lt_blockCount _ _ _ sized]
    exact Nat.lt_of_le_of_lt (Nat.div_mul_le_self _ _) differ.inside
  obtain ⟨xCount, xHashes⟩ := blockHashes_eq x blockSize xCap xOut xSome small positive xRoom
  obtain ⟨yCount, yHashes⟩ := blockHashes_eq y blockSize yCap yOut ySome
    (differ.length ▸ small) positive yRoom
  refine ⟨?_, xCount, yCount, ?_⟩
  · rw [dlFnv1a64_asU8Buf, dlFnv1a64_asU8Buf]
    exact fnv_absorbing.differ differ _
  · rw [xHashes, yHashes, ← differ.length]
    exact block_hashes_differ x y k _ _ differ sized within

/-- The second of three bytes, in blocks of two: the first of both hashes changes. -/
theorem block_hashes_localise_two :
    dlFnv1a64 (asU8Buf [1, 2, 3]) 3 ≠ dlFnv1a64 (asU8Buf [1, 5, 3]) 3 ∧
      (dlBlockHashes (asU8Buf [1, 2, 3]) 3 2 (some fun _ => 0) 2).1.toNat = 2 ∧
      (dlBlockHashes (asU8Buf [1, 5, 3]) 3 2 (some fun _ => 0) 4).1.toNat = 2 ∧
      DifferOnlyAt (blockHashes [1, 2, 3] 2 (fun _ => 0) 2)
        (blockHashes [1, 5, 3] 2 (fun _ => 0) 4) 0 :=
  block_hashes_localise [1, 2, 3] [1, 5, 3] 1 2 2 4 (fun _ => 0) (fun _ => 0)
    { length := rfl
      here := by decide
      elsewhere := fun i other => by
        match i with
        | 0 => rfl
        | 1 => exact absurd rfl other
        | 2 => rfl
        | i + 3 => rfl }
    (by decide) (by decide) (by decide) (by decide)

end RyzenBuild.Delta
