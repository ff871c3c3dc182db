import RyzenBuild.Lib.Strided
import RyzenBuild.Dawnstar.Stack

/-!
Where the levels of a pyramid lie. The start of a level comes from a fixed
stride and its size from the geometry and the ratio, and nothing keeps the one
within the other.
-/
namespace RyzenBuild.Dawnstar

open Rounding Strided

/-- The addresses a level takes up. -/
def MipLevelDesc.addresses (m : MipLevelDesc) : Set Nat :=
  Set.Ico m.gpuAddr.toNat (m.gpuAddr.toNat + m.bytesOut.toNat)

/-- The bytes of level `i` before compression, in 64 bits. -/
def levelBytes (cfg : StackConfig) (i : Nat) : Nat :=
  max 1 (cfg.width.toNat / 2 ^ i) * max 1 (cfg.height.toNat / 2 ^ i) *
    cfg.bytesPerElement.toNat % 2 ^ 64

/-- The bytes of level `i` behind compression. -/
def levelOut (cfg : StackConfig) (i : Nat) (ratio : ℚ) : Nat :=
  (max 1 (roundAway (levelBytes cfg i * ratio))).toNat

section Geometry

/-- A dimension after `i` halvings. -/
def halved (dimension : UInt32) : Nat → UInt32
  | 0 => dimension
  | i + 1 => maxU32 1 (halved dimension i >>> 1)

theorem toNat_maxU32 (a b : UInt32) : (maxU32 a b).toNat = max a.toNat b.toNat := by
  unfold maxU32
  split
  · next less => exact (max_eq_right (UInt32.lt_iff_toNat_lt.mp less).le).symm
  · next less => exact (max_eq_left (UInt32.le_iff_toNat_le.mp (UInt32.not_lt.mp less))).symm

theorem halved_toNat (dimension : UInt32) (nonzero : dimension ≠ 0) (i : Nat) :
    (halved dimension i).toNat = max 1 (dimension.toNat / 2 ^ i) := by
  induction i with
  | zero =>
      have positive : dimension.toNat ≠ 0 := fun zero => nonzero (UInt32.toNat_inj.mp zero)
      rw [halved, Nat.pow_zero, Nat.div_one]
      omega
  | succ i ih =>
      have half : (halved dimension i >>> 1).toNat = (halved dimension i).toNat / 2 := by
        rw [UInt32.toNat_shiftRight]
        simp [Nat.shiftRight_eq_div_pow]
      have deeper : dimension.toNat / 2 ^ (i + 1) = dimension.toNat / 2 ^ i / 2 := by
        rw [Nat.pow_succ, Nat.div_div_eq_div_mul]
      rw [halved, toNat_maxU32, half, ih, deeper, UInt32.toNat_one]
      omega

theorem halved_next (dimension : UInt32) (i : Nat) :
    halved (maxU32 1 (dimension >>> 1)) i = halved dimension (i + 1) := by
  induction i with
  | zero => rfl
  | succ i ih =>
      rw [halved, ih]
      rfl

theorem mipLevels_getElem? (cfg : StackConfig) (start : Nat) (retained : List ℚ) (w h : UInt32)
    (i : Nat) :
    (mipLevels cfg start retained w h)[i]? =
      retained[i]?.map fun ratio => mipLevel cfg (start + i) ratio (halved w i) (halved h i) := by
  induction retained generalizing start w h i with
  | nil => rfl
  | cons ratio rest ih =>
      cases i with
      | zero => rfl
      | succ i =>
          have place : start + 1 + i = start + (i + 1) := by omega
          rw [mipLevels, List.getElem?_cons_succ, List.getElem?_cons_succ, ih, halved_next,
            halved_next, place]

theorem mipLevels_length (cfg : StackConfig) (start : Nat) (retained : List ℚ) (w h : UInt32) :
    (mipLevels cfg start retained w h).length = retained.length := by
  induction retained generalizing start w h with
  | nil => rfl
  | cons ratio rest ih => rw [mipLevels, List.length_cons, ih, List.length_cons]

variable (cfg : StackConfig) (i : Nat) (ratio : ℚ)

theorem bytesIn_eq (width : cfg.width ≠ 0) (height : cfg.height ≠ 0) :
    (mipLevel cfg i ratio (halved cfg.width i) (halved cfg.height i)).bytesIn.toNat =
      levelBytes cfg i := by
  simp only [mipLevel, UInt64.toNat_mul, UInt32.toNat_toUInt64, toNat_maxU32,
    halved_toNat cfg.width width, halved_toNat cfg.height height, levelBytes, UInt32.toNat_one,
    Nat.mod_mul_mod]
  rw [← max_assoc, ← max_assoc, max_self]

theorem levelOut_le (positive : 0 ≤ ratio) (small : ratio ≤ 1) :
    levelOut cfg i ratio ≤ max 1 (levelBytes cfg i) := by
  have product : (0 : ℚ) ≤ levelBytes cfg i * ratio := mul_nonneg (Nat.cast_nonneg _) positive
  have shrunk : (levelBytes cfg i : ℚ) * ratio ≤ levelBytes cfg i :=
    mul_le_of_le_one_right (Nat.cast_nonneg _) small
  have rounded : roundAway ((levelBytes cfg i : ℚ) * ratio) ≤ (levelBytes cfg i : ℤ) := by
    rw [roundAway_le_iff _ _ product]
    push_cast
    linarith
  unfold levelOut
  omega

theorem bytesOut_eq (width : cfg.width ≠ 0) (height : cfg.height ≠ 0) (positive : 0 ≤ ratio)
    (small : ratio ≤ 1) :
    (mipLevel cfg i ratio (halved cfg.width i) (halved cfg.height i)).bytesOut.toNat =
      levelOut cfg i ratio := by
  have bytes := bytesIn_eq cfg i ratio width height
  have word : levelBytes cfg i < 2 ^ 64 := Nat.mod_lt _ (by decide)
  have shrunk := levelOut_le cfg i ratio positive small
  have bound : levelOut cfg i ratio < 2 ^ 64 := by omega
  simp only [mipLevel] at bytes ⊢
  rw [bytes, UInt64.toNat_ofNat']
  exact Nat.mod_eq_of_lt bound

theorem gpuAddr_eq (w h : UInt32) (inside : cfg.srcGpuAddr.toNat + i * 0x100000 < 2 ^ 64) :
    (mipLevel cfg i ratio w h).gpuAddr.toNat = cfg.srcGpuAddr.toNat + i * 0x100000 := by
  have index : (UInt64.ofNat i).toNat = i := by
    rw [UInt64.toNat_ofNat']
    omega
  have stride : (0x100000 : UInt64).toNat = 0x100000 := rfl
  have offset : (UInt64.ofNat i * 0x100000).toNat = i * 0x100000 := by
    rw [UInt64.toNat_mul, index, stride]
    exact Nat.mod_eq_of_lt (by omega)
  simp only [mipLevel]
  rw [UInt64.toNat_add, offset]
  exact Nat.mod_eq_of_lt inside

end Geometry

section Layout

variable (cfg : StackConfig) (retained : List ℚ)

/-- No address of a level wraps around. -/
def Unwrapped : Prop :=
  ∀ i ratio, retained[i]? = some ratio →
    cfg.srcGpuAddr.toNat + i * 0x100000 + levelOut cfg i ratio ≤ 2 ^ 64

theorem levelBytes_le (i : Nat) (width : cfg.width ≠ 0) (height : cfg.height ≠ 0) :
    levelBytes cfg i ≤ cfg.width.toNat * cfg.height.toNat * cfg.bytesPerElement.toNat := by
  have wide : max 1 (cfg.width.toNat / 2 ^ i) ≤ cfg.width.toNat := by
    have nonzero : cfg.width.toNat ≠ 0 := fun zero => width (UInt32.toNat_inj.mp zero)
    have smaller := Nat.div_le_self cfg.width.toNat (2 ^ i)
    omega
  have high : max 1 (cfg.height.toNat / 2 ^ i) ≤ cfg.height.toNat := by
    have nonzero : cfg.height.toNat ≠ 0 := fun zero => height (UInt32.toNat_inj.mp zero)
    have smaller := Nat.div_le_self cfg.height.toNat (2 ^ i)
    omega
  exact (Nat.mod_le _ _).trans (Nat.mul_le_mul_right _ (Nat.mul_le_mul wide high))

/-- Room for the largest level behind the last start is room for all of them. -/
theorem unwrapped_of_room (levels : retained.length ≤ 9) (width : cfg.width ≠ 0)
    (height : cfg.height ≠ 0) (ratios : ∀ ratio ∈ retained, 0 ≤ ratio ∧ ratio ≤ 1)
    (room : cfg.srcGpuAddr.toNat + 8 * 0x100000 + 1 +
      cfg.width.toNat * cfg.height.toNat * cfg.bytesPerElement.toNat ≤ 2 ^ 64) :
    Unwrapped cfg retained := by
  intro i ratio here
  have index : i < retained.length := (List.getElem?_eq_some_iff.mp here).1
  obtain ⟨positive, small⟩ := ratios ratio (List.mem_of_getElem? here)
  have size := levelOut_le cfg i ratio positive small
  have bytes := levelBytes_le cfg i width height
  omega

/-- The size of level `i`, and none behind the last one. -/
def sizes (i : Nat) : Nat := (retained[i]?.map (levelOut cfg i)).getD 0

theorem levelOut_positive (i : Nat) (ratio : ℚ) : 0 < levelOut cfg i ratio := by
  unfold levelOut
  omega

/-- The addresses of a level are a region of the strided layout. -/
theorem addresses_region (i : Nat) (ratio : ℚ) (width : cfg.width ≠ 0) (height : cfg.height ≠ 0)
    (here : retained[i]? = some ratio) (positive : 0 ≤ ratio) (small : ratio ≤ 1)
    (unwrapped : Unwrapped cfg retained) :
    (mipLevel cfg i ratio (halved cfg.width i) (halved cfg.height i)).addresses =
      region cfg.srcGpuAddr.toNat 0x100000 (sizes cfg retained) i := by
  have room := unwrapped i ratio here
  have occupied := levelOut_positive cfg i ratio
  have size : sizes cfg retained i = levelOut cfg i ratio := by
    rw [sizes, here]
    rfl
  rw [MipLevelDesc.addresses, gpuAddr_eq cfg i ratio _ _ (by omega),
    bytesOut_eq cfg i ratio width height positive small, region, size]

/-- A level keeps within the stride while its bytes behind compression, before
rounding, stay below the stride and a half. -/
theorem levelOut_fits_iff (i : Nat) (ratio : ℚ) (positive : 0 ≤ ratio) :
    levelOut cfg i ratio ≤ 0x100000 ↔ levelBytes cfg i * ratio < 2 ^ 20 + 1 / 2 := by
  have product : (0 : ℚ) ≤ levelBytes cfg i * ratio := mul_nonneg (Nat.cast_nonneg _) positive
  have rounded := roundAway_le_iff (levelBytes cfg i * ratio) 0x100000 product
  have stride : (((0x100000 : ℤ) : ℚ)) = 2 ^ 20 := by norm_num
  rw [stride] at rounded
  rw [← rounded, levelOut]
  omega

theorem mip_addresses (width : cfg.width ≠ 0) (height : cfg.height ≠ 0)
    (ratios : ∀ ratio ∈ retained, 1 / 1000 ≤ ratio ∧ ratio ≤ 1)
    (unwrapped : Unwrapped cfg retained) (i : Nat)
    (inside : i < (pyramidOf cfg retained).mip.length) :
    (pyramidOf cfg retained).mip[i].addresses =
      region cfg.srcGpuAddr.toNat 0x100000 (sizes cfg retained) i := by
  have count : i < retained.length := by
    rwa [← mipLevels_length cfg 0 retained cfg.width cfg.height]
  have here := List.getElem?_eq_getElem count
  have level := mipLevels_getElem? cfg 0 retained cfg.width cfg.height i
  rw [here, Option.map_some, Nat.zero_add] at level
  obtain ⟨least, most⟩ := ratios _ (List.getElem_mem count)
  have same := (List.getElem?_eq_some_iff.mp level).2
  have positive : 0 ≤ retained[i] := by linarith
  rw [← addresses_region cfg retained i retained[i] width height here positive most unwrapped]
  exact congrArg MipLevelDesc.addresses same

theorem pairwise_regions_iff (width : cfg.width ≠ 0) (height : cfg.height ≠ 0)
    (ratios : ∀ ratio ∈ retained, 1 / 1000 ≤ ratio ∧ ratio ≤ 1)
    (unwrapped : Unwrapped cfg retained) :
    (pyramidOf cfg retained).mip.Pairwise (fun m m' => Disjoint m.addresses m'.addresses) ↔
      ∀ i j, i < j → j < retained.length →
        Disjoint (region cfg.srcGpuAddr.toNat 0x100000 (sizes cfg retained) i)
          (region cfg.srcGpuAddr.toNat 0x100000 (sizes cfg retained) j) := by
  have length : (pyramidOf cfg retained).mip.length = retained.length :=
    mipLevels_length cfg 0 retained cfg.width cfg.height
  have addresses := mip_addresses cfg retained width height ratios unwrapped
  rw [List.pairwise_iff_getElem]
  constructor
  · intro disjoint i j before inside
    rw [← length] at inside
    rw [← addresses i (before.trans inside), ← addresses j inside]
    exact disjoint i j (before.trans inside) inside before
  · intro disjoint i j first second before
    rw [addresses i first, addresses j second]
    exact disjoint i j before (length ▸ second)

theorem levels_pairwise_iff (width : cfg.width ≠ 0) (height : cfg.height ≠ 0)
    (ratios : ∀ ratio ∈ retained, 1 / 1000 ≤ ratio ∧ ratio ≤ 1)
    (unwrapped : Unwrapped cfg retained) :
    (pyramidOf cfg retained).mip.Pairwise (fun m m' => Disjoint m.addresses m'.addresses) ↔
      ∀ (i : Nat) (ratio : ℚ), i + 1 < retained.length → retained[i]? = some ratio →
        levelBytes cfg i * ratio < 2 ^ 20 + 1 / 2 := by
  have occupied : ∀ i, i < retained.length → 0 < sizes cfg retained i := by
    intro i inside
    rw [sizes, List.getElem?_eq_getElem inside]
    exact levelOut_positive cfg i retained[i]
  rw [pairwise_regions_iff cfg retained width height ratios unwrapped,
    disjoint_iff_fits _ _ _ _ occupied]
  constructor
  · intro fits i ratio inside here
    have positive : 0 ≤ ratio := by linarith [(ratios ratio (List.mem_of_getElem? here)).1]
    have size := fits i inside
    rw [sizes, here] at size
    exact (levelOut_fits_iff cfg i ratio positive).mp size
  · intro small i inside
    have here := List.getElem?_eq_getElem (Nat.lt_of_succ_lt inside)
    have positive : 0 ≤ retained[i] := by linarith [(ratios _ (List.mem_of_getElem? here)).1]
    rw [sizes, here]
    exact (levelOut_fits_iff cfg i _ positive).mpr (small i _ inside here)

end Layout

/-- The regions of the nine levels are disjoint when each of the first eight has
fewer bytes behind compression than the stride and a half. -/
theorem regions_disjoint_iff (cfg : StackConfig) (retained : List ℚ) (levels : retained.length = 9)
    (width : cfg.width ≠ 0) (height : cfg.height ≠ 0)
    (ratios : ∀ ratio ∈ retained, 1 / 1000 ≤ ratio ∧ ratio ≤ 1)
    (unwrapped : Unwrapped cfg retained) :
    (pyramidOf cfg retained).mip.Pairwise (fun m m' => Disjoint m.addresses m'.addresses) ↔
      ∀ (i : Nat) (ratio : ℚ), i < 8 → retained[i]? = some ratio →
        levelBytes cfg i * ratio < 2 ^ 20 + 1 / 2 := by
  rw [levels_pairwise_iff cfg retained width height ratios unwrapped, levels]
  simp only [Nat.succ_lt_succ_iff]

section Configurations

/-- The configuration of `main`, for a picture of this width and height. -/
def squareConfig (side : UInt32) : StackConfig where
  width := side
  height := side
  tileSize := 16
  bytesPerElement := 4
  mode := .lossyQ4
  minRetainedRatio := 0.0102
  maxRetainedRatio := 0.12
  aggressiveWhenHealthy := true
  srcGpuAddr := 0x100000000
  srcBytes := 67108864
  metronome := ⟨2.4, 1.188, 0, true⟩
  gpu := ⟨true, true, "manual", 12, 1.75, true, true, true⟩

/-- The smallest ratios that `main`'s configuration allows. -/
def leastRatios : List ℚ :=
  [0.02448, 0.01887, 0.01428, 0.01071, 0.00816, 0.00612, 0.00459, 0.00306, 0.00204]

theorem leastRatios_bounded : ∀ ratio ∈ leastRatios, 1 / 1000 ≤ ratio ∧ ratio ≤ 1 := by
  simp only [leastRatios, List.forall_mem_cons, List.not_mem_nil, false_implies, implies_true,
    and_true]
  norm_num

theorem leastRatios_unwrapped (side : UInt32) (nonzero : side ≠ 0) (small : side.toNat ≤ 4096) :
    Unwrapped (squareConfig side) leastRatios := by
  apply unwrapped_of_room (squareConfig side) leastRatios (by decide) nonzero nonzero
  · intro ratio member
    obtain ⟨least, most⟩ := leastRatios_bounded ratio member
    exact ⟨by linarith, most⟩
  · have area : side.toNat * side.toNat ≤ 4096 * 4096 := Nat.mul_le_mul small small
    have start : (squareConfig side).srcGpuAddr.toNat = 0x100000000 := rfl
    have element : (squareConfig side).bytesPerElement.toNat = 4 := rfl
    have wide : (squareConfig side).width.toNat = side.toNat := rfl
    have high : (squareConfig side).height.toNat = side.toNat := rfl
    rw [start, element, wide, high]
    omega

/-- A picture of 256 by 256 fits. -/
theorem small_regions_disjoint :
    (pyramidOf (squareConfig 256) leastRatios).mip.Pairwise
      fun m m' => Disjoint m.addresses m'.addresses := by
  have exact := regions_disjoint_iff (squareConfig 256) leastRatios rfl (by decide) (by decide)
    leastRatios_bounded (leastRatios_unwrapped 256 (by decide) (by decide))
  apply exact.mpr
  intro i ratio _ here
  have bytes : levelBytes (squareConfig 256) i ≤ 262144 :=
    levelBytes_le (squareConfig 256) i (by decide) (by decide)
  have bytes : (levelBytes (squareConfig 256) i : ℚ) ≤ 262144 := by exact_mod_cast bytes
  obtain ⟨_, most⟩ := leastRatios_bounded ratio (List.mem_of_getElem? here)
  calc (levelBytes (squareConfig 256) i : ℚ) * ratio
      ≤ levelBytes (squareConfig 256) i := mul_le_of_le_one_right (Nat.cast_nonneg _) most
    _ ≤ 262144 := bytes
    _ < 2 ^ 20 + 1 / 2 := by norm_num

/-- With the picture of `main` the first level runs into the second, even at the
smallest ratios. -/
theorem main_regions_overlap :
    leastRatios.length = 9 ∧ (∀ ratio ∈ leastRatios, 1 / 1000 ≤ ratio ∧ ratio ≤ 1) ∧
      Unwrapped (squareConfig 4096) leastRatios ∧
      ¬(pyramidOf (squareConfig 4096) leastRatios).mip.Pairwise
        fun m m' => Disjoint m.addresses m'.addresses := by
  have unwrapped := leastRatios_unwrapped 4096 (by decide) (by decide)
  refine ⟨rfl, leastRatios_bounded, unwrapped, ?_⟩
  rw [levels_pairwise_iff (squareConfig 4096) leastRatios (by decide) (by decide)
    leastRatios_bounded unwrapped]
  intro small
  have first := small 0 0.02448 (by decide) rfl
  have bytes : levelBytes (squareConfig 4096) 0 = 67108864 := by decide
  rw [bytes] at first
  norm_num at first

end Configurations

end RyzenBuild.Dawnstar
