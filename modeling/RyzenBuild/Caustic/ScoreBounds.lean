import RyzenBuild.Caustic.Scores
import Mathlib.Data.Nat.Cast.Order.Field
import Mathlib.Data.Rat.Floor
import Mathlib.Tactic.Linarith
import Mathlib.Tactic.NormNum

/-!
How far the scores of `caustic.c` are parts per million. The weights of the file
are bounded whatever is read. The load of the card is a product in 64 bits,
divided and narrowed to 32 bits, and no step of it is checked.
-/
namespace RyzenBuild.Caustic

open Kernel

def MagentaScores.fields (s : MagentaScores) : List UInt32 :=
  [s.metadataDensityPpm, s.freshnessPpm, s.gpuPressurePpm, s.pathWeightPpm, s.xattrWeightPpm,
    s.campaignWeightPpm, s.advertiserWeightPpm, s.magentaInterestPpm, s.magentaCausalRatioPpm,
    s.magentaQualityPpm]

section Pieces

def gpuPressure (cfg : Config) (gm : GpuMetrics) : UInt32 :=
  if cfg.includeGpu && gm.ok then
    (usagePpm gm.vramUsed gm.vramTotal + usagePpm gm.gttUsed gm.gttTotal) / 2
  else 0

def capped (v : UInt64) : UInt64 := if v > 1000000 then 1000000 else v

def metadataDensity (fm : FileMeta) (xattrCount xattrNameBytes : UInt64) : UInt32 :=
  if fm.ok then
    let denom := if fm.sizeBytes ≠ 0 then fm.sizeBytes else 1
    (capped (((xattrCount * 4096 + xattrNameBytes) * 1000000) / denom)).toUInt32
  else 0

def freshness (now : Int) (fm : FileMeta) : UInt32 :=
  if fm.ok then fileFreshnessPpm now fm.mtime else 400000

def pathWeight (path : List UInt8) : UInt32 :=
  if (strstr (text "campaign") (cString path)).isSome then 800000
  else if (strstr (text "creative") (cString path)).isSome then 760000
  else if (strstr (text "audience") (cString path)).isSome then 820000
  else 550000

def xattrWeight (xattrCount : UInt64) : UInt32 :=
  clampU32 (xattrCount * 90000).toUInt32 120000 1000000

def idWeight (id : List UInt8) : UInt32 := if cString id ≠ [] then 900000 else 300000

def interestOf (density fresh xattr campaign advertiser : UInt32) : UInt64 :=
  (density.toUInt64 * 26 + fresh.toUInt64 * 18 + xattr.toUInt64 * 20 + campaign.toUInt64 * 18 +
    advertiser.toUInt64 * 18) / 100

def qualityOf (density fresh path xattr : UInt32) : UInt64 :=
  (density.toUInt64 * 32 + fresh.toUInt64 * 24 + path.toUInt64 * 18 + xattr.toUInt64 * 26) / 100

def causalOf (interest quality : UInt64) (pressure : UInt32) : UInt64 :=
  let causal := (interest * 65 + quality * 35) / 100
  if pressure > 0 then
    let pressurePenalty := (pressure / 5).toUInt64
    if causal > pressurePenalty then causal - pressurePenalty else 0
  else causal

theorem computeMagentaScores_eq (cfg : Config) (now : Int) (fm : FileMeta) (gm : GpuMetrics)
    (xattrCount xattrNameBytes : UInt64) :
    computeMagentaScores cfg now fm gm xattrCount xattrNameBytes =
      let density := metadataDensity fm xattrCount xattrNameBytes
      let xattr := xattrWeight xattrCount
      let interest := capped (interestOf density (freshness now fm) xattr (idWeight cfg.campaignId)
        (idWeight cfg.advertiserId))
      let quality := capped (qualityOf density (freshness now fm) (pathWeight cfg.path) xattr)
      { metadataDensityPpm := density
        freshnessPpm := freshness now fm
        gpuPressurePpm := gpuPressure cfg gm
        pathWeightPpm := pathWeight cfg.path
        xattrWeightPpm := xattr
        campaignWeightPpm := idWeight cfg.campaignId
        advertiserWeightPpm := idWeight cfg.advertiserId
        magentaInterestPpm := interest.toUInt32
        magentaCausalRatioPpm := (capped (causalOf interest quality (gpuPressure cfg gm))).toUInt32
        magentaQualityPpm := quality.toUInt32 } := rfl

end Pieces

section Bounds

theorem capped_le (v : UInt64) : (capped v).toNat ≤ 1000000 := by
  unfold capped
  split
  · decide
  · next small => exact UInt64.le_iff_toNat_le.mp (UInt64.not_lt.mp small)

theorem capped_of_le (v : UInt64) (small : v.toNat ≤ 1000000) : capped v = v :=
  if_neg (UInt64.not_lt.mpr (UInt64.le_iff_toNat_le.mpr small))

theorem narrow_capped (v : UInt64) : (capped v).toUInt32.toNat = (capped v).toNat := by
  have small := capped_le v
  rw [UInt64.toNat_toUInt32]
  omega

theorem metadataDensity_le (fm : FileMeta) (xattrCount xattrNameBytes : UInt64) :
    (metadataDensity fm xattrCount xattrNameBytes).toNat ≤ 1000000 := by
  unfold metadataDensity
  split
  · rw [narrow_capped]
    exact capped_le _
  · decide

theorem freshness_le (now : Int) (fm : FileMeta) : (freshness now fm).toNat ≤ 1000000 := by
  unfold freshness fileFreshnessPpm
  dsimp only
  repeat' first | split | decide

theorem pathWeight_le (path : List UInt8) : (pathWeight path).toNat ≤ 1000000 := by
  unfold pathWeight
  repeat' first | split | decide

theorem idWeight_le (id : List UInt8) : (idWeight id).toNat ≤ 1000000 := by
  unfold idWeight
  repeat' first | split | decide

theorem clampU32_le (v lo hi : UInt32) (ordered : lo ≤ hi) : clampU32 v lo hi ≤ hi := by
  unfold clampU32
  split
  · exact ordered
  · split
    · exact UInt32.le_refl hi
    · next small => exact UInt32.not_lt.mp small

theorem xattrWeight_le (xattrCount : UInt64) : (xattrWeight xattrCount).toNat ≤ 1000000 :=
  UInt32.le_iff_toNat_le.mp (clampU32_le _ 120000 1000000 (by decide))

end Bounds

section Means

variable (density fresh path xattr campaign advertiser : UInt32)
variable (dense : density.toNat ≤ 1000000) (recent : fresh.toNat ≤ 1000000)
variable (tagged : xattr.toNat ≤ 1000000)
include dense recent tagged

/-- The shares add up to a hundred, so a mean of parts per million is one. -/
theorem interestOf_toNat (sold : campaign.toNat ≤ 1000000) (paid : advertiser.toNat ≤ 1000000) :
    (interestOf density fresh xattr campaign advertiser).toNat =
      (density.toNat * 26 + fresh.toNat * 18 + xattr.toNat * 20 + campaign.toNat * 18 +
        advertiser.toNat * 18) / 100 := by
  simp only [interestOf, UInt64.toNat_div, UInt64.toNat_add, UInt64.toNat_mul,
    UInt32.toNat_toUInt64, UInt64.reduceToNat]
  omega

theorem qualityOf_toNat (placed : path.toNat ≤ 1000000) :
    (qualityOf density fresh path xattr).toNat =
      (density.toNat * 32 + fresh.toNat * 24 + path.toNat * 18 + xattr.toNat * 26) / 100 := by
  simp only [qualityOf, UInt64.toNat_div, UInt64.toNat_add, UInt64.toNat_mul,
    UInt32.toNat_toUInt64, UInt64.reduceToNat]
  omega

end Means

theorem causalOf_toNat (interest quality : UInt64) (pressure : UInt32)
    (interested : interest.toNat ≤ 1000000) (sound : quality.toNat ≤ 1000000) :
    (causalOf interest quality pressure).toNat =
      (interest.toNat * 65 + quality.toNat * 35) / 100 - pressure.toNat / 5 := by
  have mean : ((interest * 65 + quality * 35) / 100).toNat =
      (interest.toNat * 65 + quality.toNat * 35) / 100 := by
    simp only [UInt64.toNat_div, UInt64.toNat_add, UInt64.toNat_mul, UInt64.reduceToNat]
    omega
  have penalty : (pressure / 5).toUInt64.toNat = pressure.toNat / 5 := by
    simp only [UInt32.toNat_toUInt64, UInt32.toNat_div, UInt32.reduceToNat]
  simp only [causalOf]
  split
  · split
    · next left =>
        rw [UInt64.toNat_sub_of_le _ _ (UInt64.le_of_lt left), mean, penalty]
    · next spent =>
        have spent := UInt64.le_iff_toNat_le.mp (UInt64.not_lt.mp spent)
        rw [mean, penalty] at spent
        exact (Nat.sub_eq_zero_of_le spent).symm
  · next idle =>
      have idle := UInt32.le_iff_toNat_le.mp (UInt32.not_lt.mp idle)
      have none : pressure.toNat = 0 := Nat.le_zero.mp idle
      rw [mean, none, Nat.zero_div, Nat.sub_zero]

section Load

/-- A memory in use, as the code has it: the product keeps 64 bits and the
quotient 32. -/
def usage (used total : UInt64) : Nat := used.toNat * 1000000 % 2 ^ 64 / total.toNat % 2 ^ 32

/-- The two memories together, in 32 bits, and zero for a card that is not read. -/
def load (cfg : Config) (gm : GpuMetrics) : Nat :=
  if cfg.includeGpu && gm.ok then
    (usage gm.vramUsed gm.vramTotal + usage gm.gttUsed gm.gttTotal) % 2 ^ 32
  else 0

theorem usagePpm_toNat (used total : UInt64) : (usagePpm used total).toNat = usage used total := by
  unfold usagePpm usage
  split
  · simp only [UInt64.toNat_toUInt32, UInt64.toNat_div, UInt64.toNat_mul, UInt64.reduceToNat]
  · next zero =>
      rw [Decidable.not_not.mp zero]
      simp

theorem gpuPressure_toNat (cfg : Config) (gm : GpuMetrics) :
    (gpuPressure cfg gm).toNat = load cfg gm / 2 := by
  unfold gpuPressure load
  split
  · simp only [UInt32.toNat_div, UInt32.toNat_add, usagePpm_toNat, UInt32.reduceToNat]
  · rfl

/-- The part of a memory in use; of a memory of size zero nothing counts. -/
def share (used total : UInt64) : ℚ := used.toNat / total.toNat

/-- How many memories are in use. -/
def inUse (gm : GpuMetrics) : ℚ := share gm.vramUsed gm.vramTotal + share gm.gttUsed gm.gttTotal

/-- What is in use is below the size where its product with a million passes 64
bits. -/
structure Small (gm : GpuMetrics) : Prop where
  vram : gm.vramTotal ≠ 0 → gm.vramUsed.toNat * 1000000 < 2 ^ 64
  gtt : gm.gttTotal ≠ 0 → gm.gttUsed.toNat * 1000000 < 2 ^ 64

/-- The part of a memory in use, in whole parts per million. -/
def parts (used total : UInt64) : Nat := used.toNat * 1000000 / total.toNat

theorem parts_le_share (used total : UInt64) :
    (parts used total : ℚ) ≤ share used total * 1000000 := by
  have floor : ((used.toNat * 1000000 / total.toNat : Nat) : ℚ) ≤
      ((used.toNat * 1000000 : Nat) : ℚ) / (total.toNat : ℚ) := Nat.cast_div_le
  rw [parts, share, div_mul_eq_mul_div]
  exact_mod_cast floor

theorem share_lt_parts (used total : UInt64) :
    share used total * 1000000 < parts used total + 1 := by
  rcases Nat.eq_zero_or_pos total.toNat with zero | positive
  · simp [share, parts, zero]
  · have ceiling : used.toNat * 1000000 < total.toNat * (parts used total + 1) :=
      Nat.lt_mul_div_succ _ positive
    have ceiling : (used.toNat : ℚ) * 1000000 < total.toNat * (parts used total + 1) := by
      exact_mod_cast ceiling
    rw [share, div_mul_eq_mul_div, div_lt_iff₀ (by exact_mod_cast positive)]
    linarith

theorem parts_of_inUse (gm : GpuMetrics) (most : Nat) (within : inUse gm ≤ most) :
    parts gm.vramUsed gm.vramTotal + parts gm.gttUsed gm.gttTotal ≤ most * 1000000 := by
  have vram := parts_le_share gm.vramUsed gm.vramTotal
  have gtt := parts_le_share gm.gttUsed gm.gttTotal
  have sum : ((parts gm.vramUsed gm.vramTotal + parts gm.gttUsed gm.gttTotal : Nat) : ℚ) ≤
      (most * 1000000 : Nat) := by
    rw [inUse] at within
    push_cast
    linarith
  exact_mod_cast sum

theorem usage_exact (used total : UInt64) (small : total ≠ 0 → used.toNat * 1000000 < 2 ^ 64)
    (narrow : parts used total < 2 ^ 32) : usage used total = parts used total := by
  by_cases zero : total = 0
  · rw [usage, parts, zero]
    simp
  · rw [usage, Nat.mod_eq_of_lt (small zero)]
    exact Nat.mod_eq_of_lt narrow

/-- Where no product wraps and at most 4294 memories are in use, the code
computes the parts. -/
theorem load_exact (cfg : Config) (gm : GpuMetrics) (read : (cfg.includeGpu && gm.ok) = true)
    (small : Small gm) (few : inUse gm ≤ 4294) :
    load cfg gm = parts gm.vramUsed gm.vramTotal + parts gm.gttUsed gm.gttTotal := by
  have sum := parts_of_inUse gm 4294 (by exact_mod_cast few)
  rw [load, if_pos read, usage_exact _ _ small.vram (by omega),
    usage_exact _ _ small.gtt (by omega)]
  exact Nat.mod_eq_of_lt (by omega)

/-- A later reading of the same card, with no less memory in use. -/
structure Busier (gm busier : GpuMetrics) : Prop where
  vramTotal : busier.vramTotal = gm.vramTotal
  gttTotal : busier.gttTotal = gm.gttTotal
  ok : busier.ok = gm.ok
  vramUsed : gm.vramUsed ≤ busier.vramUsed
  gttUsed : gm.gttUsed ≤ busier.gttUsed

theorem parts_mono (used more total : UInt64) (grown : used ≤ more) :
    parts used total ≤ parts more total :=
  Nat.div_le_div_right (Nat.mul_le_mul_right _ (UInt64.le_iff_toNat_le.mp grown))

theorem share_mono (used more total : UInt64) (grown : used ≤ more) :
    share used total ≤ share more total := by
  have grown : (used.toNat : ℚ) ≤ more.toNat := by exact_mod_cast UInt64.le_iff_toNat_le.mp grown
  exact div_le_div_of_nonneg_right grown (Nat.cast_nonneg _)

theorem small_before (gm busier : GpuMetrics) (more : Busier gm busier) (small : Small busier) :
    Small gm where
  vram := by
    intro some
    have grown := UInt64.le_iff_toNat_le.mp more.vramUsed
    exact (Nat.mul_le_mul_right _ grown).trans_lt (small.vram (more.vramTotal ▸ some))
  gtt := by
    intro some
    have grown := UInt64.le_iff_toNat_le.mp more.gttUsed
    exact (Nat.mul_le_mul_right _ grown).trans_lt (small.gtt (more.gttTotal ▸ some))

theorem inUse_mono (gm busier : GpuMetrics) (more : Busier gm busier) :
    inUse gm ≤ inUse busier := by
  rw [inUse, inUse, more.vramTotal, more.gttTotal]
  exact add_le_add (share_mono _ _ _ more.vramUsed) (share_mono _ _ _ more.gttUsed)

theorem load_mono (cfg : Config) (gm busier : GpuMetrics) (more : Busier gm busier)
    (read : (cfg.includeGpu && gm.ok) = true) (small : Small busier) (few : inUse busier ≤ 4294) :
    load cfg gm ≤ load cfg busier := by
  have earlier := (inUse_mono gm busier more).trans few
  rw [load_exact cfg gm read (small_before gm busier more small) earlier,
    load_exact cfg busier (more.ok ▸ read) small few, more.vramTotal, more.gttTotal]
  exact Nat.add_le_add (parts_mono _ _ _ more.vramUsed) (parts_mono _ _ _ more.gttUsed)

end Load

section Scores

variable (cfg : Config) (now : Int) (fm : FileMeta) (xattrCount xattrNameBytes : UInt64)

/-- The causal ratio of a file on an idle card, in exact numbers. -/
def restingCausal : Nat :=
  let density := (metadataDensity fm xattrCount xattrNameBytes).toNat
  let fresh := (freshness now fm).toNat
  let xattr := (xattrWeight xattrCount).toNat
  let campaign := (idWeight cfg.campaignId).toNat
  let advertiser := (idWeight cfg.advertiserId).toNat
  let interest :=
    (density * 26 + fresh * 18 + xattr * 20 + campaign * 18 + advertiser * 18) / 100
  let quality :=
    (density * 32 + fresh * 24 + (pathWeight cfg.path).toNat * 18 + xattr * 26) / 100
  (interest * 65 + quality * 35) / 100

theorem causal_toNat (gm : GpuMetrics) :
    (computeMagentaScores cfg now fm gm xattrCount xattrNameBytes).magentaCausalRatioPpm.toNat =
      restingCausal cfg now fm xattrCount xattrNameBytes - load cfg gm / 10 := by
  have dense := metadataDensity_le fm xattrCount xattrNameBytes
  have recent := freshness_le now fm
  have tagged := xattrWeight_le xattrCount
  have interest := interestOf_toNat _ _ _ _ _ dense recent tagged (idWeight_le cfg.campaignId)
    (idWeight_le cfg.advertiserId)
  have quality := qualityOf_toNat _ _ _ _ dense recent tagged (pathWeight_le cfg.path)
  have sold := idWeight_le cfg.campaignId
  have paid := idWeight_le cfg.advertiserId
  have placed := pathWeight_le cfg.path
  rw [computeMagentaScores_eq]
  dsimp only
  rw [narrow_capped, capped_of_le (interestOf _ _ _ _ _) (by omega),
    capped_of_le (qualityOf _ _ _ _) (by omega)]
  have causal := causalOf_toNat (interestOf (metadataDensity fm xattrCount xattrNameBytes)
    (freshness now fm) (xattrWeight xattrCount) (idWeight cfg.campaignId)
    (idWeight cfg.advertiserId)) (qualityOf (metadataDensity fm xattrCount xattrNameBytes)
    (freshness now fm) (pathWeight cfg.path) (xattrWeight xattrCount)) (gpuPressure cfg gm)
    (by omega) (by omega)
  rw [gpuPressure_toNat, Nat.div_div_eq_div_mul, interest, quality] at causal
  rw [capped_of_le _ (by omega), causal]
  rfl

/-- Of the ten fields only the pressure can leave the bound. -/
theorem fields_le_iff (gm : GpuMetrics) :
    (∀ field ∈ (computeMagentaScores cfg now fm gm xattrCount xattrNameBytes).fields,
      field ≤ 1000000) ↔ load cfg gm ≤ 2000001 := by
  have pressure := gpuPressure_toNat cfg gm
  have kept : ∀ v : UInt64, (capped v).toUInt32.toNat ≤ 1000000 := by
    intro v
    rw [narrow_capped]
    exact capped_le v
  rw [computeMagentaScores_eq]
  simp only [MagentaScores.fields, List.forall_mem_cons, List.not_mem_nil, false_implies,
    implies_true, and_true, UInt32.le_iff_toNat_le, UInt32.reduceToNat, metadataDensity_le,
    freshness_le, pathWeight_le, xattrWeight_le, idWeight_le, kept, true_and, pressure]
  omega

theorem causal_le_iff (gm gm' : GpuMetrics) :
    (computeMagentaScores cfg now fm gm' xattrCount xattrNameBytes).magentaCausalRatioPpm ≤
        (computeMagentaScores cfg now fm gm xattrCount xattrNameBytes).magentaCausalRatioPpm ↔
      load cfg gm / 10 ≤ load cfg gm' / 10 ∨
        restingCausal cfg now fm xattrCount xattrNameBytes ≤ load cfg gm' / 10 := by
  rw [UInt32.le_iff_toNat_le, causal_toNat, causal_toNat]
  omega

/-- The scores at two readings of the card, with everything else fixed. -/
structure BoundedAndOrdered (gm busier : GpuMetrics) : Prop where
  bounded : ∀ field ∈ (computeMagentaScores cfg now fm gm xattrCount xattrNameBytes).fields,
    field ≤ 1000000
  busierBounded :
    ∀ field ∈ (computeMagentaScores cfg now fm busier xattrCount xattrNameBytes).fields,
      field ≤ 1000000
  ordered :
    (computeMagentaScores cfg now fm busier xattrCount xattrNameBytes).magentaCausalRatioPpm ≤
      (computeMagentaScores cfg now fm gm xattrCount xattrNameBytes).magentaCausalRatioPpm

theorem bounded_and_ordered_of_loads (gm busier : GpuMetrics)
    (ordered : load cfg gm ≤ load cfg busier) (within : load cfg busier ≤ 2000001) :
    BoundedAndOrdered cfg now fm xattrCount xattrNameBytes gm busier where
  bounded := (fields_le_iff cfg now fm xattrCount xattrNameBytes gm).mpr (ordered.trans within)
  busierBounded := (fields_le_iff cfg now fm xattrCount xattrNameBytes busier).mpr within
  ordered := (causal_le_iff cfg now fm xattrCount xattrNameBytes gm busier).mpr
    (.inl (Nat.div_le_div_right ordered))

theorem bounded_and_ordered_of_room (gm busier : GpuMetrics) (more : Busier gm busier)
    (room : (cfg.includeGpu && gm.ok) = true → Small busier ∧ inUse busier ≤ 2) :
    BoundedAndOrdered cfg now fm xattrCount xattrNameBytes gm busier := by
  by_cases read : (cfg.includeGpu && gm.ok) = true
  · obtain ⟨small, within⟩ := room read
    have few : inUse busier ≤ 4294 := within.trans (by norm_num)
    apply bounded_and_ordered_of_loads
    · exact load_mono cfg gm busier more read small few
    · have sum := parts_of_inUse busier 2 (by exact_mod_cast within)
      rw [load_exact cfg busier (more.ok ▸ read) small few]
      omega
  · have idle : load cfg gm = 0 := by rw [load, if_neg read]
    have still : load cfg busier = 0 := by rw [load, more.ok, if_neg read]
    apply bounded_and_ordered_of_loads
    · rw [idle, still]
    · rw [still]
      decide

/-- Of an overfull card the bound hides what the roundings lose, and no more. -/
theorem inUse_of_bounded (gm busier : GpuMetrics) (more : Busier gm busier)
    (read : (cfg.includeGpu && gm.ok) = true) (small : Small busier) (few : inUse busier ≤ 4294)
    (kept : BoundedAndOrdered cfg now fm xattrCount xattrNameBytes gm busier) :
    inUse busier < 2 + 3 / 1000000 := by
  have within := (fields_le_iff cfg now fm xattrCount xattrNameBytes busier).mp kept.busierBounded
  rw [load_exact cfg busier (more.ok ▸ read) small few] at within
  have within : (parts busier.vramUsed busier.vramTotal : ℚ) +
      parts busier.gttUsed busier.gttTotal ≤ 2000001 := by exact_mod_cast within
  have vram := share_lt_parts busier.vramUsed busier.vramTotal
  have gtt := share_lt_parts busier.gttUsed busier.gttTotal
  rw [inUse]
  linarith

/-- The scores of two readings are bounded and ordered when the busier one has no
more in use than two memories in full, below the sizes that wrap. Where nothing
wraps they are not once it has three millionths more. -/
theorem bounded_and_ordered_within (gm busier : GpuMetrics) (more : Busier gm busier) :
    (((cfg.includeGpu && gm.ok) = true → Small busier ∧ inUse busier ≤ 2) →
      BoundedAndOrdered cfg now fm xattrCount xattrNameBytes gm busier) ∧
    ((cfg.includeGpu && gm.ok) = true → Small busier → inUse busier ≤ 4294 →
      BoundedAndOrdered cfg now fm xattrCount xattrNameBytes gm busier →
        inUse busier < 2 + 3 / 1000000) :=
  ⟨bounded_and_ordered_of_room cfg now fm xattrCount xattrNameBytes gm busier more,
    inUse_of_bounded cfg now fm xattrCount xattrNameBytes gm busier more⟩

end Scores

section Readings

def plainConfig : Config := ⟨text "card0", text "/srv/clip", [], [], false, true⟩

def missingFile : FileMeta := ⟨0, false, 0⟩

/-- The vram of a card, alone. -/
def vramReading (used total : UInt64) : GpuMetrics := ⟨total, used, 0, 0, true⟩

theorem half_used_bounded_and_ordered :
    BoundedAndOrdered plainConfig 0 missingFile 0 0 (vramReading 4 16) (vramReading 8 16) := by
  have more : Busier (vramReading 4 16) (vramReading 8 16) := ⟨rfl, rfl, rfl, by decide, by decide⟩
  apply (bounded_and_ordered_within plainConfig 0 missingFile 0 0 _ _ more).1
  intro _
  refine ⟨⟨fun _ => by decide, fun _ => by decide⟩, ?_⟩
  simp only [inUse, share, vramReading, UInt64.reduceToNat]
  norm_num

/-- One more byte in use clears the pressure of a card of 18446744073710 bytes,
and a card with three times its memory in use is under 1500000 parts. -/
theorem full_card_unpressed :
    (Busier (vramReading 18446744073709 18446744073710)
        (vramReading 18446744073710 18446744073710) ∧
      ¬(computeMagentaScores plainConfig 0 missingFile
          (vramReading 18446744073710 18446744073710) 0 0).magentaCausalRatioPpm ≤
        (computeMagentaScores plainConfig 0 missingFile
          (vramReading 18446744073709 18446744073710) 0 0).magentaCausalRatioPpm) ∧
    ¬∀ field ∈ (computeMagentaScores plainConfig 0 missingFile (vramReading 3 1) 0 0).fields,
      field ≤ 1000000 := by
  refine ⟨⟨⟨rfl, rfl, rfl, by decide, by decide⟩, ?_⟩, ?_⟩
  · rw [causal_le_iff]
    decide
  · rw [fields_le_iff]
    decide

end Readings

end RyzenBuild.Caustic
