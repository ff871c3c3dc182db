import RyzenBuild.Lib.Tracking
import RyzenBuild.Ladder.SimplexBoost
import RyzenBuild.Xem.Ideal

/-!
The ladder of `simplex_adalter_kmod.c` beside the recursion of
`xem_fib_recursion.py`: the same levels, nodes, gains and limits, in parts per million
here and in floats there. With the multipliers of the module at one and its switches
off, both stay near the recursion in exact numbers.
-/
namespace RyzenBuild.Xem

open Ladder FixedPoint Tracking Rounding

variable (f : Floats)

def ratioOf (v : UInt32) : ℚ := v.toNat / 1000000

/-- The recursion with the numbers of a configuration; the curvature has no
counterpart in the module. -/
def recursorOf (cfg : SimplexAdalterCfg) (curvatureGain : ℚ) : XemFibRecursor :=
  { recursionLevels := cfg.recursionLevels.toNat
    nodesPerLevel := cfg.nodesPerLevel.toNat
    minRetainedRatio := ratioOf cfg.minRetainedPpm
    maxRetainedRatio := ratioOf cfg.maxRetainedPpm
    levelGain := ratioOf cfg.levelGainPpm
    nodeGain := ratioOf cfg.nodeGainPpm
    phaseGain := ratioOf cfg.phaseGainPpm
    curvatureGain := curvatureGain }

/-- What only the module has does nothing. -/
structure Neutral (cfg : SimplexAdalterCfg) : Prop where
  arm : cfg.armQ16 = 65536
  uScalar : cfg.uScalarQ16 = 65536
  adder : cfg.adderQ16 = 0
  modifier : cfg.modifierQ16 = 65536
  flags : cfg.flags = 0

/-- Limits and gains are ratios, and the limits are in order. -/
structure Ratios (cfg : SimplexAdalterCfg) : Prop where
  ordered : cfg.minRetainedPpm.toNat ≤ cfg.maxRetainedPpm.toNat
  most : cfg.maxRetainedPpm.toNat ≤ 1000000
  level : cfg.levelGainPpm.toNat ≤ 1000000
  node : cfg.nodeGainPpm.toNat ≤ 1000000
  phase : cfg.phaseGainPpm.toNat ≤ 1000000

/-- The base of the module is the decision on the page, in parts per million. -/
structure Stands (base : SimplexAdalterBase) (decision : XemColdDecision) : Prop where
  retained : decision.retainedRatio = f.fl (ratioOf base.retainedPpm)
  crosshatch : decision.crosshatchScore = f.fl (ratioOf base.crosshatchPpm)
  coldness : decision.coldnessScore = f.fl (ratioOf base.coldnessPpm)

/-- The scalars of node `n` on level `i` in unbounded integers. -/
def levelPart (weight gain : Nat) : Nat := 1000000 - mulRound 1000000 weight gain

def nodePart (nodes gain n : Nat) : Nat :=
  if 1 < nodes then 1000000 - n * gain / (nodes - 1) else 1000000

def phasePart (gain i n : Nat) : Nat := 1000000 - (i + 1) * gain / 100 - n * gain / 200

section Node

variable (cfg : SimplexAdalterCfg) (base : SimplexAdalterBase) (accepted : Accepted cfg)
  (neutral : Neutral cfg) (ratios : Ratios cfg) (i n : Nat) (level : i < cfg.recursionLevels.toNat)
  (node : n < cfg.nodesPerLevel.toNat)

theorem clamp_inside (v lo hi : UInt32) (above : lo.toNat ≤ v.toNat) (below : v.toNat ≤ hi.toNat) :
    clampU32 v lo hi = v := by
  apply UInt32.toNat_inj.mp
  rw [clampU32_toNat, FixedPoint.clamp, if_neg (by omega), if_neg (by omega)]

theorem mulPpm_share (v share : UInt32) (ratio : v.toNat ≤ 1000000)
    (part : share.toNat ≤ 1000000) :
    (mulPpm v share).toNat = mulRound 1000000 v.toNat share.toNat ∧
      (mulPpm v share).toNat ≤ v.toNat := by
  have small := mulRound_le 1000000 v.toNat share.toNat v.toNat (by decide)
    (Nat.mul_le_mul_left _ part)
  rw [mulPpm_toNat, Nat.mod_eq_of_lt (by omega)]
  exact ⟨rfl, small⟩

include accepted ratios level in
theorem level_scalar_toNat :
    (saLevelScalarPpm cfg (saFibWeightPpm cfg.recursionLevels i)).toNat =
      levelPart (exactWeight cfg.recursionLevels.toNat i) cfg.levelGainPpm.toNat := by
  have weight := saFibWeightPpm_toNat cfg.recursionLevels accepted.levels_pos accepted.levels_le i
    level
  have share := exactWeight_le cfg.recursionLevels.toNat i level
  obtain ⟨product, small⟩ := mulPpm_share (saFibWeightPpm cfg.recursionLevels i) cfg.levelGainPpm
    (weight ▸ share) ratios.level
  rw [saLevelScalarPpm, saMulPpm, ppm_sub_toNat _ (small.trans (weight ▸ share)), product, weight,
    levelPart]

include accepted ratios node in
theorem node_scalar_toNat :
    (if cfg.nodesPerLevel > 1 then
        ppm - UInt32.ofNat n * cfg.nodeGainPpm / (cfg.nodesPerLevel - 1) else ppm).toNat =
      nodePart cfg.nodesPerLevel.toNat cfg.nodeGainPpm.toNat n := by
  have few := accepted.nodes_le
  have positive := accepted.nodes_pos
  have gain := ratios.node
  have index := index_toNat n 22 (by omega) (le_refl _)
  have one : (1 : UInt32).toNat = 1 := rfl
  have machine : cfg.nodesPerLevel > 1 ↔ 1 < cfg.nodesPerLevel.toNat := by
    rw [gt_iff_lt, UInt32.lt_iff_toNat_lt, one]
  rw [nodePart]
  by_cases several : 1 < cfg.nodesPerLevel.toNat
  · have product : n * cfg.nodeGainPpm.toNat ≤ (cfg.nodesPerLevel.toNat - 1) * 1000000 :=
      Nat.mul_le_mul (by omega) gain
    have rest : (cfg.nodesPerLevel - 1).toNat = cfg.nodesPerLevel.toNat - 1 := by
      rw [UInt32.toNat_sub_of_le _ _ (UInt32.le_iff_toNat_le.mpr (by omega)), one]
    have quotient : (UInt32.ofNat n * cfg.nodeGainPpm / (cfg.nodesPerLevel - 1)).toNat =
        n * cfg.nodeGainPpm.toNat / (cfg.nodesPerLevel.toNat - 1) := by
      rw [UInt32.toNat_div, UInt32.toNat_mul, rest, index, Nat.mod_eq_of_lt (by omega)]
    have small : n * cfg.nodeGainPpm.toNat / (cfg.nodesPerLevel.toNat - 1) ≤ 1000000 :=
      Nat.div_le_of_le_mul product
    rw [if_pos (machine.mpr several), if_pos several,
      ppm_sub_toNat _ (quotient ▸ small), quotient]
  · rw [if_neg (fun more => several (machine.mp more)), if_neg several]
    rfl

include accepted ratios level node in
theorem phase_scalar_toNat :
    (ppm - (UInt32.ofNat i + 1) * cfg.phaseGainPpm / 100 -
        UInt32.ofNat n * cfg.phaseGainPpm / 200).toNat =
      phasePart cfg.phaseGainPpm.toNat i n := by
  have levels := accepted.levels_le
  have few := accepted.nodes_le
  have gain := ratios.phase
  have first := index_toNat i 22 (by omega) (le_refl _)
  have second := index_toNat n 22 (by omega) (le_refl _)
  have one : (1 : UInt32).toNat = 1 := rfl
  have hundred : (100 : UInt32).toNat = 100 := rfl
  have both : (200 : UInt32).toNat = 200 := rfl
  have whole : ppm.toNat = 1000000 := rfl
  have deep : (i + 1) * cfg.phaseGainPpm.toNat ≤ 22 * 1000000 := Nat.mul_le_mul (by omega) gain
  have wide : n * cfg.phaseGainPpm.toNat ≤ 12 * 1000000 := Nat.mul_le_mul (by omega) gain
  have left : ((UInt32.ofNat i + 1) * cfg.phaseGainPpm / 100).toNat =
      (i + 1) * cfg.phaseGainPpm.toNat / 100 := by
    rw [UInt32.toNat_div, UInt32.toNat_mul, UInt32.toNat_add, first, one, hundred,
      Nat.mod_eq_of_lt (a := i + 1) (by omega), Nat.mod_eq_of_lt (by omega)]
  have right : (UInt32.ofNat n * cfg.phaseGainPpm / 200).toNat =
      n * cfg.phaseGainPpm.toNat / 200 := by
    rw [UInt32.toNat_div, UInt32.toNat_mul, second, both, Nat.mod_eq_of_lt (by omega)]
  have cut : (ppm - (UInt32.ofNat i + 1) * cfg.phaseGainPpm / 100).toNat =
      1000000 - (i + 1) * cfg.phaseGainPpm.toNat / 100 := by
    rw [ppm_sub_toNat _ (by omega), left]
  rw [UInt32.toNat_sub_of_le _ _ (UInt32.le_iff_toNat_le.mpr (by omega)), cut, right, phasePart]

include accepted neutral ratios level node in
/-- Without its own multipliers the module multiplies the base by three scalars. -/
theorem neutral_node_toNat (above : cfg.minRetainedPpm.toNat ≤ base.retainedPpm.toNat)
    (below : base.retainedPpm.toNat ≤ cfg.maxRetainedPpm.toNat) :
    (saNodeRetained cfg base cfg.nodesPerLevel
        (saLevelScalarPpm cfg (saFibWeightPpm cfg.recursionLevels i)) (UInt32.ofNat i)
        (UInt32.ofNat n)).toNat =
      FixedPoint.clamp
        (mulRound 1000000
          (mulRound 1000000
            (mulRound 1000000 base.retainedPpm.toNat
              (levelPart (exactWeight cfg.recursionLevels.toNat i) cfg.levelGainPpm.toNat))
            (nodePart cfg.nodesPerLevel.toNat cfg.nodeGainPpm.toNat n))
          (phasePart cfg.phaseGainPpm.toNat i n))
        cfg.minRetainedPpm.toNat cfg.maxRetainedPpm.toNat := by
  have ratio := below.trans ratios.most
  have first := level_scalar_toNat cfg accepted ratios i level
  have second := node_scalar_toNat cfg accepted ratios n node
  have third := phase_scalar_toNat cfg accepted ratios i n level node
  have levelSmall : levelPart (exactWeight cfg.recursionLevels.toNat i) cfg.levelGainPpm.toNat ≤
      1000000 := Nat.sub_le _ _
  have nodeSmall : nodePart cfg.nodesPerLevel.toNat cfg.nodeGainPpm.toNat n ≤ 1000000 := by
    unfold nodePart
    split
    · exact Nat.sub_le _ _
    · exact le_refl _
  have phaseSmall : phasePart cfg.phaseGainPpm.toNat i n ≤ 1000000 :=
    (Nat.sub_le _ _).trans (Nat.sub_le _ _)
  rw [← first] at levelSmall
  rw [← second] at nodeSmall
  rw [← third] at phaseSmall
  obtain ⟨one, oneSmall⟩ := mulPpm_share base.retainedPpm _ ratio levelSmall
  obtain ⟨two, twoSmall⟩ := mulPpm_share _ _ (oneSmall.trans ratio) nodeSmall
  obtain ⟨three, _⟩ := mulPpm_share _ _ (twoSmall.trans (oneSmall.trans ratio)) phaseSmall
  have plain : saNodeShaped cfg base cfg.nodesPerLevel
      (saLevelScalarPpm cfg (saFibWeightPpm cfg.recursionLevels i)) (UInt32.ofNat i)
        (UInt32.ofNat n) =
      mulPpm (mulPpm (mulPpm base.retainedPpm
        (saLevelScalarPpm cfg (saFibWeightPpm cfg.recursionLevels i)))
        (if cfg.nodesPerLevel > 1 then
          ppm - UInt32.ofNat n * cfg.nodeGainPpm / (cfg.nodesPerLevel - 1) else ppm))
        (ppm - (UInt32.ofNat i + 1) * cfg.phaseGainPpm / 100 -
          UInt32.ofNat n * cfg.phaseGainPpm / 200) := by
    have inside := clamp_inside base.retainedPpm cfg.minRetainedPpm cfg.maxRetainedPpm above below
    have off (flag : UInt32) : (0 : UInt32) &&& flag = 0 := UInt32.zero_and
    simp only [saNodeShaped, saMulQ16, saMulPpm, saClampU32, neutral.arm, neutral.uScalar,
      neutral.adder, neutral.modifier, neutral.flags, mulQ16_one, mulQ16_zero, UInt32.add_zero,
      inside, off, ne_eq, not_true_eq_false, if_false]
  rw [saNodeRetained, saClampU32, clampU32_toNat, plain, three, two, one, first, second, third]

end Node

/-- The weight of level `i` of so many. -/
def weightOf (levels i : Nat) : ℚ := Nat.fib (i + 1) / ((Nat.fib (levels + 2) - 1 : Nat) : ℚ)

theorem fib_total_pos (levels : Nat) (positive : 0 < levels) : 0 < Nat.fib (levels + 2) - 1 := by
  have two := Nat.fib_mono (show 3 ≤ levels + 2 by omega)
  have three : Nat.fib 3 = 2 := by decide
  omega

theorem weight_between (levels i : Nat) (inside : i < levels) : Share (weightOf levels i) := by
  have total := fib_total_pos levels (by omega)
  have below := Nat.fib_mono (show i + 1 ≤ levels by omega)
  have split : Nat.fib (levels + 2) = Nat.fib levels + Nat.fib (levels + 1) := Nat.fib_add_two
  have one := Nat.fib_pos.mpr (show 0 < levels + 1 by omega)
  have cast : (Nat.fib (i + 1) : ℚ) ≤ (Nat.fib (levels + 2) - 1 : Nat) :=
    Nat.cast_le.mpr (by omega)
  exact ⟨div_nonneg (Nat.cast_nonneg _) (Nat.cast_nonneg _),
    (div_le_one (Nat.cast_pos.mpr total)).mpr cast⟩

theorem weight_tracks (levels i : Nat) (positive : 0 < levels) :
    Tracks 1 (exactWeight levels i) (weightOf levels i * 1000000) := by
  have cut := tracks_quotient (Nat.fib (i + 1) * 1000000) (Nat.fib (levels + 2) - 1)
    (fib_total_pos levels positive)
  rw [weightOf, div_mul_eq_mul_div]
  push_cast at cut
  exact cut

theorem ratio_share (v : UInt32) (small : v.toNat ≤ 1000000) : Share (ratioOf v) := by
  rw [ratioOf]
  have cast : (v.toNat : ℚ) ≤ 1000000 := by exact_mod_cast small
  exact ⟨div_nonneg (Nat.cast_nonneg _) (by norm_num), (div_le_one (by norm_num)).mpr cast⟩

theorem ratio_tracks (v : UInt32) : Tracks 0 v.toNat (ratioOf v * 1000000) := by
  have whole : ratioOf v * 1000000 = v.toNat := by
    rw [ratioOf]
    ring
  rw [whole]
  exact tracks_self _

theorem level_part_tracks (levels i : Nat) (gain : UInt32) (inside : i < levels)
    (small : gain.toNat ≤ 1000000) :
    Tracks (3 / 2) (levelPart (exactWeight levels i) gain.toNat)
      ((1 - weightOf levels i * ratioOf gain) * 1000000) := by
  have share := exactWeight_le levels i inside
  have product := tracks_scaled 1000000 1000000 (by decide) (by decide)
    (weight_tracks levels i (by omega)) (ratio_tracks gain) (ratio_share gain small) share
  have within := mulRound_le 1000000 (exactWeight levels i) gain.toNat 1000000 (by decide)
    (Nat.mul_le_mul share small)
  have rest := tracks_rest 1000000 product within
  have exact_ : ((1000000 : Nat) : ℚ) - weightOf levels i * 1000000 * ratioOf gain =
      (1 - weightOf levels i * ratioOf gain) * 1000000 := by
    push_cast
    ring
  rw [exact_] at rest
  exact tracks_mono rest (by norm_num)

theorem node_part_tracks (nodes n : Nat) (gain : UInt32) (inside : n < nodes)
    (small : gain.toNat ≤ 1000000) :
    Tracks 1 (nodePart nodes gain.toNat n)
      ((1 - n / max 1 ((nodes : ℚ) - 1) * ratioOf gain) * 1000000) := by
  rw [nodePart]
  by_cases several : 1 < nodes
  · have rest : (1 : ℚ) ≤ nodes - 1 := by
      have cast : (2 : ℚ) ≤ nodes := by exact_mod_cast several
      linarith
    have product : n * gain.toNat ≤ (nodes - 1) * 1000000 := Nat.mul_le_mul (by omega) small
    have cut := tracks_quotient (n * gain.toNat) (nodes - 1) (by omega)
    have left := tracks_rest 1000000 cut (Nat.div_le_of_le_mul product)
    rw [if_pos several, max_eq_right rest]
    have exact_ : ((1000000 : Nat) : ℚ) - ((n * gain.toNat : Nat) : ℚ) / ((nodes - 1 : Nat) : ℚ) =
        (1 - n / ((nodes : ℚ) - 1) * ratioOf gain) * 1000000 := by
      rw [ratioOf, Nat.cast_sub (by omega)]
      push_cast
      ring
    rwa [exact_] at left
  · have alone : n = 0 := by omega
    rw [if_neg several, alone]
    have whole := tracks_mono (tracks_self 1000000) (show (0 : ℚ) ≤ 1 by norm_num)
    simpa using whole

theorem phase_part_tracks (i n : Nat) (gain : UInt32) (weight : ℚ) (positive : 0 ≤ weight)
    (room : (i + 1) * gain.toNat / 100 + n * gain.toNat / 200 ≤ 1000000) :
    Tracks (2 + 1440 * weight) (phasePart gain.toNat i n)
      ((1 - (((i + 1 : Nat) : ℚ) * ratioOf gain + n * ratioOf gain * 0.5 + weight * 0.144) * 0.01) *
        1000000) := by
  have first := tracks_quotient ((i + 1) * gain.toNat) 100 (by decide)
  have second := tracks_quotient (n * gain.toNat) 200 (by decide)
  have left := tracks_rest 1000000 (tracks_add first second) room
  rw [phasePart, Nat.sub_sub]
  -- The weight in the phase is left out by the module.
  have gap : |((1000000 : Nat) : ℚ) - ((((i + 1) * gain.toNat : Nat) : ℚ) / ((100 : Nat) : ℚ) +
      ((n * gain.toNat : Nat) : ℚ) / ((200 : Nat) : ℚ)) -
      (1 - (((i + 1 : Nat) : ℚ) * ratioOf gain + n * ratioOf gain * 0.5 + weight * 0.144) * 0.01) *
        1000000| ≤ 1440 * weight := by
    have same : ((1000000 : Nat) : ℚ) - ((((i + 1) * gain.toNat : Nat) : ℚ) / ((100 : Nat) : ℚ) +
        ((n * gain.toNat : Nat) : ℚ) / ((200 : Nat) : ℚ)) -
        (1 - (((i + 1 : Nat) : ℚ) * ratioOf gain + n * ratioOf gain * 0.5 + weight * 0.144) *
          0.01) * 1000000 = 1440 * weight := by
      rw [ratioOf]
      push_cast
      ring
    rw [same, abs_of_nonneg (by linarith)]
  exact tracks_mono (tracks_moved _ left gap) (by linarith)

theorem clamp_scaled (x lo hi : ℚ) :
    clamp x lo hi * 1000000 = max (lo * 1000000) (min (hi * 1000000) (x * 1000000)) := by
  have scale : (0 : ℚ) ≤ 1000000 := by norm_num
  rw [clamp, max_mul_of_nonneg _ _ scale, min_mul_of_nonneg _ _ scale]

theorem ratio_scaled (v : UInt32) : ratioOf v * 1000000 = v.toNat := by
  rw [ratioOf]
  ring

/-- What the floats may add to an error, in parts per million. -/
def slack : ℚ := 1 / 1000

theorem tracks_near {error k x y : ℚ} {reading : Nat} (tracks : Tracks error reading (x * 1000000))
    (near : Near k y x) (few : k ≤ 1000000) : Tracks (error + slack) reading (y * 1000000) := by
  apply tracks_moved _ tracks
  have off : |y - x| ≤ k / 2 ^ 53 := near
  rw [← sub_mul, abs_mul, abs_sub_comm, slack]
  norm_num at off ⊢
  linarith

/-- Rounding to six digits moves a share by half a part per million at most. -/
theorem tracks_round {error x : ℚ} {reading : Nat} (tracks : Tracks error reading (x * 1000000))
    (share : -1 / 2 < x * 1000000 ∧ x * 1000000 < 1000000 + 1 / 2) :
    Tracks (error + 1 / 2 + slack) reading (f.round x 6 * 1000000) := by
  have near := roundEven_near (x * 10 ^ 6)
  have grid : |x * 1000000 - (roundEven (x * 10 ^ 6) : ℚ) / 1000000 * 1000000| ≤ 1 / 2 := by
    rw [abs_sub_comm, div_mul_cancel₀ _ (by norm_num)]
    norm_num at near ⊢
    exact near
  exact tracks_near (tracks_moved _ tracks grid)
    (parts_near f _ _ (round_parts f x share.1 share.2)) (by norm_num)

theorem round_share (x : ℚ) (share : Share x) : Share (f.round x 6) :=
  parts_share f _ _ (round_parts f x (by linarith [share.1]) (by linarith [share.2]))

/-- How far a node of this weight may be off, in parts per million. -/
def nodeError (share weight : ℚ) : ℚ := 3 / 2 + share * (9 / 2 + 1440 * weight)

theorem avg_range (count : Nat) (value : Nat → ℚ) (bound : ℚ) (positive : 0 < count)
    (few : count ≤ 22) (small : ∀ n, n < count → |value n| ≤ bound) (light : bound ≤ 2) :
    Near 200 (avg f ((List.range count).map value))
      ((∑ k ∈ Finset.range count, value k) / count) := by
  have some_value : (List.range count).map value ≠ [] := by
    rw [ne_eq, List.map_eq_nil_iff, List.range_eq_nil]
    omega
  have near := avg_near f ((List.range count).map value) bound some_value (by
    intro v member
    obtain ⟨n, inside, rfl⟩ := List.mem_map.mp member
    exact small n (List.mem_range.mp inside)) (by linarith) (by
    rw [List.length_map, List.length_range]
    omega)
  have most : (count : ℚ) ≤ 22 := by exact_mod_cast few
  have none := (abs_nonneg _).trans (small 0 positive)
  rw [List.length_map, List.length_range] at near
  refine near_mono near ?_
  have product := mul_le_mul most (show bound + 1 ≤ 3 by linarith) (by linarith) (by norm_num)
  linarith

/-- Truncated averages of the module beside averages of floats. -/
theorem average_tracks {error : ℚ} (count : UInt32) (positive : 0 < count.toNat)
    (few : count.toNat ≤ 22) (readings : Nat → UInt32) (values : Nat → ℚ)
    (small : ∀ n, n < count.toNat → |values n| ≤ 2)
    (tracks : ∀ n, n < count.toNat → Tracks error (readings n).toNat (values n * 1000000)) :
    Tracks (error + 1 + slack) (averageU32 (sumU64 count.toNat readings) count).toNat
      (avg f ((List.range count.toNat).map values) * 1000000) := by
  have exact_ := tracks_average_even count.toNat positive _ _ tracks
  rw [← Finset.sum_mul, ← div_mul_eq_mul_div, ← averageU32_toNat count readings positive] at exact_
  exact tracks_near exact_ (avg_range f _ values 2 positive few small (le_refl _)) (by norm_num)

section Level

variable (cfg : SimplexAdalterCfg) (base : SimplexAdalterBase) (accepted : Accepted cfg)
  (neutral : Neutral cfg) (ratios : Ratios cfg) (curvature : ℚ) (decision : XemColdDecision)
  (stands : Stands f base decision) (above : cfg.minRetainedPpm.toNat ≤ base.retainedPpm.toNat)
  (below : base.retainedPpm.toNat ≤ cfg.maxRetainedPpm.toNat) (i : Nat)
  (level : i < cfg.recursionLevels.toNat)

include accepted ratios in
theorem recursor_moderate : (recursorOf cfg curvature).Moderate where
  few := accepted.nodes_le
  least := ratio_share _ (ratios.ordered.trans ratios.most)
  most := ratio_share _ ratios.most
  level := ratio_share _ ratios.level
  node := ratio_share _ ratios.node
  phase := ratio_share _ ratios.phase

include accepted neutral ratios above below level

theorem node_tracks (n : Nat) (node : n < cfg.nodesPerLevel.toNat) :
    Tracks (nodeError (ratioOf base.retainedPpm) (weightOf cfg.recursionLevels.toNat i))
      (saNodeRetained cfg base cfg.nodesPerLevel
        (saLevelScalarPpm cfg (saFibWeightPpm cfg.recursionLevels i)) (UInt32.ofNat i)
        (UInt32.ofNat n)).toNat
      ((recursorOf cfg curvature).idealRetained (ratioOf base.retainedPpm) (i + 1)
        (weightOf cfg.recursionLevels.toNat i) n * 1000000) := by
  have gainLevel := ratio_share _ ratios.level
  have gainNode := ratio_share _ ratios.node
  have levels := accepted.levels_le
  have nodes := accepted.nodes_le
  have phases : (i + 1) * cfg.phaseGainPpm.toNat / 100 + n * cfg.phaseGainPpm.toNat / 200 ≤
      1000000 := by
    have deep : (i + 1) * cfg.phaseGainPpm.toNat ≤ 22 * 1000000 :=
      Nat.mul_le_mul (by omega) ratios.phase
    have wide : n * cfg.phaseGainPpm.toNat ≤ 12 * 1000000 :=
      Nat.mul_le_mul (by omega) ratios.phase
    omega
  have first := level_part_tracks _ i cfg.levelGainPpm level ratios.level
  have second := node_part_tracks _ n cfg.nodeGainPpm node ratios.node
  have third := phase_part_tracks i n cfg.phaseGainPpm _
    (weight_between cfg.recursionLevels.toNat i level).1 phases
  have weight := weight_between cfg.recursionLevels.toNat i level
  have shareLevel := (weight.mul gainLevel).rest
  have shareNode := ((place_share cfg.nodesPerLevel.toNat n node).mul gainNode).rest
  have sharePhase := (phase_share (recursorOf cfg curvature) (i + 1) n _ weight
    (recursor_moderate cfg accepted ratios curvature) (by omega) node).rest
  have part (share : Nat) (whole : share ≤ 1000000) (v : Nat) :
      mulRound 1000000 v share ≤ v := mulRound_le _ _ _ _ (by decide) (Nat.mul_le_mul_left _ whole)
  have one := tracks_scaled 1000000 base.retainedPpm.toNat (by decide) (by decide)
    (tracks_self base.retainedPpm.toNat) first shareLevel (le_refl _)
  have oneSmall := part (levelPart (exactWeight cfg.recursionLevels.toNat i)
    cfg.levelGainPpm.toNat) (Nat.sub_le _ _) base.retainedPpm.toNat
  have two := tracks_scaled 1000000 base.retainedPpm.toNat (by decide) (by decide) one second
    shareNode oneSmall
  have nodeSmall : nodePart cfg.nodesPerLevel.toNat cfg.nodeGainPpm.toNat n ≤ 1000000 := by
    unfold nodePart
    split
    · exact Nat.sub_le _ _
    · exact le_refl _
  have three := tracks_scaled 1000000 base.retainedPpm.toNat (by decide) (by decide) two third
    sharePhase ((part _ nodeSmall _).trans oneSmall)
  have clamped := tracks_clamp cfg.minRetainedPpm.toNat cfg.maxRetainedPpm.toNat ratios.ordered
    three
  rw [neutral_node_toNat cfg base accepted neutral ratios i n level node above below]
  have exact_ : (recursorOf cfg curvature).idealRetained (ratioOf base.retainedPpm) (i + 1)
      (weightOf cfg.recursionLevels.toNat i) n * 1000000 =
        max (cfg.minRetainedPpm.toNat : ℚ) (min (cfg.maxRetainedPpm.toNat : ℚ)
          (base.retainedPpm.toNat *
            (1 - weightOf cfg.recursionLevels.toNat i * ratioOf cfg.levelGainPpm) *
            (1 - n / max 1 ((cfg.nodesPerLevel.toNat : ℚ) - 1) * ratioOf cfg.nodeGainPpm) *
            (1 - (((i + 1 : Nat) : ℚ) * ratioOf cfg.phaseGainPpm +
              n * ratioOf cfg.phaseGainPpm * 0.5 +
              weightOf cfg.recursionLevels.toNat i * 0.144) * 0.01))) := by
    simp only [XemFibRecursor.idealRetained, recursorOf, clamp_scaled, ratio_scaled]
    rw [← ratio_scaled base.retainedPpm]
    congr 2
    ring
  rw [exact_]
  refine tracks_mono clamped (le_of_eq ?_)
  rw [nodeError, ratioOf]
  push_cast
  ring

end Level

theorem floats_ordered (cfg : SimplexAdalterCfg) (ratios : Ratios cfg) (curvature : ℚ) :
    ((recursorOf cfg curvature).floats f).minRetainedRatio ≤
      ((recursorOf cfg curvature).floats f).maxRetainedRatio := by
  apply f.mono
  exact div_le_div_of_nonneg_right (Nat.cast_le.mpr ratios.ordered) (by norm_num)

/-- The weight as the recursion computes it. -/
def fibWeight (levels i : Nat) : ℚ :=
  f.div (Nat.fib (i + 1)) ((Nat.fib (levels + 2) - 1 : Nat) : ℚ)

theorem fib_weight_near (levels i : Nat) (inside : i < levels) :
    Near 3 (fibWeight f levels i) (weightOf levels i) :=
  near_mono (f.near_literal _ 1 (weight_between levels i inside).size) (by norm_num)

theorem ratio_near (v : UInt32) (small : v.toNat ≤ 1000000) :
    Near 3 (f.fl (ratioOf v)) (ratioOf v) :=
  near_mono (f.near_literal _ 1 (ratio_share v small).size) (by norm_num)

section Floating

variable (cfg : SimplexAdalterCfg) (base : SimplexAdalterBase) (accepted : Accepted cfg)
  (neutral : Neutral cfg) (ratios : Ratios cfg) (curvature : ℚ) (decision : XemColdDecision)
  (stands : Stands f base decision) (above : cfg.minRetainedPpm.toNat ≤ base.retainedPpm.toNat)
  (below : base.retainedPpm.toNat ≤ cfg.maxRetainedPpm.toNat) (i : Nat)
  (level : i < cfg.recursionLevels.toNat)

include accepted neutral ratios stands above below level

/-- The nodes of the module beside the nodes in floats. -/
theorem node_floated (n : Nat) (node : n < cfg.nodesPerLevel.toNat) :
    Tracks (nodeError (ratioOf base.retainedPpm) (weightOf cfg.recursionLevels.toNat i) + slack)
        (saNodeRetained cfg base cfg.nodesPerLevel
          (saLevelScalarPpm cfg (saFibWeightPpm cfg.recursionLevels i)) (UInt32.ofNat i)
          (UInt32.ofNat n)).toNat
        (((recursorOf cfg curvature).floats f).retained f decision (i + 1)
          (fibWeight f cfg.recursionLevels.toNat i) n * 1000000) ∧
      Share (((recursorOf cfg curvature).floats f).retained f decision (i + 1)
        (fibWeight f cfg.recursionLevels.toNat i) n) := by
  have levels := accepted.levels_le
  have ratio := below.trans ratios.most
  have moderate := recursor_moderate cfg accepted ratios curvature
  have tracks := node_tracks cfg base accepted neutral ratios curvature above below i level n node
  have near := retained_near f (recursorOf cfg curvature) (i + 1) n _ _
    (fib_weight_near f cfg.recursionLevels.toNat i level)
    (weight_between cfg.recursionLevels.toNat i level) moderate (by omega) node decision
    (ratioOf base.retainedPpm) (stands.retained ▸ ratio_near f base.retainedPpm ratio)
    (ratio_share base.retainedPpm ratio)
  refine ⟨tracks_near tracks near (by norm_num), ?_⟩
  have between := ((recursorOf cfg curvature).floats f).retained_limits f decision (i + 1)
    (fibWeight f cfg.recursionLevels.toNat i) n (floats_ordered f cfg ratios curvature)
  exact ⟨(f.fl_nonneg _ moderate.least.1).trans between.1,
    between.2.trans (f.fl_le_one _ moderate.most.2)⟩

/-- The nodes that the recursion builds on the level. -/
theorem node_rounded (n fibValue : Nat) (node : n < cfg.nodesPerLevel.toNat) :
    Tracks (nodeError (ratioOf base.retainedPpm) (weightOf cfg.recursionLevels.toNat i) +
        1 / 2 + 3 * slack)
      (saNodeRetained cfg base cfg.nodesPerLevel
        (saLevelScalarPpm cfg (saFibWeightPpm cfg.recursionLevels i)) (UInt32.ofNat i)
        (UInt32.ofNat n)).toNat
      ((((recursorOf cfg curvature).floats f).buildNode f decision (i + 1) fibValue
        (fibWeight f cfg.recursionLevels.toNat i) n).retainedRatio * 1000000) := by
  obtain ⟨tracks, share⟩ := node_floated f cfg base accepted neutral ratios curvature decision
    stands above below i level n node
  refine tracks_mono (tracks_round f tracks ⟨by linarith [share.1], by linarith [share.2]⟩) ?_
  rw [slack]
  linarith

theorem node_reduced (n fibValue : Nat) (node : n < cfg.nodesPerLevel.toNat) :
    Tracks (nodeError (ratioOf base.retainedPpm) (weightOf cfg.recursionLevels.toNat i) +
        1 / 2 + 3 * slack)
      (ppm - saNodeRetained cfg base cfg.nodesPerLevel
        (saLevelScalarPpm cfg (saFibWeightPpm cfg.recursionLevels i)) (UInt32.ofNat i)
        (UInt32.ofNat n)).toNat
      ((((recursorOf cfg curvature).floats f).buildNode f decision (i + 1) fibValue
        (fibWeight f cfg.recursionLevels.toNat i) n).reductionRatio * 1000000) := by
  have small : (saNodeRetained cfg base cfg.nodesPerLevel
      (saLevelScalarPpm cfg (saFibWeightPpm cfg.recursionLevels i)) (UInt32.ofNat i)
      (UInt32.ofNat n)).toNat ≤ 1000000 :=
    (clampU32_between _ _ _ ratios.ordered).2.trans ratios.most
  obtain ⟨tracks, share⟩ := node_floated f cfg base accepted neutral ratios curvature decision
    stands above below i level n node
  have rest := tracks_rest 1000000 tracks small
  have exact_ (x : ℚ) : ((1000000 : Nat) : ℚ) - x * 1000000 = (1 - x) * 1000000 := by
    push_cast
    ring
  rw [exact_] at rest
  have floated := tracks_near rest (f.near_literal _ 1 share.rest.size) (by norm_num)
  have left : Share (f.sub 1 (((recursorOf cfg curvature).floats f).retained f decision (i + 1)
      (fibWeight f cfg.recursionLevels.toNat i) n)) :=
    ⟨f.fl_nonneg _ share.rest.1, f.fl_le_one _ share.rest.2⟩
  rw [ppm_sub_toNat _ small]
  refine tracks_mono (tracks_round f floated ⟨by linarith [left.1], by linarith [left.2]⟩) ?_
  linarith

end Floating

section Boost

/-- A score multiplied by the boost of its level and by a factor of its node. -/
def boosted (gain score weight factor : UInt32) : UInt32 :=
  clampU32 (mulPpm (mulPpm score (ppm + weight * gain / ppm)) factor) 0 ppm

/-- As long as the 32-bit product keeps all its bits, the score is off by little more
than the roundings of two products. -/
theorem boosted_tracks (gain score weight factor : UInt32) (share ratio : ℚ)
    (small : score.toNat ≤ 1000000) (gains : gain.toNat ≤ 180000)
    (whole : weight.toNat * gain.toNat < 2 ^ 32) (positive : 0 ≤ share ∧ share ≤ 1)
    (weighted : Tracks 1 weight.toNat (share * 1000000))
    (factored : Tracks 0 factor.toNat (ratio * 1000000)) (near : 0 ≤ ratio ∧ ratio ≤ 51 / 50)
    (least : factor.toNat ≤ 1020000) :
    Tracks (9 / 4) (boosted gain score weight factor).toNat
      (idealScore (ratioOf score) (ratioOf gain) share ratio * 1000000) := by
  have million : ppm.toNat = 1000000 := rfl
  have boost : (ppm + weight * gain / ppm).toNat =
      1000000 + weight.toNat * gain.toNat / 1000000 := by
    rw [UInt32.toNat_add, UInt32.toNat_div, UInt32.toNat_mul, million, Nat.mod_eq_of_lt whole]
    exact Nat.mod_eq_of_lt (by omega)
  have cast : (gain.toNat : ℚ) ≤ 180000 := by exact_mod_cast gains
  have gained : |((weight.toNat * gain.toNat : Nat) : ℚ) / ((1000000 : Nat) : ℚ) -
      share * gain.toNat| ≤ 9 / 50 := by
    have parts : ((weight.toNat * gain.toNat : Nat) : ℚ) / ((1000000 : Nat) : ℚ) -
        share * gain.toNat = (gain.toNat : ℚ) / 1000000 * (weight.toNat - share * 1000000) := by
      push_cast
      ring
    have part : (0 : ℚ) ≤ gain.toNat / 1000000 := div_nonneg (Nat.cast_nonneg _) (by norm_num)
    rw [parts, abs_mul, abs_of_nonneg part]
    have off := mul_le_mul_of_nonneg_left weighted part
    linarith
  have scaled : Tracks (59 / 50) (ppm + weight * gain / ppm).toNat
      ((1 + share * ratioOf gain) * 1000000) := by
    have sum := tracks_add (tracks_self 1000000)
      (tracks_moved _ (tracks_quotient (weight.toNat * gain.toNat) 1000000 (by decide)) gained)
    have exact_ : ((1000000 : Nat) : ℚ) + share * gain.toNat =
        (1 + share * ratioOf gain) * 1000000 := by
      rw [ratioOf]
      push_cast
      ring
    rw [exact_] at sum
    rw [boost]
    exact tracks_mono sum (by norm_num)
  have bound : 0 ≤ 1 + share * ratioOf gain ∧ 1 + share * ratioOf gain ≤ 59 / 50 := by
    have part : 0 ≤ ratioOf gain ∧ ratioOf gain ≤ 9 / 50 := by
      rw [ratioOf]
      constructor
      · exact div_nonneg (Nat.cast_nonneg _) (by norm_num)
      · linarith
    have product := mul_nonneg positive.1 part.1
    have most := mul_le_mul positive.2 part.2 part.1 (by norm_num)
    constructor <;> linarith
  have first := tracks_scaled 1000000 1000000 (by decide) (by decide) (ratio_tracks score) scaled
    bound small
  have second := tracks_scaled 1000000 (mulRound 1000000 score.toNat
    (ppm + weight * gain / ppm).toNat) (by decide) (by decide) first factored near (le_refl _)
  have clamped := tracks_clamp 0 1000000 (by decide) second
  have oneSmall := mulRound_le 1000000 score.toNat (ppm + weight * gain / ppm).toNat 1004294
    (by decide) (by
      have product := Nat.mul_le_mul small (show (ppm + weight * gain / ppm).toNat ≤ 1004294 by
        rw [boost]
        omega)
      omega)
  have twoSmall := mulRound_le 1000000 (mulRound 1000000 score.toNat
    (ppm + weight * gain / ppm).toNat) factor.toNat 1024380 (by decide) (by
      have product := Nat.mul_le_mul oneSmall least
      omega)
  have machine : (boosted gain score weight factor).toNat =
      FixedPoint.clamp (mulRound 1000000 (mulRound 1000000 score.toNat
        (ppm + weight * gain / ppm).toNat) factor.toNat) 0 1000000 := by
    rw [boosted, clampU32_toNat, mulPpm_toNat, mulPpm_toNat,
      Nat.mod_eq_of_lt (a := mulRound 1000000 score.toNat _) (by omega),
      Nat.mod_eq_of_lt (by omega), million]
    rfl
  rw [machine, idealScore, clamp_scaled]
  have exact_ : ratioOf score * (1 + share * ratioOf gain) * ratio * 1000000 =
      ratioOf score * 1000000 * (1 + share * ratioOf gain) * ratio := by ring
  rw [exact_]
  norm_num at clamped ⊢
  exact tracks_mono clamped (by norm_num)

end Boost

end RyzenBuild.Xem
