import Mathlib.Algebra.BigOperators.Field
import RyzenBuild.Xem.Kernel

/-!
The whole report of the module beside the whole report of the recursion, level by level
and in the averages over the levels, from the page to be decided on.
-/
namespace RyzenBuild.Xem

open Ladder FixedPoint Tracking Rounding

variable (f : Floats)

theorem fibExtend_iterate (more : Nat) :
    fibExtend^[more] [1, 1] = (List.range (more + 2)).map fun i => Nat.fib (i + 1) := by
  induction more with
  | zero => rfl
  | succ more ih =>
      have length : ((List.range (more + 2)).map fun i => Nat.fib (i + 1)).length = more + 2 := by
        rw [List.length_map, List.length_range]
      have value (i : Nat) (inside : i < more + 2) :
          ((List.range (more + 2)).map fun i => Nat.fib (i + 1)).getD i 0 = Nat.fib (i + 1) := by
        rw [List.getD_eq_getElem?_getD, List.getElem?_map, List.getElem?_range inside]
        rfl
      have longer : (List.range (more + 1 + 2)).map (fun i => Nat.fib (i + 1)) =
          (List.range (more + 2)).map (fun i => Nat.fib (i + 1)) ++ [Nat.fib (more + 1 + 2)] := by
        rw [show more + 1 + 2 = more + 2 + 1 by omega, List.range_succ, List.map_append]
        rfl
      rw [Function.iterate_succ_apply', ih, fibExtend, length, value _ (by omega),
        value _ (by omega), longer, Nat.fib_add_two, Nat.add_comm (Nat.fib (more + 1))]
      rfl

theorem fibSequence_eq (count : Nat) :
    fibSequence count = (List.range count).map fun i => Nat.fib (i + 1) := by
  rw [fibSequence]
  split
  · next none => rw [none]; rfl
  · split
    · next one => rw [one]; rfl
    · rw [fibExtend_iterate, show count - 2 + 2 = count by omega, List.take_of_length_le]
      rw [List.length_map, List.length_range]

theorem fibSequence_sum (count : Nat) : (fibSequence count).sum = Nat.fib (count + 2) - 1 := by
  have total := Nat.fib_succ_eq_succ_sum (count + 1)
  rw [Finset.sum_range_succ'] at total
  have listed : (fibSequence count).sum = ∑ k ∈ Finset.range count, Nat.fib (k + 1) := by
    rw [fibSequence_eq]
    rfl
  rw [listed, total]
  rfl

/-- The accumulators of the module over its levels. -/
theorem simplex_sums (levels : Nat) (level : Nat → SimplexAdalterLevel) :
    ((List.range levels).map level).foldl Sums.addSimplexLevel Sums.zero =
      { ret := sumU64 levels fun i => (level i).retainedPpm
        red := sumU64 levels fun i => (level i).reductionPpm
        cross := sumU64 levels fun i => (level i).crosshatchPpm
        cold := sumU64 levels fun i => (level i).coldnessPpm
        energy := sumU64 levels fun i => (level i).energyPpm } := by
  induction levels with
  | zero => rfl
  | succ levels ih =>
      rw [List.range_succ, List.map_append, List.foldl_append, ih]
      simp only [List.map_cons, List.map_nil, List.foldl_cons, List.foldl_nil, Sums.addSimplexLevel,
        sumU64_succ]

/-- A level of the module beside a level of the recursion. Its crosshatch and coldness
only count while the products with the weight keep all their bits. -/
structure LevelTracks (share part : ℚ) (level : SimplexAdalterLevel) (exact : FibRecursiveLevel) :
    Prop where
  index : level.levelIndex.toNat = exact.level
  fib : level.fibValue.toNat = exact.fibValue
  weight : Tracks 2 level.fibWeightPpm.toNat (exact.fibWeight * 1000000)
  retained : Tracks (nodeError share part + 9 / 4) level.retainedPpm.toNat
    (exact.levelRetainedRatio * 1000000)
  reduction : Tracks (nodeError share part + 9 / 4) level.reductionPpm.toNat
    (exact.levelReductionRatio * 1000000)
  crosshatch : level.fibWeightPpm.toNat * 120000 < 2 ^ 32 →
    Tracks 5 level.crosshatchPpm.toNat (exact.levelCrosshatchScore * 1000000)
  coldness : level.fibWeightPpm.toNat * 180000 < 2 ^ 32 →
    Tracks 5 level.coldnessPpm.toNat (exact.levelColdnessScore * 1000000)
  mips : List.Forall₂ (fun mip exact =>
      Tracks (12 / 5 * (nodeError share part + 7 / 4) + 1) mip.toNat (exact * 1000000))
    level.mipRetainedPpm exact.levelMipRetained

/-- Nearly a share of one, as an average of shares is. -/
def Around (k x : ℚ) : Prop := -(k / 2 ^ 53) ≤ x ∧ x ≤ 1 + k / 2 ^ 53

theorem share_around (x : ℚ) (share : Share x) : Around 0 x := by
  rw [Around, zero_div]
  exact ⟨by linarith [share.1], by linarith [share.2]⟩

section Around

variable {k x : ℚ} (around : Around k x) (few : k ≤ 1000)

include around few

theorem around_size : |x| ≤ 2 := by
  obtain ⟨least, most⟩ := around
  have off : k / 2 ^ 53 ≤ 1 := (div_le_one (by positivity)).mpr (few.trans (by norm_num))
  rw [abs_le]
  constructor <;> linarith

theorem around_parts : -1 / 2 < x * 1000000 ∧ x * 1000000 < 1000000 + 1 / 2 := by
  obtain ⟨least, most⟩ := around
  have off : k / 2 ^ 53 * 1000000 < 1 / 2 := by
    norm_num
    linarith
  constructor <;> linarith

end Around

theorem avg_around (count : Nat) (value : Nat → ℚ) (k : ℚ) (positive : 0 < count)
    (many : count ≤ 22) (few : k ≤ 800) (around : ∀ n, n < count → Around k (value n)) :
    Around (k + 200) (avg f ((List.range count).map value)) := by
  have near := avg_range f count value 2 positive many
    (fun n inside => around_size (around n inside) (by linarith)) (le_refl _)
  have whole : (0 : ℚ) < count := Nat.cast_pos.mpr positive
  have total : count * -(k / 2 ^ 53) ≤ ∑ n ∈ Finset.range count, value n ∧
      ∑ n ∈ Finset.range count, value n ≤ count * (1 + k / 2 ^ 53) := by
    have least := Finset.card_nsmul_le_sum (Finset.range count) value (-(k / 2 ^ 53))
      fun n member => (around n (Finset.mem_range.mp member)).1
    have most := Finset.sum_le_card_nsmul (Finset.range count) value (1 + k / 2 ^ 53)
      fun n member => (around n (Finset.mem_range.mp member)).2
    rw [Finset.card_range, nsmul_eq_mul] at least most
    exact ⟨least, most⟩
  have least := (le_div_iff₀' whole).mpr total.1
  have most := (div_le_iff₀' whole).mpr total.2
  obtain ⟨below, above⟩ := abs_le.mp near
  rw [Around, add_div]
  constructor <;> linarith

section Level

variable (cfg : SimplexAdalterCfg) (base : SimplexAdalterBase) (accepted : Accepted cfg)
  (neutral : Neutral cfg) (ratios : Ratios cfg) (curvature : ℚ) (decision : XemColdDecision)
  (stands : Stands f base decision) (above : cfg.minRetainedPpm.toNat ≤ base.retainedPpm.toNat)
  (below : base.retainedPpm.toNat ≤ cfg.maxRetainedPpm.toNat) (i : Nat)
  (level : i < cfg.recursionLevels.toNat)

/-- The nodes of the recursion on level `i`. -/
def floatNodes : List FibRecursiveNode :=
  ((recursorOf cfg curvature).floats f).buildLevelNodes f decision (i + 1) (Nat.fib (i + 1))
    (fibWeight f cfg.recursionLevels.toNat i)

theorem float_nodes_map (value : FibRecursiveNode → ℚ) :
    (floatNodes f cfg curvature decision i).map value =
      (List.range cfg.nodesPerLevel.toNat).map fun n =>
        value (((recursorOf cfg curvature).floats f).buildNode f decision (i + 1) (Nat.fib (i + 1))
          (fibWeight f cfg.recursionLevels.toNat i) n) := by
  rw [floatNodes, XemFibRecursor.buildLevelNodes, List.map_map]
  rfl

include accepted in
/-- The average of a level follows its nodes, if these are shares. -/
theorem level_average_tracks (error : ℚ) (value : FibRecursiveNode → ℚ) (reading : Nat → UInt32)
    (tracks : ∀ n, n < cfg.nodesPerLevel.toNat → Tracks error (reading n).toNat
      (value (((recursorOf cfg curvature).floats f).buildNode f decision (i + 1) (Nat.fib (i + 1))
        (fibWeight f cfg.recursionLevels.toNat i) n) * 1000000))
    (shares : ∀ n, n < cfg.nodesPerLevel.toNat →
      Share (value (((recursorOf cfg curvature).floats f).buildNode f decision (i + 1)
        (Nat.fib (i + 1)) (fibWeight f cfg.recursionLevels.toNat i) n))) :
    Tracks (error + 1 + slack)
        (averageU32 (sumU64 cfg.nodesPerLevel.toNat reading) cfg.nodesPerLevel).toNat
        (avg f ((floatNodes f cfg curvature decision i).map value) * 1000000) ∧
      Around 200 (avg f ((floatNodes f cfg curvature decision i).map value)) := by
  have few := accepted.nodes_le
  rw [float_nodes_map]
  constructor
  · exact average_tracks f cfg.nodesPerLevel accepted.nodes_pos (by omega) _ _
      (fun n node => (shares n node).size.trans (by norm_num)) tracks
  · have around := avg_around f cfg.nodesPerLevel.toNat _ 0 accepted.nodes_pos (by omega)
      (by norm_num) fun n node => share_around _ (shares n node)
    rwa [zero_add] at around

include accepted neutral ratios stands above below level

theorem level_retained_tracks :
    Tracks (nodeError (ratioOf base.retainedPpm) (weightOf cfg.recursionLevels.toNat i) + 8 / 5)
        (saLevel cfg base cfg.recursionLevels cfg.nodesPerLevel i).retainedPpm.toNat
        (avg f ((floatNodes f cfg curvature decision i).map (·.retainedRatio)) * 1000000) ∧
      Around 200 (avg f ((floatNodes f cfg curvature decision i).map (·.retainedRatio))) := by
  obtain ⟨each, around⟩ := level_average_tracks f cfg accepted curvature decision i _
    (·.retainedRatio) _ (fun n node =>
      node_rounded f cfg base accepted neutral ratios curvature decision stands above below i level
        n (Nat.fib (i + 1)) node)
    (fun n node => round_share f _ (node_floated f cfg base accepted neutral ratios curvature
      decision stands above below i level n node).2)
  refine ⟨?_, around⟩
  simp only [saLevel, levelSums_eq, saNode]
  refine tracks_mono each ?_
  rw [slack]
  linarith

theorem level_reduction_tracks :
    Tracks (nodeError (ratioOf base.retainedPpm) (weightOf cfg.recursionLevels.toNat i) + 8 / 5)
        (saLevel cfg base cfg.recursionLevels cfg.nodesPerLevel i).reductionPpm.toNat
        (avg f ((floatNodes f cfg curvature decision i).map (·.reductionRatio)) * 1000000) ∧
      Around 200 (avg f ((floatNodes f cfg curvature decision i).map (·.reductionRatio))) := by
  obtain ⟨each, around⟩ := level_average_tracks f cfg accepted curvature decision i _
    (·.reductionRatio) _ (fun n node =>
      node_reduced f cfg base accepted neutral ratios curvature decision stands above below i level
        n (Nat.fib (i + 1)) node)
    (fun n node => by
      have share := (node_floated f cfg base accepted neutral ratios curvature decision stands above
        below i level n node).2.rest
      exact round_share f _ ⟨f.fl_nonneg _ share.1, f.fl_le_one _ share.2⟩)
  refine ⟨?_, around⟩
  simp only [saLevel, levelSums_eq, saNode]
  refine tracks_mono each ?_
  rw [slack]
  linarith

end Level

theorem cross_gain : ratioOf 120000 = 0.12 := by
  have gain : (120000 : UInt32).toNat = 120000 := rfl
  rw [ratioOf, gain]
  norm_num

theorem cold_gain : ratioOf 180000 = 0.18 := by
  have gain : (180000 : UInt32).toNat = 180000 := rfl
  rw [ratioOf, gain]
  norm_num

section Scores

variable (cfg : SimplexAdalterCfg) (base : SimplexAdalterBase) (accepted : Accepted cfg)
  (curvature : ℚ) (decision : XemColdDecision) (stands : Stands f base decision) (i : Nat)
  (level : i < cfg.recursionLevels.toNat)

theorem fib_weight_tracks (accepted : Accepted cfg) (level : i < cfg.recursionLevels.toNat) :
    Tracks 1 (saFibWeightPpm cfg.recursionLevels i).toNat
      (weightOf cfg.recursionLevels.toNat i * 1000000) := by
  rw [saFibWeightPpm_toNat cfg.recursionLevels accepted.levels_pos accepted.levels_le i level]
  exact weight_tracks _ i accepted.levels_pos

theorem place_factor_near (place : Nat) (small : place ≤ 3) :
    Near 17 (f.sub 1 (f.mul place (f.fl 0.015))) (1 - place * 0.015) := by
  have most : (place : ℚ) ≤ 3 := by exact_mod_cast small
  have least : (0 : ℚ) ≤ place := Nat.cast_nonneg _
  have product := f.mul_near (near_self (place : ℚ)) (f.near_literal 0.015 1 (by norm_num [abs_le]))
    (show |(place : ℚ)| ≤ 3 by rwa [abs_of_nonneg least])
    (show |(0.015 : ℚ)| ≤ 1 by norm_num [abs_le]) (by norm_num) (by norm_num)
  have rest := f.sub_near (near_self 1) product
    (show |1 - (place : ℚ) * 0.015| ≤ 1 by rw [abs_le]; constructor <;> linarith) (by norm_num)
  exact near_mono rest (by norm_num)

theorem lane_factor_near (lane : Nat) (small : lane ≤ 2) :
    Near 17 (f.add 1 (f.mul lane (f.fl 0.01))) (1 + lane * 0.01) := by
  have most : (lane : ℚ) ≤ 2 := by exact_mod_cast small
  have least : (0 : ℚ) ≤ lane := Nat.cast_nonneg _
  have product := f.mul_near (near_self (lane : ℚ)) (f.near_literal 0.01 1 (by norm_num [abs_le]))
    (show |(lane : ℚ)| ≤ 2 by rwa [abs_of_nonneg least])
    (show |(0.01 : ℚ)| ≤ 1 by norm_num [abs_le]) (by norm_num) (by norm_num)
  have sum := f.add_near (near_self 1) product
    (show |1 + (lane : ℚ) * 0.01| ≤ 2 by rw [abs_le]; constructor <;> linarith) (by norm_num)
  exact near_mono sum (by norm_num)

/-- The score of a node, once it is known what its factor stands for. -/
theorem score_rounded (accepted : Accepted cfg) (level : i < cfg.recursionLevels.toNat)
    (gain score factor : UInt32) (y scale literal ratio : ℚ) (stood : y = f.fl (ratioOf score))
    (small : score.toNat ≤ 1000000) (gained : ratioOf gain = literal) (gains : gain.toNat ≤ 180000)
    (whole : (saFibWeightPpm cfg.recursionLevels i).toNat * gain.toNat < 2 ^ 32)
    (factored : (factor.toNat : ℚ) = ratio * 1000000) (near : 0 ≤ ratio ∧ ratio ≤ 51 / 50)
    (scaled : Near 17 scale ratio) :
    Tracks (9 / 4 + 1 / 2 + 2 * slack)
        (boosted gain score (saFibWeightPpm cfg.recursionLevels i) factor).toNat
        (f.round (clamp (f.mul (f.mul y (f.add 1 (f.mul
          (fibWeight f cfg.recursionLevels.toNat i) (f.fl literal)))) scale) 0 1) 6 * 1000000) ∧
      Share (f.round (clamp (f.mul (f.mul y (f.add 1 (f.mul
        (fibWeight f cfg.recursionLevels.toNat i) (f.fl literal)))) scale) 0 1) 6) := by
  have share := weight_between cfg.recursionLevels.toNat i level
  have tracked : Tracks 0 factor.toNat (ratio * 1000000) := by
    rw [← factored]
    exact tracks_self _
  have least : factor.toNat ≤ 1020000 := by
    have cast : (factor.toNat : ℚ) ≤ 1020000 := by linarith
    exact_mod_cast cast
  have one := boosted_tracks gain score (saFibWeightPpm cfg.recursionLevels i) factor _ _ small
    gains whole share (fib_weight_tracks cfg i accepted level) tracked near least
  have sized : |ratio| ≤ 2 := by
    rw [abs_of_nonneg near.1]
    linarith
  have floated := score_near f _ _ (fib_weight_near f cfg.recursionLevels.toNat i level) share
    (ratioOf score) y (ratioOf gain) scale ratio (stood ▸ ratio_near f score small)
    (ratio_share score small) (ratio_share gain (by omega)) scaled sized
  rw [gained] at floated one
  have between := clamp_between (f.mul (f.mul y (f.add 1 (f.mul
    (fibWeight f cfg.recursionLevels.toNat i) (f.fl literal)))) scale) 0 1 (by norm_num)
  refine ⟨tracks_mono (tracks_round f (tracks_near one floated (by norm_num))
    ⟨by linarith [between.1], by linarith [between.2]⟩) (by linarith), round_share f _ between⟩

include accepted stands level

theorem level_crosshatch_tracks (small : base.crosshatchPpm.toNat ≤ 1000000)
    (whole : (saFibWeightPpm cfg.recursionLevels i).toNat * 120000 < 2 ^ 32) :
    Tracks (19 / 5) (saLevel cfg base cfg.recursionLevels cfg.nodesPerLevel i).crosshatchPpm.toNat
        (avg f ((floatNodes f cfg curvature decision i).map (·.crosshatchScore)) * 1000000) ∧
      Around 200 (avg f ((floatNodes f cfg curvature decision i).map (·.crosshatchScore))) := by
  have node (n : Nat) (inside : n < cfg.nodesPerLevel.toNat) :=
    score_rounded f cfg i accepted level 120000 base.crosshatchPpm
      (ppm - UInt32.ofNat n % 4 * 15000)
      decision.crosshatchScore (f.sub 1 (f.mul (n % 4 : Nat) (f.fl 0.015))) 0.12
      (1 - (n % 4 : Nat) * 0.015) stands.crosshatch small cross_gain (by decide) whole (by
        have index := index_toNat n 22 (by have few := accepted.nodes_le; omega) (le_refl _)
        have under : n % 4 * 15000 ≤ 1000000 := by omega
        rw [slot_factor, index, Nat.cast_sub under]
        push_cast
        ring) (by
        have most : ((n % 4 : Nat) : ℚ) ≤ 3 := by exact_mod_cast (show n % 4 ≤ 3 by omega)
        have least : (0 : ℚ) ≤ (n % 4 : Nat) := Nat.cast_nonneg _
        constructor <;> linarith) (place_factor_near f (n % 4) (by omega))
  obtain ⟨each, around⟩ := level_average_tracks f cfg accepted curvature decision i _
    (·.crosshatchScore) _ (fun n inside => (node n inside).1) (fun n inside => (node n inside).2)
  refine ⟨?_, around⟩
  simp only [saLevel, levelSums_eq, saNode]
  refine tracks_mono each ?_
  norm_num [slack]

theorem level_coldness_tracks (small : base.coldnessPpm.toNat ≤ 1000000)
    (whole : (saFibWeightPpm cfg.recursionLevels i).toNat * 180000 < 2 ^ 32) :
    Tracks (19 / 5) (saLevel cfg base cfg.recursionLevels cfg.nodesPerLevel i).coldnessPpm.toNat
        (avg f ((floatNodes f cfg curvature decision i).map (·.coldnessScore)) * 1000000) ∧
      Around 200 (avg f ((floatNodes f cfg curvature decision i).map (·.coldnessScore))) := by
  have node (n : Nat) (inside : n < cfg.nodesPerLevel.toNat) :=
    score_rounded f cfg i accepted level 180000 base.coldnessPpm (ppm + UInt32.ofNat n % 3 * 10000)
      decision.coldnessScore (f.add 1 (f.mul (n % 3 : Nat) (f.fl 0.01))) 0.18
      (1 + (n % 3 : Nat) * 0.01) stands.coldness small cold_gain (by decide) whole (by
        have index := index_toNat n 22 (by have few := accepted.nodes_le; omega) (le_refl _)
        rw [lane_factor, index]
        push_cast
        ring) (by
        have most : ((n % 3 : Nat) : ℚ) ≤ 2 := by exact_mod_cast (show n % 3 ≤ 2 by omega)
        have least : (0 : ℚ) ≤ (n % 3 : Nat) := Nat.cast_nonneg _
        constructor <;> linarith) (lane_factor_near f (n % 3) (by omega))
  obtain ⟨each, around⟩ := level_average_tracks f cfg accepted curvature decision i _
    (·.coldnessScore) _ (fun n inside => (node n inside).1) (fun n inside => (node n inside).2)
  refine ⟨?_, around⟩
  simp only [saLevel, levelSums_eq, saNode]
  refine tracks_mono each ?_
  norm_num [slack]

end Scores

/-- The mips of two averages that are close. -/
theorem mips_track {error : ℚ} (retained : UInt32) (mean : ℚ) (small : retained.toNat ≤ 1000000)
    (sized : |mean| ≤ 2) (tracks : Tracks error retained.toNat (mean * 1000000)) :
    List.Forall₂ (fun mip exact =>
        Tracks (12 / 5 * error + 1 + 2 * slack) mip.toNat (exact * 1000000))
      (build9Mips retained) ((build9MipProfile f mean).map fun v => f.round v 6) := by
  have weights : mipWeights = weightsPpm.map ratioOf := by decide +kernel
  have heavy : ∀ weight ∈ weightsPpm, weight.toNat ≤ 2400000 := by
    simp only [weightsPpm, List.mem_cons, List.not_mem_nil, or_false, forall_eq_or_imp, forall_eq]
    decide
  rw [build9Mips_eq, build9MipProfile, weights]
  simp only [List.map_map, List.forall₂_map_left_iff, List.forall₂_map_right_iff,
    List.forall₂_same]
  intro weight member
  have most := heavy weight member
  have share : 0 ≤ ratioOf weight ∧ ratioOf weight ≤ 12 / 5 := by
    have cast : (weight.toNat : ℚ) ≤ 2400000 := by exact_mod_cast most
    rw [ratioOf]
    constructor
    · exact div_nonneg (Nat.cast_nonneg _) (by norm_num)
    · linarith
  have product := tracks_scaled 1000000 1000000 (by decide) (by decide) tracks
    (ratio_tracks weight) share small
  have fits := mulRound_le 1000000 retained.toNat weight.toNat 2400000 (by decide) (by
    have whole := Nat.mul_le_mul small most
    omega)
  have clamped := tracks_clamp 1000 1000000 (by decide) product
  have machine : (clampU32 (mulPpm retained weight) 1000 ppm).toNat =
      FixedPoint.clamp (mulRound 1000000 retained.toNat weight.toNat) 1000 1000000 := by
    rw [clampU32_toNat, mulPpm_toNat, Nat.mod_eq_of_lt (by omega)]
    rfl
  have exact_ : clamp (mean * ratioOf weight) 0.001 1 * 1000000 =
      max ((1000 : Nat) : ℚ) (min ((1000000 : Nat) : ℚ) (mean * 1000000 * ratioOf weight)) := by
    rw [clamp_scaled]
    norm_num
    ring_nf
  rw [← exact_, ← machine] at clamped
  have weighed : |ratioOf weight| ≤ 3 := by
    rw [abs_of_nonneg share.1]
    linarith [share.2]
  have times := f.mul_near (near_self mean) (f.near_literal _ 3 weighed) sized weighed (by norm_num)
    (by norm_num)
  have floated := near_max (f.near_literal 0.001 1 (by norm_num [abs_le]))
    (near_min (near_self 1) times (by norm_num)) (by norm_num)
  have between := clamp_between (f.mul mean (f.fl (ratioOf weight))) (f.fl 0.001) 1
    (f.fl_le_one _ (by norm_num))
  have none := f.fl_nonneg 0.001 (by norm_num)
  have room : -1 / 2 < clamp (f.mul mean (f.fl (ratioOf weight))) (f.fl 0.001) 1 * 1000000 ∧
      clamp (f.mul mean (f.fl (ratioOf weight))) (f.fl 0.001) 1 * 1000000 < 1000000 + 1 / 2 :=
    ⟨by linarith [between.1], by linarith [between.2]⟩
  exact tracks_mono (tracks_round f (tracks_near clamped floated (by norm_num)) room) (by linarith)

/-- What the recursion builds, level by level, with the weights of the module. -/
def floatLevel (cfg : SimplexAdalterCfg) (curvature : ℚ) (decision : XemColdDecision) (i : Nat) :
    LevelMeans × FibRecursiveLevel :=
  ((recursorOf cfg curvature).floats f).buildLevel f decision
    (Nat.fib (cfg.recursionLevels.toNat + 2) - 1) (i + 1) (Nat.fib (i + 1))

theorem recursed_built (cfg : SimplexAdalterCfg) (accepted : Accepted cfg) (curvature : ℚ)
    (decision : XemColdDecision) :
    ((recursorOf cfg curvature).floats f).built f decision =
      (List.range cfg.recursionLevels.toNat).map (floatLevel f cfg curvature decision) := by
  have total := fib_total_pos cfg.recursionLevels.toNat accepted.levels_pos
  have levels : ((recursorOf cfg curvature).floats f).recursionLevels =
      cfg.recursionLevels.toNat := rfl
  rw [XemFibRecursor.built, levels, fibSequence_sum, if_neg (by omega), fibSequence_eq]
  apply List.ext_getElem?
  intro i
  rw [List.getElem?_mapIdx, List.getElem?_map, List.getElem?_map, Option.map_map]
  by_cases inside : i < cfg.recursionLevels.toNat
  · rw [List.getElem?_range inside]
    rfl
  · rw [List.getElem?_eq_none (by rw [List.length_range]; omega)]
    rfl

/-- Rounding to eight digits moves a weight by little. -/
theorem tracks_round_weight {error x : ℚ} {reading : Nat}
    (tracks : Tracks error reading (x * 1000000)) (small : |x| ≤ 2) :
    Tracks (error + 1 / 200 + slack) reading (f.round x 8 * 1000000) := by
  have near := roundEven_bounds (x * 10 ^ 8)
  have sized := abs_le.mp small
  have grid : |x * 1000000 - (roundEven (x * 10 ^ 8) : ℚ) / 10 ^ 8 * 1000000| ≤ 1 / 200 := by
    rw [abs_le]
    norm_num at near ⊢
    constructor <;> linarith
  have bounded : |(roundEven (x * 10 ^ 8) : ℚ) / 10 ^ 8| ≤ 3 := by
    rw [abs_le]
    norm_num at near ⊢
    constructor <;> linarith
  exact tracks_near (tracks_moved _ tracks grid) (f.near_literal _ 3 bounded) (by norm_num)

section Whole

variable (cfg : SimplexAdalterCfg) (base : SimplexAdalterBase) (accepted : Accepted cfg)
  (neutral : Neutral cfg) (ratios : Ratios cfg) (curvature : ℚ) (decision : XemColdDecision)
  (stands : Stands f base decision) (above : cfg.minRetainedPpm.toNat ≤ base.retainedPpm.toNat)
  (below : base.retainedPpm.toNat ≤ cfg.maxRetainedPpm.toNat)
  (crossed : base.crosshatchPpm.toNat ≤ 1000000) (cooled : base.coldnessPpm.toNat ≤ 1000000)

include accepted neutral ratios stands above below crossed cooled in
theorem level_tracks (i : Nat) (level : i < cfg.recursionLevels.toNat) :
    LevelTracks (ratioOf base.retainedPpm) (weightOf cfg.recursionLevels.toNat i)
      (saLevel cfg base cfg.recursionLevels cfg.nodesPerLevel i)
      (floatLevel f cfg curvature decision i).2 := by
  obtain ⟨retained, kept⟩ := level_retained_tracks f cfg base accepted neutral ratios curvature
    decision stands above below i level
  obtain ⟨reduction, saved⟩ := level_reduction_tracks f cfg base accepted neutral ratios curvature
    decision stands above below i level
  have inRatio : (saLevel cfg base cfg.recursionLevels cfg.nodesPerLevel i).retainedPpm.toNat ≤
      1000000 := by
    simp only [saLevel, levelSums_eq, saNode]
    exact averageU32_le _ _ _ accepted.nodes_pos fun n =>
      (clampU32_between _ _ _ ratios.ordered).2.trans ratios.most
  have fewer := accepted.levels_le
  constructor
  case index =>
    change (UInt32.ofNat i + 1).toNat = i + 1
    have index := index_toNat i 22 (by omega) (le_refl _)
    have one : (1 : UInt32).toNat = 1 := rfl
    rw [UInt32.toNat_add, index, one]
    exact Nat.mod_eq_of_lt (by omega)
  case fib =>
    exact (saFib_spec cfg.recursionLevels accepted.levels_pos accepted.levels_le).1 i level
  case weight =>
    have share := weight_between cfg.recursionLevels.toNat i level
    have near := tracks_near (fib_weight_tracks cfg i accepted level)
      (fib_weight_near f cfg.recursionLevels.toNat i level) (by norm_num)
    have around : Around 3 (fibWeight f cfg.recursionLevels.toNat i) := by
      obtain ⟨below, above⟩ := abs_le.mp (fib_weight_near f cfg.recursionLevels.toNat i level)
      constructor <;> linarith [share.1, share.2]
    exact tracks_mono (tracks_round_weight f near (around_size around (by norm_num)))
      (by norm_num [slack])
  case retained =>
    refine tracks_mono (tracks_round f retained (around_parts kept (by norm_num))) ?_
    rw [slack]
    linarith
  case reduction =>
    refine tracks_mono (tracks_round f reduction (around_parts saved (by norm_num))) ?_
    rw [slack]
    linarith
  case crosshatch =>
    intro whole
    obtain ⟨tracks, around⟩ := level_crosshatch_tracks f cfg base accepted curvature decision stands
      i level crossed whole
    exact tracks_mono (tracks_round f tracks (around_parts around (by norm_num)))
      (by norm_num [slack])
  case coldness =>
    intro whole
    obtain ⟨tracks, around⟩ := level_coldness_tracks f cfg base accepted curvature decision stands i
      level cooled whole
    exact tracks_mono (tracks_round f tracks (around_parts around (by norm_num)))
      (by norm_num [slack])
  case mips =>
    refine (mips_track f _ _ inRatio (around_size kept (by norm_num)) retained).imp ?_
    intro mip exact tracks
    refine tracks_mono tracks ?_
    rw [slack]
    linarith

/-- The weights of all levels are the whole. -/
theorem weights_whole (levels : Nat) (positive : 0 < levels) :
    ∑ i ∈ Finset.range levels, weightOf levels i = 1 := by
  have total := fib_total_pos levels positive
  have cast : ((Nat.fib (levels + 2) - 1 : Nat) : ℚ) ≠ 0 := (Nat.cast_pos.mpr total).ne'
  have sum : ∑ i ∈ Finset.range levels, Nat.fib (i + 1) = Nat.fib (levels + 2) - 1 := by
    rw [← fibSequence_sum, fibSequence_eq]
    rfl
  simp only [weightOf]
  rw [← Finset.sum_div, ← Nat.cast_sum, sum, div_self cast]

theorem errors_average (levels : Nat) (positive : 0 < levels) (share : ℚ) :
    (∑ i ∈ Finset.range levels, (nodeError share (weightOf levels i) + 8 / 5)) / levels + 1 =
      nodeError share (1 / levels) + 13 / 5 := by
  have count : (levels : ℚ) ≠ 0 := (Nat.cast_pos.mpr positive).ne'
  have whole := weights_whole levels positive
  have each (i : Nat) : nodeError share (weightOf levels i) + 8 / 5 =
      31 / 10 + share * (9 / 2) + share * 1440 * weightOf levels i := by
    rw [nodeError]
    ring
  simp only [each]
  rw [Finset.sum_add_distrib, ← Finset.mul_sum, whole, Finset.sum_const, Finset.card_range,
    nsmul_eq_mul, nodeError]
  field_simp
  ring

include accepted in
/-- The average over the levels follows them. -/
theorem average_level_tracks (reading : Nat → UInt32) (mean : Nat → ℚ)
    (tracks : ∀ i, i < cfg.recursionLevels.toNat →
      Tracks (nodeError (ratioOf base.retainedPpm) (weightOf cfg.recursionLevels.toNat i) + 8 / 5)
        (reading i).toNat (mean i * 1000000) ∧ Around 200 (mean i)) :
    Tracks (nodeError (ratioOf base.retainedPpm) (1 / cfg.recursionLevels.toNat) + 13 / 4)
      (averageU32 (sumU64 cfg.recursionLevels.toNat reading) cfg.recursionLevels).toNat
      (f.round (avg f ((List.range cfg.recursionLevels.toNat).map mean)) 6 * 1000000) := by
  have positive := accepted.levels_pos
  have few := accepted.levels_le
  have each := tracks_average cfg.recursionLevels.toNat positive _ _ _ fun i level =>
    (tracks i level).1
  rw [errors_average cfg.recursionLevels.toNat positive, ← Finset.sum_mul, ← div_mul_eq_mul_div,
    ← averageU32_toNat cfg.recursionLevels _ positive] at each
  have near := avg_range f cfg.recursionLevels.toNat mean 2 positive (by omega)
    (fun i level => around_size (tracks i level).2 (by norm_num)) (le_refl _)
  have around := avg_around f cfg.recursionLevels.toNat mean 200 positive (by omega) (by norm_num)
    fun i level => (tracks i level).2
  refine tracks_mono (tracks_round f (tracks_near each near (by norm_num))
    (around_parts around (by norm_num))) ?_
  rw [slack]
  linarith

include accepted neutral ratios stands above below in
theorem averages_track (report : SimplexAdalterReport)
    (averages : report.averageRetainedPpm =
        averageU32 (sumU64 cfg.recursionLevels.toNat fun i =>
          (saLevel cfg base cfg.recursionLevels cfg.nodesPerLevel i).retainedPpm)
          cfg.recursionLevels ∧
      report.averageReductionPpm =
        averageU32 (sumU64 cfg.recursionLevels.toNat fun i =>
          (saLevel cfg base cfg.recursionLevels cfg.nodesPerLevel i).reductionPpm)
          cfg.recursionLevels) :
    Tracks (nodeError (ratioOf base.retainedPpm) (1 / cfg.recursionLevels.toNat) + 13 / 4)
        report.averageRetainedPpm.toNat
        (f.round (avg f ((List.range cfg.recursionLevels.toNat).map fun i =>
          (floatLevel f cfg curvature decision i).1.retained)) 6 * 1000000) ∧
      Tracks (nodeError (ratioOf base.retainedPpm) (1 / cfg.recursionLevels.toNat) + 13 / 4)
        report.averageReductionPpm.toNat
        (f.round (avg f ((List.range cfg.recursionLevels.toNat).map fun i =>
          (floatLevel f cfg curvature decision i).1.reduction)) 6 * 1000000) := by
  rw [averages.1, averages.2]
  exact ⟨average_level_tracks f cfg base accepted _ _ fun i level =>
      level_retained_tracks f cfg base accepted neutral ratios curvature decision stands above below
        i level,
    average_level_tracks f cfg base accepted _ _ fun i level =>
      level_reduction_tracks f cfg base accepted neutral ratios curvature decision stands above
        below i level⟩

end Whole

section Page

theorem ratio_decimal (v : UInt32) : f.fl (ratioOf v) = f.decimal v.toNat 6 := by
  rw [Floats.decimal, ratioOf]
  norm_num

theorem ratio_read (v : UInt32) : Near 5000 (f.fl (ratioOf v)) (ratioOf v) := by
  have most : (v.toNat : ℚ) ≤ 4294967296 := by exact_mod_cast v.toNat_lt.le
  have least : (0 : ℚ) ≤ v.toNat := Nat.cast_nonneg _
  refine near_mono (f.near_literal (ratioOf v) 4295 ?_) (by norm_num)
  rw [ratioOf, abs_of_nonneg (div_nonneg least (by norm_num)), div_le_iff₀ (by norm_num)]
  linarith

theorem round_ratio (v : UInt32) : f.round (f.fl (ratioOf v)) 6 = f.fl (ratioOf v) := by
  have near := abs_le.mp (ratio_read f v)
  rw [f.round_of_near _ v.toNat 6 (by
    rw [abs_lt]
    rw [ratioOf] at near ⊢
    norm_num at near ⊢
    constructor <;> linarith), ratio_decimal]

/-- Two ratios in parts per million are never the same float. -/
theorem ratio_le (v w : UInt32) (le : f.fl (ratioOf v) ≤ f.fl (ratioOf w)) :
    v.toNat ≤ w.toNat := by
  have first := abs_le.mp (ratio_read f v)
  have second := abs_le.mp (ratio_read f w)
  rw [ratioOf] at first second
  rw [ratioOf, ratioOf] at le
  have cast : (v.toNat : ℚ) < (w.toNat + 1 : Nat) := by
    push_cast
    norm_num at first second
    linarith
  have whole : v.toNat < w.toNat + 1 := by exact_mod_cast cast
  omega

theorem ratio_le_one (v : UInt32) (share : f.fl (ratioOf v) ≤ 1) : v.toNat ≤ 1000000 := by
  have one : ratioOf 1000000 = 1 := by
    have million : (1000000 : UInt32).toNat = 1000000 := rfl
    rw [ratioOf, million]
    norm_num
  refine ratio_le f v 1000000 ?_
  rw [one, f.fl_one]
  exact share

/-- The scores of a page are shares, whatever the engine says of it. -/
theorem classify_scores (policy : XemZramColdMet) (key : String) (report : EngineReport)
    (page : XemColdDecision) (classified : policy.classify f key report = some page) :
    page.crosshatchScore ≤ 1 ∧ page.coldnessScore ≤ 1 := by
  have capped (x : ℚ) : f.round (clamp x 0 1) 6 ≤ 1 :=
    (f.round_mono _ _ 6 (clamp_between x 0 1 (by norm_num)).2).trans_eq (round_one f)
  unfold XemZramColdMet.classify at classified
  cases found : theItem f report with
  | none =>
      rw [found] at classified
      cases classified
  | some item =>
      simp only [found, Option.bind_eq_bind, Option.bind_some] at classified
      split at classified
      · cases classified
      · obtain rfl := Option.some.inj classified
        exact ⟨capped _, capped _⟩

/-- What a decision brings with it once it is the base of the module. -/
theorem page_stands (cfg : SimplexAdalterCfg) (base : SimplexAdalterBase) (ratios : Ratios cfg)
    (curvature : ℚ) (key : String) (engine : EngineReport) (page : XemColdDecision)
    (classified : ((recursorOf cfg curvature).floats f).policy.classify f key engine = some page)
    (stands : Stands f base page) :
    cfg.minRetainedPpm.toNat ≤ base.retainedPpm.toNat ∧
      base.retainedPpm.toNat ≤ cfg.maxRetainedPpm.toNat ∧
      base.crosshatchPpm.toNat ≤ 1000000 ∧ base.coldnessPpm.toNat ≤ 1000000 := by
  obtain ⟨coldness, decided⟩ := classify_decided f _ key engine page classified
  obtain ⟨crossed, cooled⟩ := classify_scores f _ key engine page classified
  obtain ⟨least, most⟩ := retained_between f ((recursorOf cfg curvature).floats f).policy
    (floats_ordered f cfg ratios curvature) coldness
  have low := f.round_mono _ _ 6 least
  have high := f.round_mono _ _ 6 most
  rw [← decided.retained, stands.retained] at low high
  have lower : f.round ((recursorOf cfg curvature).floats f).policy.minRetainedRatio 6 =
      f.fl (ratioOf cfg.minRetainedPpm) := round_ratio f _
  have upper : f.round ((recursorOf cfg curvature).floats f).policy.maxRetainedRatio 6 =
      f.fl (ratioOf cfg.maxRetainedPpm) := round_ratio f _
  rw [lower] at low
  rw [upper] at high
  rw [stands.crosshatch] at crossed
  rw [stands.coldness] at cooled
  exact ⟨ratio_le f _ _ low, ratio_le f _ _ high, ratio_le_one f _ crossed, ratio_le_one f _ cooled⟩

end Page

theorem report_averages (st : SimplexAdalterState) (cfg : SimplexAdalterCfg)
    (base : SimplexAdalterBase) (report : SimplexAdalterReport)
    (produced : reportAfter st cfg base = .ok report) :
    report.averageRetainedPpm =
        averageU32 (sumU64 cfg.recursionLevels.toNat fun i =>
          (saLevel cfg (simplexIoctlRunBase st base).base cfg.recursionLevels cfg.nodesPerLevel
            i).retainedPpm) cfg.recursionLevels ∧
      report.averageReductionPpm =
        averageU32 (sumU64 cfg.recursionLevels.toNat fun i =>
          (saLevel cfg (simplexIoctlRunBase st base).base cfg.recursionLevels cfg.nodesPerLevel
            i).reductionPpm) cfg.recursionLevels := by
  unfold reportAfter at produced
  cases set : simplexIoctlSetCfg st cfg with
  | error e =>
      rw [set] at produced
      contradiction
  | ok configured =>
      obtain ⟨accepted, rfl⟩ := (set_cfg_accepted st configured cfg).mp set
      rw [set] at produced
      have counts := accepted_counts cfg accepted
      rw [← Except.ok.inj produced]
      simp only [saRecomputeLocked, simplexIoctlRunBase, counts.1, counts.2, simplex_sums,
        and_self]

/-- The report of the module beside that of the recursion, in parts per million. How far
they may be apart grows with what is retained of the page and with the weight of the
level, which the module leaves out of the phase. Averages of the scores are not
compared: the products of one level at least do not keep their bits. -/
structure ReportTracks (cfg : SimplexAdalterCfg) (base : SimplexAdalterBase)
    (report : SimplexAdalterReport) (exact : RecursionReport) : Prop where
  count : report.levels.length = exact.levels.length
  levels : ∀ (i : Nat) (level : SimplexAdalterLevel) (recursed : FibRecursiveLevel),
    report.levels[i]? = some level → exact.levels[i]? = some recursed →
      LevelTracks (ratioOf base.retainedPpm) (weightOf cfg.recursionLevels.toNat i) level recursed
  retained : Tracks (nodeError (ratioOf base.retainedPpm) (1 / cfg.recursionLevels.toNat) + 13 / 4)
    report.averageRetainedPpm.toNat (exact.summary.averageRetainedRatio * 1000000)
  reduction : Tracks (nodeError (ratioOf base.retainedPpm) (1 / cfg.recursionLevels.toNat) + 13 / 4)
    report.averageReductionPpm.toNat (exact.summary.averageReductionRatio * 1000000)
  cut : ∃ level ∈ report.levels, 2 ^ 32 ≤ level.fibWeightPpm.toNat * 120000

/-- What user space computes of a page is what the module reports of it: given the same
numbers, and with what only the module has switched off, every level and the averages
over the levels agree within these bounds. -/
theorem kernel_tracks_recursion (st : SimplexAdalterState) (cfg : SimplexAdalterCfg)
    (base : SimplexAdalterBase) (report : SimplexAdalterReport)
    (produced : reportAfter st cfg base = .ok report) (neutral : Neutral cfg)
    (ratios : Ratios cfg) (curvature : ℚ) (key : String) (engine : EngineReport)
    (exact : RecursionReport)
    (recursed : ((recursorOf cfg curvature).floats f).recurse f key engine = some exact)
    (stands : Stands f base exact.base) : ReportTracks cfg base report exact := by
  obtain ⟨page, classified, made⟩ := Option.bind_eq_some_iff.mp recursed
  obtain rfl := Option.some.inj made
  obtain ⟨accepted, levels⟩ := report_levels st cfg base report produced
  have averages := report_averages st cfg base report produced
  have built := recursed_built f cfg accepted curvature page
  obtain ⟨above, below, crossed, cooled⟩ := page_stands f cfg base ratios curvature key engine
    page classified stands
  -- `RUN_BASE` cuts the key and keeps the numbers.
  have kept : Stands f (simplexIoctlRunBase st base).base page :=
    ⟨stands.retained, stands.crosshatch, stands.coldness⟩
  have averaged := averages_track f cfg (simplexIoctlRunBase st base).base accepted neutral ratios
    curvature page kept above below report averages
  have recursedLevels : (((recursorOf cfg curvature).floats f).recurseFrom f key page).levels =
      (List.range cfg.recursionLevels.toNat).map fun i =>
        (floatLevel f cfg curvature page i).2 := by
    simp only [XemFibRecursor.recurseFrom, built, List.map_map]
    rfl
  constructor
  case count => rw [levels, recursedLevels, List.length_map, List.length_map]
  case levels =>
    intro i level recursed here there
    rw [levels, List.getElem?_map] at here
    rw [recursedLevels, List.getElem?_map] at there
    obtain ⟨index, found, rfl⟩ := Option.map_eq_some_iff.mp here
    rw [found] at there
    obtain rfl := Option.some.inj there
    obtain ⟨inside, rfl⟩ := List.getElem?_eq_some_iff.mp found
    rw [List.length_range] at inside
    rw [List.getElem_range]
    exact level_tracks f cfg (simplexIoctlRunBase st base).base accepted neutral ratios curvature
      page kept above below crossed cooled i inside
  case retained =>
    simp only [XemFibRecursor.recurseFrom, built, List.map_map]
    exact averaged.1
  case reduction =>
    simp only [XemFibRecursor.recurseFrom, built, List.map_map]
    exact averaged.2
  case cut =>
    -- The weight of the deepest level is at least a third.
    have positive := accepted.levels_pos
    have inside : cfg.recursionLevels.toNat - 1 < cfg.recursionLevels.toNat := by omega
    have heavy := deepest_weight cfg.recursionLevels.toNat positive
    rw [← saFibWeightPpm_toNat cfg.recursionLevels positive accepted.levels_le _ inside] at heavy
    rw [levels]
    refine ⟨_, List.mem_map.mpr ⟨_, List.mem_range.mpr inside, rfl⟩, ?_⟩
    change 2 ^ 32 ≤ (saFibWeightPpm cfg.recursionLevels (cfg.recursionLevels.toNat - 1)).toNat *
      120000
    omega

/-- The defaults of the module with its own multipliers at one. -/
def neutralCfg : SimplexAdalterCfg :=
  { simplexInitCfg with
    armQ16 := 65536, uScalarQ16 := 65536, adderQ16 := 0, modifierQ16 := 65536, flags := 0 }

/-- The page `warm` of the two as the base of the module. -/
def warmBase : SimplexAdalterBase :=
  { simplexInitBase with
    retainedPpm := 54867, crosshatchPpm := 460000, coldnessPpm := 593200 }

theorem warm_page_tracks : ∃ report exact,
    reportAfter simplexInit neutralCfg warmBase = .ok report ∧
      ((recursorOf neutralCfg 0).floats binary64).recurse binary64 "warm" (twoPages "warm") =
        some exact ∧ ReportTracks neutralCfg warmBase report exact := by
  have decided : (((recursorOf neutralCfg 0).floats binary64).policy.classify binary64 "warm"
      (twoPages "warm")).map
        (fun page => (page.retainedRatio, page.crosshatchScore, page.coldnessScore)) =
      some (nearest (ratioOf 54867), nearest (ratioOf 460000), nearest (ratioOf 593200)) := by
    decide +kernel
  obtain ⟨page, classified, numbers⟩ := Option.map_eq_some_iff.mp decided
  obtain ⟨retained, scores⟩ := Prod.mk.inj numbers
  obtain ⟨crosshatch, coldness⟩ := Prod.mk.inj scores
  have recursed : ((recursorOf neutralCfg 0).floats binary64).recurse binary64 "warm"
      (twoPages "warm") =
        some (((recursorOf neutralCfg 0).floats binary64).recurseFrom binary64 "warm" page) := by
    rw [XemFibRecursor.recurse, classified]
    rfl
  exact ⟨_, _, rfl, recursed, kernel_tracks_recursion binary64 simplexInit neutralCfg warmBase _ rfl
    ⟨rfl, rfl, rfl, rfl, rfl⟩ ⟨by decide, by decide, by decide, by decide, by decide⟩ 0 "warm"
    (twoPages "warm") _ recursed ⟨retained, crosshatch, coldness⟩⟩

end RyzenBuild.Xem
