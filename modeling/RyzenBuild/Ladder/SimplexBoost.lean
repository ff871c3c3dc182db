import RyzenBuild.Ladder.SimplexReport

/-!
The Fibonacci boost of crosshatch and coldness. The weight of a level is
multiplied by 120000 and by 180000 in 32 bits; the weight of the deepest level
is at least a third of a million for every admitted level count, so there both
products lose their upper bits.
-/
namespace RyzenBuild.Ladder

open Kernel FixedPoint

theorem fib_small (n : Nat) (few : n ≤ 24) : Nat.fib n ≤ 46368 := by
  have bound := Nat.fib_mono few
  have value : Nat.fib 24 = 46368 := by decide
  omega

/-- The fill loop computes the Fibonacci numbers and their sum without wrap. -/
theorem fibFrom_spec (n : Nat) (few : n ≤ 20) :
    (∀ i, i ≤ n + 1 → ((fibFrom n).1 i).toNat = Nat.fib (i + 1)) ∧
      (fibFrom n).2.toNat + 1 = Nat.fib (n + 4) := by
  induction n with
  | zero =>
      refine ⟨?_, by decide⟩
      intro i inside
      rcases (show i = 0 ∨ i = 1 by omega) with rfl | rfl <;> decide
  | succ n ih =>
      obtain ⟨cells, total⟩ := ih (by omega)
      have last : ((fibFrom n).1 (n + 1)).toNat = Nat.fib (n + 2) := cells (n + 1) (by omega)
      have prior : ((fibFrom n).1 n).toNat = Nat.fib (n + 1) := cells n (by omega)
      have sum : Nat.fib (n + 3) = Nat.fib (n + 1) + Nat.fib (n + 2) := Nat.fib_add_two
      have next : ((fibFrom n).1 (n + 1) + (fibFrom n).1 n).toNat = Nat.fib (n + 3) := by
        have bound := fib_small (n + 3) (by omega)
        rw [UInt32.toNat_add, last, prior, Nat.mod_eq_of_lt (by omega)]
        omega
      -- The value stored last is the only cell the step changes.
      constructor
      · intro i inside
        by_cases fresh : i = n + 2
        · subst fresh
          simpa [fibFrom] using next
        · simpa [fibFrom, fresh] using cells i (by omega)
      · have bound := fib_small (n + 3) (by omega)
        have whole := fib_small (n + 4) (by omega)
        have deeper : Nat.fib (n + 5) = Nat.fib (n + 3) + Nat.fib (n + 4) := Nat.fib_add_two
        simp only [fibFrom, Nat.add_sub_cancel, show n + 2 - 1 = n + 1 by omega,
          UInt64.toNat_add, UInt32.toNat_toUInt64, next]
        rw [Nat.mod_eq_of_lt (by omega)]
        change (fibFrom n).2.toNat + Nat.fib (n + 3) + 1 = Nat.fib (n + 5)
        omega

theorem saFib_spec (levels : UInt32) (positive : 0 < levels.toNat) (few : levels.toNat ≤ 22) :
    (∀ i, i < levels.toNat → ((saFib levels).1 i).toNat = Nat.fib (i + 1)) ∧
      (saFib levels).2.toNat + 1 = Nat.fib (levels.toNat + 2) := by
  have some : levels ≠ 0 := fun none => by simp [none] at positive
  by_cases single : levels = 1
  · subst single
    refine ⟨?_, by decide⟩
    intro i inside
    have first : i = 0 := by simpa using inside
    subst first
    decide
  · have many : 2 ≤ levels.toNat := by
      have other : levels.toNat ≠ 1 := fun one => single (UInt32.toNat_inj.mp one)
      omega
    obtain ⟨cells, total⟩ := fibFrom_spec (levels.toNat - 2) (by omega)
    rw [show levels.toNat - 2 + 4 = levels.toNat + 2 by omega] at total
    have filled : (fibFrom (levels.toNat - 2)).2 ≠ 0 := by
      intro none
      have grown := Nat.fib_mono (show 3 ≤ levels.toNat + 2 by omega)
      have three : Nat.fib 3 = 2 := by decide
      rw [none] at total
      simp at total
      omega
    simp only [saFib, saFillFib, some, single, if_false, filled]
    exact ⟨fun i inside => cells i (by omega), total⟩

/-- The weight of level `i` in unbounded integers. -/
def exactWeight (levels i : Nat) : Nat := Nat.fib (i + 1) * 1000000 / (Nat.fib (levels + 2) - 1)

theorem exactWeight_le (levels i : Nat) (inside : i < levels) : exactWeight levels i ≤ 1000000 := by
  have below := Nat.fib_mono (show i + 1 ≤ levels by omega)
  have split : Nat.fib (levels + 2) = Nat.fib levels + Nat.fib (levels + 1) := Nat.fib_add_two
  have one := Nat.fib_pos.mpr (show 0 < levels + 1 by omega)
  unfold exactWeight
  apply Nat.div_le_of_le_mul
  exact Nat.mul_le_mul_right _ (by omega)

theorem saFibWeightPpm_toNat (levels : UInt32) (positive : 0 < levels.toNat)
    (few : levels.toNat ≤ 22) (i : Nat) (inside : i < levels.toNat) :
    (saFibWeightPpm levels i).toNat = exactWeight levels.toNat i := by
  obtain ⟨cells, total⟩ := saFib_spec levels positive few
  have value := cells i inside
  have bound := fib_small (i + 1) (by omega)
  have whole : ppm.toUInt64.toNat = 1000000 := by decide
  have sum : (saFib levels).2.toNat = Nat.fib (levels.toNat + 2) - 1 := by omega
  have quotient := exactWeight_le levels.toNat i inside
  unfold saFibWeightPpm
  rw [UInt64.toNat_toUInt32, UInt64.toNat_div, UInt64.toNat_mul, UInt32.toNat_toUInt64,
    whole, value, sum, Nat.mod_eq_of_lt (a := Nat.fib (i + 1) * 1000000) (by omega)]
  -- The dividend may exceed 32 bits; the total brings the quotient back.
  exact Nat.mod_eq_of_lt (Nat.lt_of_le_of_lt quotient (by decide))

/-- The weight of the deepest level is at least a third. -/
theorem deepest_weight (levels : Nat) (positive : 0 < levels) :
    333333 ≤ exactWeight levels (levels - 1) := by
  have third := fib_third levels positive
  have two := Nat.fib_mono (show 3 ≤ levels + 2 by omega)
  have three : Nat.fib 3 = 2 := by decide
  unfold exactWeight
  rw [show levels - 1 + 1 = levels by omega, Nat.le_div_iff_mul_le (by omega)]
  omega

/-- A boost factor in unbounded integers. -/
def exactBoost (gain weight : Nat) : Nat := 1000000 + weight * gain / 1000000

def exactCross (crosshatch weight n : Nat) : Nat :=
  clamp (mulRound 1000000 (mulRound 1000000 crosshatch (exactBoost 120000 weight))
    (1000000 - n % 4 * 15000)) 0 1000000

def exactCold (coldness weight n : Nat) : Nat :=
  clamp (mulRound 1000000 (mulRound 1000000 coldness (exactBoost 180000 weight))
    (1000000 + n % 3 * 10000)) 0 1000000

/-- Every level reports the crosshatch and coldness of the same formulas
evaluated in unbounded integers. -/
def BoostExact (cfg : SimplexAdalterCfg) (base : SimplexAdalterBase)
    (report : SimplexAdalterReport) : Prop :=
  ∀ i, (inside : i < report.levels.length) →
    report.levels[i].crosshatchPpm.toNat =
        average cfg.nodesPerLevel.toNat
          (exactCross base.crosshatchPpm.toNat (exactWeight cfg.recursionLevels.toNat i)) ∧
      report.levels[i].coldnessPpm.toNat =
        average cfg.nodesPerLevel.toNat
          (exactCold base.coldnessPpm.toNat (exactWeight cfg.recursionLevels.toNat i))

/-- The two 32-bit products of every level are the products of the integers. -/
def BoostNoWrap (cfg : SimplexAdalterCfg) : Prop :=
  ∀ i, i < cfg.recursionLevels.toNat →
    (saFibWeightPpm cfg.recursionLevels i * 120000).toNat =
        (saFibWeightPpm cfg.recursionLevels i).toNat * 120000 ∧
      (saFibWeightPpm cfg.recursionLevels i * 180000).toNat =
        (saFibWeightPpm cfg.recursionLevels i).toNat * 180000

/-- Once the product with 120000 wraps, the boost factor of the code is at
least 2^32 / 10^6 below the factor of the formula. -/
theorem wrapped_boost (weight : UInt32) (heavy : 35792 ≤ weight.toNat) :
    1000000 ≤ (ppm + weight * 120000 / ppm).toNat ∧
      (ppm + weight * 120000 / ppm).toNat + 4294 ≤ exactBoost 120000 weight.toNat := by
  have whole : ppm.toNat = 1000000 := by decide
  have gain : (120000 : UInt32).toNat = 120000 := by decide
  have lost : weight.toNat * 120000 % 2 ^ 32 / 1000000 ≤ 4294 := by omega
  rw [UInt32.toNat_add, UInt32.toNat_div, UInt32.toNat_mul, whole, gain, exactBoost,
    Nat.mod_eq_of_lt (a := 1000000 + weight.toNat * 120000 % 2 ^ 32 / 1000000) (by omega)]
  constructor
  · omega
  · omega

theorem index_toNat (k limit : Nat) (inside : k < limit) (small : limit ≤ 22) :
    (UInt32.ofNat k).toNat = k := by
  rw [UInt32.toNat_ofNat']
  omega

/-- A gap of 4294 between boost factors leaves two units of a ratio. -/
theorem boosts_apart (ratio boost exact : Nat) (lower : 466 ≤ ratio)
    (gap : boost + 4294 ≤ exact) :
    mulRound 1000000 ratio boost + 2 ≤ mulRound 1000000 ratio exact := by
  have moved := Nat.mul_le_mul_left ratio gap
  have shift := Nat.mul_le_mul_right 4294 lower
  rw [Nat.mul_add] at moved
  unfold mulRound
  omega

/-- Two roundings cannot close a gap of 4294 between boost factors for a
middling ratio: the first leaves at least two units, the second one. -/
theorem boosted_gap (ratio boost exact slot : Nat) (lower : 466 ≤ ratio) (upper : ratio ≤ 892857)
    (gap : boost + 4294 ≤ exact) (most : exact ≤ 1120000)
    (slotLeast : 955000 ≤ slot) (slotMost : slot ≤ 1000000) :
    mulRound 1000000 ratio boost ≤ 1000000 ∧
      mulRound 1000000 (mulRound 1000000 ratio boost) slot <
        mulRound 1000000 (mulRound 1000000 ratio exact) slot ∧
      mulRound 1000000 (mulRound 1000000 ratio exact) slot ≤ 1000000 := by
  have apart := boosts_apart ratio boost exact lower gap
  have whole : mulRound 1000000 ratio exact ≤ 1000000 := by
    have bound := Nat.mul_le_mul upper most
    unfold mulRound
    omega
  generalize mulRound 1000000 ratio exact = high at apart whole ⊢
  generalize mulRound 1000000 ratio boost = low at apart ⊢
  refine ⟨by omega, ?_, mulRound_le _ _ _ _ (by decide) (Nat.mul_le_mul whole slotMost)⟩
  have moved := Nat.mul_le_mul_right slot apart
  rw [Nat.add_mul] at moved
  unfold mulRound
  omega

theorem slot_factor (n : UInt32) :
    (ppm - n % 4 * 15000).toNat = 1000000 - n.toNat % 4 * 15000 := by
  have four : (4 : UInt32).toNat = 4 := by decide
  have unit : (15000 : UInt32).toNat = 15000 := by decide
  have product : (n % 4 * 15000).toNat = n.toNat % 4 * 15000 := by
    rw [UInt32.toNat_mul, UInt32.toNat_mod, four, unit]
    exact Nat.mod_eq_of_lt (by omega)
  rw [ppm_sub_toNat _ (by omega), product]

/-- For a middling crosshatch neither rounding nor the final clamp hides the
lost bits: every node of the level falls short of the formula. -/
theorem wrapped_cross (base : SimplexAdalterBase) (weight n : UInt32)
    (heavy : 35792 ≤ weight.toNat) (ratio : weight.toNat ≤ 1000000)
    (lower : 466 ≤ base.crosshatchPpm.toNat) (upper : base.crosshatchPpm.toNat ≤ 892857) :
    (saNodeCross base weight n).toNat <
      exactCross base.crosshatchPpm.toNat weight.toNat n.toNat := by
  obtain ⟨least, gap⟩ := wrapped_boost weight heavy
  have most : exactBoost 120000 weight.toNat ≤ 1120000 := by
    unfold exactBoost
    omega
  obtain ⟨first, still, ceiling⟩ := boosted_gap base.crosshatchPpm.toNat _ _
    (1000000 - n.toNat % 4 * 15000) lower upper gap most (by omega) (by omega)
  have zero : (0 : UInt32).toNat = 0 := rfl
  have whole : ppm.toNat = 1000000 := by decide
  simp only [saNodeCross, exactCross, saMulPpm, saClampU32, clampU32_toNat, mulPpm_toNat,
    slot_factor, zero, whole]
  rw [Nat.mod_eq_of_lt (a := mulRound 1000000 base.crosshatchPpm.toNat _) (by omega),
    Nat.mod_eq_of_lt (by omega)]
  unfold clamp
  rw [if_neg (Nat.not_lt_zero _), if_neg (Nat.not_lt_zero _), if_neg (by omega), if_neg (by omega)]
  exact still

theorem lane_factor (n : UInt32) :
    (ppm + n % 3 * 10000).toNat = 1000000 + n.toNat % 3 * 10000 := by
  have three : (3 : UInt32).toNat = 3 := by decide
  have unit : (10000 : UInt32).toNat = 10000 := by decide
  have whole : ppm.toNat = 1000000 := by decide
  have product : (n % 3 * 10000).toNat = n.toNat % 3 * 10000 := by
    rw [UInt32.toNat_mul, UInt32.toNat_mod, three, unit]
    exact Nat.mod_eq_of_lt (by omega)
  rw [UInt32.toNat_add, whole, product]
  exact Nat.mod_eq_of_lt (by omega)

/-- The lanes only add, so a coldness up to 970000 stays below the whole with the
factor of the code, wherever the formula takes it. -/
theorem warmed_gap (ratio boost exact lane : Nat) (lower : 466 ≤ ratio) (upper : ratio ≤ 970000)
    (low : boost ≤ 1004294) (gap : boost + 4294 ≤ exact) (laneLeast : 1000000 ≤ lane)
    (laneMost : lane ≤ 1020000) :
    mulRound 1000000 ratio boost ≤ 1000000 ∧
      mulRound 1000000 (mulRound 1000000 ratio boost) lane <
        min 1000000 (mulRound 1000000 (mulRound 1000000 ratio exact) lane) := by
  have apart := boosts_apart ratio boost exact lower gap
  have small : mulRound 1000000 ratio boost ≤ 974165 := by
    have bound := Nat.mul_le_mul upper low
    unfold mulRound
    omega
  generalize mulRound 1000000 ratio exact = high at apart ⊢
  generalize mulRound 1000000 ratio boost = less at apart small ⊢
  have bound := Nat.mul_le_mul small laneMost
  have moved := Nat.mul_le_mul_right lane apart
  rw [Nat.add_mul] at moved
  refine ⟨by omega, lt_min ?_ ?_⟩
  · unfold mulRound
    omega
  · unfold mulRound
    omega

theorem wrapped_cold (base : SimplexAdalterBase) (weight n : UInt32)
    (heavy : 333333 ≤ weight.toNat) (ratio : weight.toNat ≤ 1000000)
    (lower : 466 ≤ base.coldnessPpm.toNat) (upper : base.coldnessPpm.toNat ≤ 970000) :
    (saNodeCold base weight n).toNat <
      exactCold base.coldnessPpm.toNat weight.toNat n.toNat := by
  have gain : (180000 : UInt32).toNat = 180000 := rfl
  have zero : (0 : UInt32).toNat = 0 := rfl
  have whole : ppm.toNat = 1000000 := by decide
  have lost : weight.toNat * 180000 % 2 ^ 32 / 1000000 ≤ 4294 := by omega
  have boost : (ppm + weight * 180000 / ppm).toNat =
      1000000 + weight.toNat * 180000 % 2 ^ 32 / 1000000 := by
    rw [UInt32.toNat_add, UInt32.toNat_div, UInt32.toNat_mul, whole, gain]
    exact Nat.mod_eq_of_lt (by omega)
  obtain ⟨first, still⟩ := warmed_gap base.coldnessPpm.toNat
    (1000000 + weight.toNat * 180000 % 2 ^ 32 / 1000000) (exactBoost 180000 weight.toNat)
    (1000000 + n.toNat % 3 * 10000) lower upper (by omega) (by unfold exactBoost; omega) (by omega)
    (by omega)
  obtain ⟨inside, short⟩ := lt_min_iff.mp still
  simp only [saNodeCold, exactCold, saMulPpm, saClampU32, clampU32_toNat, mulPpm_toNat,
    lane_factor, boost, zero, whole]
  rw [Nat.mod_eq_of_lt (a := mulRound 1000000 base.coldnessPpm.toNat _) (by omega),
    Nat.mod_eq_of_lt (by omega)]
  unfold clamp
  rw [if_neg (Nat.not_lt_zero _), if_neg (Nat.not_lt_zero _), if_neg (by omega)]
  split
  · exact inside
  · exact short

theorem boost_wraps (cfg : SimplexAdalterCfg) (accepted : Accepted cfg) : ¬ BoostNoWrap cfg := by
  intro faithful
  have inside : cfg.recursionLevels.toNat - 1 < cfg.recursionLevels.toNat := by
    have positive := accepted.levels_pos
    omega
  have heavy := deepest_weight cfg.recursionLevels.toNat accepted.levels_pos
  have product := (faithful _ inside).1
  rw [← saFibWeightPpm_toNat cfg.recursionLevels accepted.levels_pos accepted.levels_le _ inside]
    at heavy
  have limit := (saFibWeightPpm cfg.recursionLevels (cfg.recursionLevels.toNat - 1) *
    120000).toNat_lt
  omega

section Deepest

variable (st : SimplexAdalterState) (cfg : SimplexAdalterCfg) (base : SimplexAdalterBase)
  (report : SimplexAdalterReport) (produced : reportAfter st cfg base = .ok report)
include produced

/-- What an exact report says of its deepest level. -/
theorem deepest_exact (exact : BoostExact cfg base report) :
    Accepted cfg ∧ ∃ weight : UInt32, 333333 ≤ weight.toNat ∧ weight.toNat ≤ 1000000 ∧
      average cfg.nodesPerLevel.toNat (fun n => (saNodeCross (simplexIoctlRunBase st base).base
          weight (UInt32.ofNat n)).toNat) =
        average cfg.nodesPerLevel.toNat (exactCross base.crosshatchPpm.toNat weight.toNat) ∧
      average cfg.nodesPerLevel.toNat (fun n => (saNodeCold (simplexIoctlRunBase st base).base
          weight (UInt32.ofNat n)).toNat) =
        average cfg.nodesPerLevel.toNat (exactCold base.coldnessPpm.toNat weight.toNat) := by
  obtain ⟨accepted, levels⟩ := report_levels st cfg base report produced
  have inside : cfg.recursionLevels.toNat - 1 < cfg.recursionLevels.toNat := by
    have positive := accepted.levels_pos
    omega
  have value := saFibWeightPpm_toNat cfg.recursionLevels accepted.levels_pos accepted.levels_le _
    inside
  have heavy := deepest_weight cfg.recursionLevels.toNat accepted.levels_pos
  have ratio := exactWeight_le _ _ inside
  have claimed := exact (cfg.recursionLevels.toNat - 1) (by simpa [levels] using inside)
  simp only [levels, List.getElem_map, List.getElem_range, saLevel, levelSums_eq, saNode] at claimed
  rw [averageU32_toNat _ _ accepted.nodes_pos, averageU32_toNat _ _ accepted.nodes_pos, ← value]
    at claimed
  exact ⟨accepted, _, by omega, by omega, claimed⟩

/-- The deepest level of a report shows the loss for every middling crosshatch. -/
theorem boost_inexact (lower : 466 ≤ base.crosshatchPpm.toNat)
    (upper : base.crosshatchPpm.toNat ≤ 892857) : ¬ BoostExact cfg base report := by
  intro exact
  obtain ⟨accepted, weight, heavy, ratio, claimed, -⟩ := deepest_exact st cfg base report produced
    exact
  -- Every node of the level falls short, and so does the average.
  refine absurd claimed (Nat.ne_of_lt (average_lt _ _ _ accepted.nodes_pos ?_))
  intro n few
  have index := index_toNat n _ few (accepted.nodes_le.trans (by decide))
  have short := wrapped_cross (simplexIoctlRunBase st base).base weight (UInt32.ofNat n)
    (by omega) ratio lower upper
  rwa [index] at short

theorem cold_boost_inexact (lower : 466 ≤ base.coldnessPpm.toNat)
    (upper : base.coldnessPpm.toNat ≤ 970000) : ¬ BoostExact cfg base report := by
  intro exact
  obtain ⟨accepted, weight, heavy, ratio, -, claimed⟩ := deepest_exact st cfg base report produced
    exact
  refine absurd claimed (Nat.ne_of_lt (average_lt _ _ _ accepted.nodes_pos ?_))
  intro n few
  have index := index_toNat n _ few (accepted.nodes_le.trans (by decide))
  have short := wrapped_cold (simplexIoctlRunBase st base).base weight (UInt32.ofNat n) heavy ratio
    lower upper
  rwa [index] at short

end Deepest

/-- No accepted configuration meets the claim of wrap-freedom, and the wrapped
products show in the report for every crosshatch from 466 to 892857 and for every
coldness from 466 to 970000. -/
theorem fib_boost_never_exact (st : SimplexAdalterState) (cfg : SimplexAdalterCfg)
    (base : SimplexAdalterBase) (report : SimplexAdalterReport)
    (produced : reportAfter st cfg base = .ok report) :
    ¬ BoostNoWrap cfg ∧
      (466 ≤ base.crosshatchPpm.toNat → base.crosshatchPpm.toNat ≤ 892857 →
        ¬ BoostExact cfg base report) ∧
      (466 ≤ base.coldnessPpm.toNat → base.coldnessPpm.toNat ≤ 970000 →
        ¬ BoostExact cfg base report) :=
  ⟨boost_wraps cfg (report_levels st cfg base report produced).1,
    boost_inexact st cfg base report produced, cold_boost_inexact st cfg base report produced⟩

theorem fib_boost_inexact_at_init :
    ¬ BoostNoWrap simplexInitCfg ∧
      ¬ BoostExact simplexInitCfg simplexInitBase
        (saRecomputeLocked (simplexIoctlRunBase simplexInit simplexInitBase)).report := by
  obtain ⟨wraps, inexact, -⟩ := fib_boost_never_exact simplexInit simplexInitCfg simplexInitBase _
    rfl
  exact ⟨wraps, inexact (by decide) (by decide)⟩

/-- The configuration and base the module loads with already show the wrap. -/
theorem boost_wraps_at_init :
    ¬ ∀ st cfg base report, reportAfter st cfg base = .ok report →
      base.crosshatchPpm.toNat ≤ 1000000 → base.coldnessPpm.toNat ≤ 1000000 →
        BoostExact cfg base report := by
  intro always
  exact boost_inexact simplexInit simplexInitCfg simplexInitBase _ rfl (by decide) (by decide)
    (always _ _ simplexInitBase _ rfl (by decide) (by decide))

end RyzenBuild.Ladder
