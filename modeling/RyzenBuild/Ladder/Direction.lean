import RyzenBuild.Ladder.DuoChecked

/-!
Two ladders, or two levels of one ladder, compared stage by stage. Every stage
keeps the order of its inputs and a bound that rules out a wrap, so the order
of the base ratios and of the scalars reaches the averages and the mips.
-/
namespace RyzenBuild.Ladder

open FixedPoint

/-- Two values of one stage in order, the larger one within `bound`. -/
structure Ordered (bound : Nat) (lower upper : UInt32) : Prop where
  le : lower.toNat ≤ upper.toNat
  below : upper.toNat ≤ bound

theorem Ordered.refl (bound : Nat) (v : UInt32) (below : v.toNat ≤ bound) : Ordered bound v v :=
  ⟨Nat.le_refl _, below⟩

section Stages

variable {lower upper : UInt32}

theorem Ordered.mulPpm {f g : UInt32} {left right : Nat} (bound : Nat)
    (values : Ordered left lower upper) (factors : Ordered right f g)
    (fits : left * right + 500000 < (bound + 1) * 1000000) (word : bound < 2 ^ 32) :
    Ordered bound (mulPpm lower f) (mulPpm upper g) := by
  have product := Nat.mul_le_mul values.below factors.below
  have small : mulRound 1000000 upper.toNat g.toNat ≤ bound := by
    rw [mulRound, ← Nat.lt_succ_iff, Nat.div_lt_iff_lt_mul (by decide)]
    omega
  have mono := mulRound_mono 1000000 _ _ _ _ values.le factors.le
  constructor
  · rw [mulPpm_toNat, mulPpm_toNat, Nat.mod_eq_of_lt (by omega), Nat.mod_eq_of_lt (by omega)]
    exact mono
  · rw [mulPpm_toNat, Nat.mod_eq_of_lt (by omega)]
    exact small

theorem Ordered.mulQ16 {left : Nat} (factor : UInt32) (bound : Nat)
    (values : Ordered left lower upper)
    (fits : left * factor.toNat + 32768 < (bound + 1) * 65536) (word : bound < 2 ^ 32) :
    Ordered bound (mulQ16 lower factor) (mulQ16 upper factor) := by
  have product := Nat.mul_le_mul_right factor.toNat values.below
  have small : mulRound 65536 upper.toNat factor.toNat ≤ bound := by
    rw [mulRound, ← Nat.lt_succ_iff, Nat.div_lt_iff_lt_mul (by decide)]
    omega
  have mono := mulRound_mono 65536 _ _ _ _ values.le (Nat.le_refl factor.toNat)
  constructor
  · rw [mulQ16_toNat, mulQ16_toNat, Nat.mod_eq_of_lt (by omega), Nat.mod_eq_of_lt (by omega)]
    exact mono
  · rw [mulQ16_toNat, Nat.mod_eq_of_lt (by omega)]
    exact small

theorem Ordered.add {left right : Nat} {v w : UInt32} (values : Ordered left lower upper)
    (addends : Ordered right v w) (word : left + right < 2 ^ 32) :
    Ordered (left + right) (lower + v) (upper + w) := by
  have first := values.le
  have second := values.below
  have third := addends.le
  have fourth := addends.below
  constructor
  · rw [UInt32.toNat_add, UInt32.toNat_add, Nat.mod_eq_of_lt (by omega),
      Nat.mod_eq_of_lt (by omega)]
    omega
  · rw [UInt32.toNat_add, Nat.mod_eq_of_lt (by omega)]
    omega

theorem Ordered.div {left : Nat} (values : Ordered left lower upper) (divisor : UInt32) :
    Ordered (left / divisor.toNat) (lower / divisor) (upper / divisor) := by
  constructor
  · rw [UInt32.toNat_div, UInt32.toNat_div]
    exact Nat.div_le_div_right values.le
  · rw [UInt32.toNat_div]
    exact Nat.div_le_div_right values.below

/-- Subtracting from the whole turns the order around. -/
theorem Ordered.complement {left : Nat} (values : Ordered left lower upper)
    (ratio : left ≤ 1000000) : Ordered 1000000 (ppm - upper) (ppm - lower) := by
  have first := values.le
  have second := values.below
  constructor
  · rw [ppm_sub_toNat _ (by omega), ppm_sub_toNat _ (by omega)]
    omega
  · rw [ppm_sub_toNat _ (by omega)]
    omega

theorem Ordered.clamp (lo hi : UInt32) (le : lower.toNat ≤ upper.toNat)
    (ordered : lo.toNat ≤ hi.toNat) :
    Ordered hi.toNat (clampU32 lower lo hi) (clampU32 upper lo hi) := by
  constructor
  · rw [clampU32_toNat, clampU32_toNat]
    exact clamp_mono _ _ _ _ ordered le
  · exact (clampU32_between upper lo hi ordered).2

theorem Ordered.scaleIf (condition : Prop) [Decidable condition] {left : Nat} (factor : UInt32)
    (values : Ordered left lower upper) (ratio : factor.toNat ≤ 1000000)
    (word : left < 2 ^ 32) :
    Ordered left (if condition then Ladder.mulPpm lower factor else lower)
      (if condition then Ladder.mulPpm upper factor else upper) := by
  split
  · exact values.mulPpm left (.refl 1000000 factor ratio) (by omega) word
  · exact values

end Stages

/-- The scalar of a level falls with its index and with the index of the node. -/
theorem phaseScalar_ordered (i j n : UInt32) (deeper : i.toNat ≤ j.toNat) (level : j.toNat < 22)
    (node : n.toNat < 12) :
    Ordered 1000000
      (ppm - (j + 1) * dhSimplexPhaseGainPpm / 100 - n * dhSimplexPhaseGainPpm / 200)
      (ppm - (i + 1) * dhSimplexPhaseGainPpm / 100 - n * dhSimplexPhaseGainPpm / 200) := by
  have levelShare : ∀ k : UInt32, k.toNat < 22 →
      ((k + 1) * dhSimplexPhaseGainPpm / 100).toNat = (k.toNat + 1) * 102 := by
    intro k inside
    have gain : dhSimplexPhaseGainPpm.toNat = 10200 := by decide
    simp only [UInt32.toNat_div, UInt32.toNat_mul, UInt32.toNat_add, gain, UInt32.toNat_one,
      UInt32.reduceToNat]
    omega
  have nodeShare : (n * dhSimplexPhaseGainPpm / 200).toNat = n.toNat * 51 := by
    have gain : dhSimplexPhaseGainPpm.toNat = 10200 := by decide
    simp only [UInt32.toNat_div, UInt32.toNat_mul, gain, UInt32.reduceToNat]
    omega
  have scalar : ∀ k : UInt32, k.toNat < 22 →
      (ppm - (k + 1) * dhSimplexPhaseGainPpm / 100 - n * dhSimplexPhaseGainPpm / 200).toNat =
        1000000 - (k.toNat + 1) * 102 - n.toNat * 51 := by
    intro k inside
    have outer := ppm_sub_toNat ((k + 1) * dhSimplexPhaseGainPpm / 100)
      (by rw [levelShare k inside]; omega)
    rw [UInt32.toNat_sub_of_le, outer, levelShare k inside, nodeShare]
    rw [UInt32.le_iff_toNat_le, outer, levelShare k inside, nodeShare]
    omega
  constructor
  · rw [scalar i (by omega), scalar j level]
    omega
  · rw [scalar i (by omega)]
    omega

theorem nodeScalar_le (n : UInt32) (node : n.toNat < 12) :
    (if dawnhexSimplexNodesPerLevel > 1 then
      ppm - n * dhSimplexNodeGainPpm / (dawnhexSimplexNodesPerLevel - 1) else ppm).toNat ≤
      1000000 := by
  have several : dawnhexSimplexNodesPerLevel > 1 := by decide
  have gain : dhSimplexNodeGainPpm.toNat = 21000 := by decide
  have eleven : (dawnhexSimplexNodesPerLevel - 1).toNat = 11 := by decide
  rw [if_pos several, ppm_sub_toNat]
  · exact Nat.sub_le _ _
  · rw [UInt32.toNat_div, UInt32.toNat_mul, gain, eleven, Nat.mod_eq_of_lt (by omega)]
    omega

/-- A node keeps the order of the base ratios, of the level scalars and,
turned around, of the level indices. -/
theorem duoNodeRetained_ordered (p q : DuoPair) (mode : p.mode = q.mode)
    (quotient : p.quotientPpm = q.quotientPpm) (refraction : p.refractionPpm = q.refractionPpm)
    (base base' flags scalar scalar' i j n : UInt32) (bases : Ordered 120000 base base')
    (scalars : Ordered 1000000 scalar scalar') (deeper : i.toNat ≤ j.toNat)
    (level : j.toNat < 22) (node : n.toNat < 12) :
    Ordered 120000 (duoNodeRetained p base flags scalar j n)
      (duoNodeRetained q base' flags scalar' i n) := by
  have limits : dhSimplexMinRetainedPpm.toNat ≤ dhSimplexMaxRetainedPpm.toNat := by decide
  simp only [duoNodeRetained, dhMulPpm, dhMulQ16, dhClampU32, mode, quotient, refraction]
  have v := bases.mulQ16 dhSimplexArmQ16 142561 (by decide) (by decide)
  have v := v.mulQ16 dhSimplexUScalarQ16 249482 (by decide) (by decide)
  have v := Ordered.clamp dhSimplexMinRetainedPpm dhSimplexMaxRetainedPpm v.le limits
  have slot : (10200 + n % 4 * 1275).toNat ≤ 14025 := by
    have lane : n.toNat % 4 < 4 := Nat.mod_lt _ (by decide)
    simp only [UInt32.toNat_add, UInt32.toNat_mul, UInt32.toNat_mod, UInt32.reduceToNat]
    rw [Nat.mod_eq_of_lt (a := n.toNat % 4 * 1275) (by omega), Nat.mod_eq_of_lt (by omega)]
    omega
  have addPpm := (Ordered.refl 14025 _ slot).mulQ16 dhSimplexAdderQ16 5890 (by decide) (by decide)
  have v := v.add addPpm (by decide)
  have v := Ordered.clamp dhSimplexMinRetainedPpm dhSimplexMaxRetainedPpm v.le limits
  have v := v.mulQ16 dhSimplexModifierQ16 124201 (by decide) (by decide)
  -- From here on every factor is at most one, but for the two clamped gains of the pair.
  have v := v.mulPpm 124201 scalars (by decide) (by decide)
  have v := v.mulPpm 124201 (.refl 1000000 _ (nodeScalar_le n node)) (by decide) (by decide)
  have v := v.mulPpm 124201 (phaseScalar_ordered i j n deeper level node) (by decide) (by decide)
  have v := v.mulPpm 149041
    (Ordered.clamp 900000 1200000 (Nat.le_refl q.refractionPpm.toNat) (by decide))
    (by decide) (by decide)
  have v := v.mulPpm 186301
    (Ordered.clamp 800000 1250000 (Nat.le_refl q.quotientPpm.toNat) (by decide))
    (by decide) (by decide)
  have v := v.scaleIf (q.mode = dawnhexDuoCrossed) 970000 (by decide) (by decide)
  have v := v.scaleIf (flags &&& dhSimplexFlagSupercompute ≠ 0) 940000 (by decide) (by decide)
  have v := v.scaleIf (flags &&& dhSimplexFlagChipRelay ≠ 0) 980000 (by decide) (by decide)
  exact Ordered.clamp dhSimplexMinRetainedPpm dhSimplexMaxRetainedPpm v.le limits

theorem averageU32_mono (count : UInt32) (low high : Nat → UInt32) (positive : 0 < count.toNat)
    (le : ∀ n, n < count.toNat → (low n).toNat ≤ (high n).toNat) :
    (averageU32 (sumU64 count.toNat low) count).toNat ≤
      (averageU32 (sumU64 count.toNat high) count).toNat := by
  rw [averageU32_toNat count low positive, averageU32_toNat count high positive]
  exact average_mono _ _ _ le

/-- Two lists of ratios of one length, the first nowhere above the second. -/
def Pointwise (low high : List UInt32) : Prop :=
  List.Forall₂ (fun v w => v.toNat ≤ w.toNat) low high

theorem build9Mips_ordered (lower upper : UInt32) (values : Ordered 120000 lower upper) :
    Pointwise (build9Mips lower) (build9Mips upper) := by
  have heaviest : ∀ weight ∈ weightsPpm, weight.toNat ≤ 2400000 := by simp [weightsPpm]
  rw [build9Mips_eq, build9Mips_eq, Pointwise, List.forall₂_map_left_iff,
    List.forall₂_map_right_iff, List.forall₂_same]
  intro weight member
  have scaled := values.mulPpm 288000 (.refl 2400000 weight (heaviest weight member))
    (by decide) (by decide)
  exact (Ordered.clamp 1000 ppm scaled.le (by decide)).le

/-- `lower` compresses more than `upper`, in every ratio of the level. -/
structure Compresses (lower upper : DuoSimplexLevel) : Prop where
  retained : lower.retainedPpm.toNat ≤ upper.retainedPpm.toNat
  energy : lower.energyPpm.toNat ≤ upper.energyPpm.toNat
  mips : Pointwise lower.mipRetainedPpm upper.mipRetainedPpm
  reduction : upper.reductionPpm.toNat ≤ lower.reductionPpm.toNat

/-- The share of a level in the Fibonacci total, and the scalar it leaves. -/
def levelShare (value : UInt32) (total : UInt64) : UInt32 :=
  (value.toUInt64 * ppm.toUInt64 / total).toUInt32

theorem levelShare_ordered (v w : UInt32) (total : UInt64) (le : v.toNat ≤ w.toNat)
    (part : w.toNat ≤ total.toNat) :
    Ordered 1000000 (levelShare v total) (levelShare w total) := by
  have small := w.toNat_lt
  have whole : ppm.toUInt64.toNat = 1000000 := by decide
  have exact : ∀ u : UInt32, u.toNat ≤ w.toNat →
      (levelShare u total).toNat = u.toNat * 1000000 / total.toNat ∧
        u.toNat * 1000000 / total.toNat ≤ 1000000 := by
    intro u within
    have share : u.toNat * 1000000 / total.toNat ≤ 1000000 :=
      Nat.div_le_of_le_mul (Nat.mul_le_mul_right 1000000 (within.trans part))
    refine ⟨?_, share⟩
    rw [levelShare, UInt64.toNat_toUInt32, UInt64.toNat_div, UInt64.toNat_mul, whole,
      UInt32.toNat_toUInt64, Nat.mod_eq_of_lt (a := u.toNat * 1000000) (by omega)]
    exact Nat.mod_eq_of_lt (by omega)
  have first := exact v le
  have second := exact w (Nat.le_refl _)
  refine ⟨?_, by rw [second.1]; exact second.2⟩
  rw [first.1, second.1]
  exact Nat.div_le_div_right (Nat.mul_le_mul_right 1000000 le)

theorem levelScalar_ordered (v w : UInt32) (total : UInt64) (le : v.toNat ≤ w.toNat)
    (part : w.toNat ≤ total.toNat) :
    Ordered 1000000 (ppm - dhMulPpm (levelShare w total) dhSimplexLevelGainPpm)
      (ppm - dhMulPpm (levelShare v total) dhSimplexLevelGainPpm) := by
  have shares := levelShare_ordered v w total le part
  have gains := shares.mulPpm 144000 (.refl 144000 dhSimplexLevelGainPpm (by decide))
    (by decide) (by decide)
  exact gains.complement (by decide)

/-- One level of one ladder against a level of another, or of the same: a
lower base ratio, a deeper index or a larger share all compress more. -/
theorem duoLevel_ordered (p q : DuoPair) (mode : p.mode = q.mode)
    (quotient : p.quotientPpm = q.quotientPpm) (refraction : p.refractionPpm = q.refractionPpm)
    (base base' flags : UInt32) (fib : Nat → UInt32) (total : UInt64) (i j : Nat)
    (bases : Ordered 120000 base base') (deeper : i ≤ j) (level : j < 22)
    (grows : (fib i).toNat ≤ (fib j).toNat) (part : (fib j).toNat ≤ total.toNat) :
    Compresses (duoLevel p base flags fib total j) (duoLevel q base' flags fib total i) := by
  have positive : 0 < dawnhexSimplexNodesPerLevel.toNat := by decide
  have scalars := levelScalar_ordered (fib i) (fib j) total grows part
  simp only [levelShare] at scalars
  have index : ∀ k : Nat, k < 22 → (UInt32.ofNat k).toNat = k := by
    intro k inside
    rw [UInt32.toNat_ofNat']
    omega
  have node : ∀ n, n < 12 → Ordered 120000
      (duoNodeRetained p base flags
        (ppm - dhMulPpm ((fib j).toUInt64 * ppm.toUInt64 / total).toUInt32 dhSimplexLevelGainPpm)
        (UInt32.ofNat j) (UInt32.ofNat n))
      (duoNodeRetained q base' flags
        (ppm - dhMulPpm ((fib i).toUInt64 * ppm.toUInt64 / total).toUInt32 dhSimplexLevelGainPpm)
        (UInt32.ofNat i) (UInt32.ofNat n)) := by
    intro n inside
    apply duoNodeRetained_ordered p q mode quotient refraction _ _ _ _ _ _ _ _ bases scalars
    · rw [index i (by omega), index j level]
      exact deeper
    · rw [index j level]
      exact level
    · rw [index n (by omega)]
      exact inside
  have retained := averageU32_mono dawnhexSimplexNodesPerLevel _ _ positive
    fun n inside => (node n inside).le
  simp only [duoLevel, levelSums_eq, duoNode]
  exact
    { retained := retained
      energy := averageU32_mono _ _ _ positive fun n inside =>
        ((node n inside).mulQ16 dhSimplexKnotQ16 58751 (by decide) (by decide)).le
      mips := build9Mips_ordered _ _ ⟨retained, averageU32_le _ _ _ positive fun n =>
        (duoNodeRetained_between q base' flags _ _ _).2⟩
      reduction := averageU32_mono _ _ _ positive fun n inside =>
        ((node n inside).complement (by decide)).le }

def duoFlags : UInt32 := dhSimplexFlagSupercompute ||| dhSimplexFlagChipRelay

theorem recompute_ladder (p : DuoPair) :
    (dhDuoRecomputeSimplexLocked p).simplex.levels =
      (List.range dawnhexSimplexLevels).map
        (duoLevel p (dhDuoBaseRetainedPpmLocked p) duoFlags dhFillFib22.1 dhFillFib22.2) := by
  have filled : dhFillFib22.2 ≠ 0 := (fib_part 0 (by omega)).2
  simp only [dhDuoRecomputeSimplexLocked, if_neg filled]
  rfl

theorem fill_fib_mono (i j : Nat) (deeper : i ≤ j) (level : j < 22) :
    (dhFillFib22.1 i).toNat ≤ (dhFillFib22.1 j).toNat := by
  have cells := (fibFrom_spec 20 (by omega)).1
  have first : (dhFillFib22.1 i).toNat = Nat.fib (i + 1) := cells i (by omega)
  have second : (dhFillFib22.1 j).toNat = Nat.fib (j + 1) := cells j (by omega)
  rw [first, second]
  exact Nat.fib_mono (by omega)

theorem base_le (p : DuoPair) : (dhDuoBaseRetainedPpmLocked p).toNat ≤ 120000 :=
  clampU32_le _ dhSimplexMinRetainedPpm dhSimplexMaxRetainedPpm (by decide)

/-- Down the ladder of any pair whatever, every level compresses at least as
much as the levels above it. -/
theorem duo_ladder_deepens (p : DuoPair) :
    (dhDuoRecomputeSimplexLocked p).simplex.levels.length = 22 ∧
      (dhDuoRecomputeSimplexLocked p).simplex.levels.Pairwise fun upper lower =>
        Compresses lower upper := by
  refine ⟨recompute_levels p, ?_⟩
  rw [recompute_ladder, List.pairwise_map]
  apply List.pairwise_lt_range.imp_of_mem
  intro i j _ member deeper
  have level : j < 22 := List.mem_range.mp member
  exact duoLevel_ordered p p rfl rfl rfl _ _ _ _ _ i j (.refl 120000 _ (base_le p))
    (Nat.le_of_lt deeper) level (fill_fib_mono i j (Nat.le_of_lt deeper) level)
    (fib_part j level).1

theorem base_ordered (p q : DuoPair) (mode : p.mode = q.mode) (first : RatioPair p)
    (second : RatioPair q) (energy : p.energyPpm.toNat ≤ q.energyPpm.toNat)
    (pressure : q.pressurePpm.toNat ≤ p.pressurePpm.toNat) :
    Ordered 120000 (dhDuoBaseRetainedPpmLocked q) (dhDuoBaseRetainedPpmLocked p) := by
  have slack := (Ordered.complement ⟨energy, second.energy⟩ (Nat.le_refl _)).div 20
  have base := (Ordered.refl 10200 dhSimplexMinRetainedPpm (by decide)).add slack (by decide)
  have share := (Ordered.mk pressure first.pressure).div 25
  have base := base.add share (by decide)
  have scaled : ∀ factor : UInt32, factor.toNat ≤ 1020000 → (mulPpm _ factor).toNat ≤ _ :=
    fun factor small =>
      (base.mulPpm 120000 (.refl 1020000 factor small) (by decide) (by decide)).le
  simp only [dhDuoBaseRetainedPpmLocked, dhMulPpm, mode]
  change Ordered dhSimplexMaxRetainedPpm.toNat _ _
  apply Ordered.clamp _ _ _ (by decide)
  split
  · exact scaled 980000 (by decide)
  · split
    · exact scaled 1020000 (by decide)
    · split
      · exact scaled 960000 (by decide)
      · exact base.le

theorem foldl_ret (level : Nat → DuoSimplexLevel) (count : Nat) :
    (((List.range count).map level).foldl Sums.addDuoLevel Sums.zero).ret =
      sumU64 count fun i => (level i).retainedPpm := by
  induction count with
  | zero => rfl
  | succ count ih =>
      rw [List.range_succ, List.map_append, List.foldl_append, sumU64_succ, ← ih]
      rfl

/-- The three averages of a ladder that are taken over its levels' ratios. -/
theorem duo_averages (p : DuoPair) (acc : Sums)
    (total : acc = (dhDuoRecomputeSimplexLocked p).simplex.levels.foldl
      Sums.addDuoLevel Sums.zero) :
    (dhDuoRecomputeSimplexLocked p).simplex.recursiveRetainedPpm = averageU32 acc.ret 22 ∧
      (dhDuoRecomputeSimplexLocked p).simplex.recursiveReductionPpm = averageU32 acc.red 22 ∧
      (dhDuoRecomputeSimplexLocked p).simplex.recursiveEnergyPpm = averageU32 acc.energy 22 := by
  subst total
  exact ⟨rfl, rfl, rfl⟩

theorem recompute_recursive (p : DuoPair) :
    (dhDuoRecomputeSimplexLocked p).simplex.recursiveRetainedPpm =
      averageU32 (sumU64 dawnhexSimplexLevels fun i =>
        (duoLevel p (dhDuoBaseRetainedPpmLocked p) duoFlags dhFillFib22.1
          dhFillFib22.2 i).retainedPpm) 22 := by
  rw [← foldl_ret, ← recompute_ladder p]
  exact (duo_averages p _ rfl).1

/-- Of two pairs alike in mode, quotient and refraction, the one with no more
energy and no less pressure retains no less, in its base, on every level, in
every mip and over the whole ladder. -/
theorem duo_ladder_direction (p q : DuoPair) (mode : p.mode = q.mode)
    (quotient : p.quotientPpm = q.quotientPpm) (refraction : p.refractionPpm = q.refractionPpm)
    (first : RatioPair p) (second : RatioPair q)
    (energy : p.energyPpm.toNat ≤ q.energyPpm.toNat)
    (pressure : q.pressurePpm.toNat ≤ p.pressurePpm.toNat) :
    (dhDuoRecomputeSimplexLocked q).simplex.baseRetainedPpm.toNat ≤
        (dhDuoRecomputeSimplexLocked p).simplex.baseRetainedPpm.toNat ∧
      List.Forall₂ Compresses (dhDuoRecomputeSimplexLocked q).simplex.levels
        (dhDuoRecomputeSimplexLocked p).simplex.levels ∧
      (dhDuoRecomputeSimplexLocked p).simplex.levels.length = 22 ∧
      (dhDuoRecomputeSimplexLocked q).simplex.recursiveRetainedPpm.toNat ≤
        (dhDuoRecomputeSimplexLocked p).simplex.recursiveRetainedPpm.toNat := by
  have bases := base_ordered p q mode first second energy pressure
  have levels : ∀ i, i < 22 → Compresses
      (duoLevel q (dhDuoBaseRetainedPpmLocked q) duoFlags dhFillFib22.1 dhFillFib22.2 i)
      (duoLevel p (dhDuoBaseRetainedPpmLocked p) duoFlags dhFillFib22.1 dhFillFib22.2 i) :=
    fun i inside => duoLevel_ordered q p mode.symm quotient.symm refraction.symm _ _ _ _ _ i i
      bases (Nat.le_refl i) inside (Nat.le_refl _) (fib_part i inside).1
  refine ⟨bases.le, ?_, recompute_levels p, ?_⟩
  · rw [recompute_ladder, recompute_ladder, List.forall₂_map_left_iff,
      List.forall₂_map_right_iff, List.forall₂_same]
    intro i member
    exact levels i (List.mem_range.mp member)
  · rw [recompute_recursive, recompute_recursive]
    exact averageU32_mono 22 _ _ (by decide) fun i inside => (levels i inside).retained

/-- Inputs of the ladder that differ in energy and pressure only. -/
def pairOf (energy pressure : UInt32) : DuoPair :=
  { DuoPair.zero with energyPpm := energy, pressurePpm := pressure }

theorem low_energy_retains_more :
    (dhDuoRecomputeSimplexLocked (pairOf 900000 100000)).simplex.recursiveRetainedPpm.toNat ≤
      (dhDuoRecomputeSimplexLocked (pairOf 200000 500000)).simplex.recursiveRetainedPpm.toNat :=
  (duo_ladder_direction (pairOf 200000 500000) (pairOf 900000 100000) rfl rfl rfl
    ⟨by decide, by decide⟩ ⟨by decide, by decide⟩ (by decide) (by decide)).2.2.2

end RyzenBuild.Ladder
