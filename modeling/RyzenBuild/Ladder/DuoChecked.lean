import RyzenBuild.Ladder.Duo
import RyzenBuild.Ladder.SimplexBoost
import RyzenBuild.Lib.Checked

/-!
The duo ladder over checked operations: each function repeats the one of its
name in the same order of operations and fails as soon as a sum, difference,
product or narrowing cast leaves its word. For a pair whose energy and
pressure are ratios the whole recomputation succeeds.
-/
namespace RyzenBuild.Ladder

open Checked FixedPoint

def checkedMulPpm (a b : UInt32) : Option UInt32 := do
  let v ← mul64 a.toUInt64 b.toUInt64
  let v ← add64 v (ppm / 2).toUInt64
  narrow (v / ppm.toUInt64)

def checkedScaleIf (condition : Prop) [Decidable condition] (v factor : UInt32) : Option UInt32 :=
  if condition then checkedMulPpm v factor else pure v

def checkedMulQ16 (a q : UInt32) : Option UInt32 := do
  let v ← mul64 a.toUInt64 q.toUInt64
  let v ← add64 v (q16 / 2).toUInt64
  narrow (v >>> 16)

def checkedBuild9Mips (baseRetainedPpm : UInt32) : Option (List UInt32) :=
  weightsPpm.mapM fun weight => do
    let v ← checkedMulPpm baseRetainedPpm weight
    pure (clampU32 v 1000 ppm)

def checkedFibFrom : Nat → Option ((Nat → UInt32) × UInt64)
  | 0 => pure (fun i => if i < 2 then 1 else 0, 2)
  | n + 1 => do
      let (out, total) ← checkedFibFrom n
      let i := n + 2
      let next ← add32 (out (i - 1)) (out (i - 2))
      let total ← add64 total next.toUInt64
      pure (fun k => if k = i then next else out k, total)

def checkedBaseRetained (p : DuoPair) : Option UInt32 := do
  let base := dhSimplexMinRetainedPpm
  let slack ← sub32 1000000 p.energyPpm
  let base ← add32 base (slack / 20)
  let base ← add32 base (p.pressurePpm / 25)
  let base ←
    if p.mode = dawnhexDuoInoutInoutOut then checkedMulPpm base 980000
    else if p.mode = dawnhexDuoInoutInoutIn then checkedMulPpm base 1020000
    else if p.mode = dawnhexDuoCrossed then checkedMulPpm base 960000
    else pure base
  pure (dhClampU32 base dhSimplexMinRetainedPpm dhSimplexMaxRetainedPpm)

def checkedNodeScalar (n : UInt32) : Option UInt32 :=
  if dawnhexSimplexNodesPerLevel > 1 then do
    let gain ← mul32 n dhSimplexNodeGainPpm
    let rest ← sub32 dawnhexSimplexNodesPerLevel 1
    sub32 ppm (gain / rest)
  else pure ppm

def checkedPhaseScalar (i n : UInt32) : Option UInt32 := do
  let level ← add32 i 1
  let levelGain ← mul32 level dhSimplexPhaseGainPpm
  let nodeGain ← mul32 n dhSimplexPhaseGainPpm
  let phaseScalarPpm ← sub32 ppm (levelGain / 100)
  sub32 phaseScalarPpm (nodeGain / 200)

def checkedNodeRetained (p : DuoPair) (base flags levelScalarPpm i n : UInt32) :
    Option UInt32 := do
  let slot := n % 4
  let v := base
  let v ← checkedMulQ16 v dhSimplexArmQ16
  let v ← checkedMulQ16 v dhSimplexUScalarQ16
  let v := dhClampU32 v dhSimplexMinRetainedPpm dhSimplexMaxRetainedPpm
  let step ← mul32 slot 1275
  let addPpm ← add32 10200 step
  let addPpm ← checkedMulQ16 addPpm dhSimplexAdderQ16
  let v ← add32 v addPpm
  let v := dhClampU32 v dhSimplexMinRetainedPpm dhSimplexMaxRetainedPpm
  let v ← checkedMulQ16 v dhSimplexModifierQ16
  let nodeScalarPpm ← checkedNodeScalar n
  let phaseScalarPpm ← checkedPhaseScalar i n
  let v ← checkedMulPpm v levelScalarPpm
  let v ← checkedMulPpm v nodeScalarPpm
  let v ← checkedMulPpm v phaseScalarPpm
  let v ← checkedMulPpm v (dhClampU32 p.refractionPpm 900000 1200000)
  let v ← checkedMulPpm v (dhClampU32 p.quotientPpm 800000 1250000)
  let v ← checkedScaleIf (p.mode = dawnhexDuoCrossed) v 970000
  let v ← checkedScaleIf (flags &&& dhSimplexFlagSupercompute ≠ 0) v 940000
  let v ← checkedScaleIf (flags &&& dhSimplexFlagChipRelay ≠ 0) v 980000
  pure (dhClampU32 v dhSimplexMinRetainedPpm dhSimplexMaxRetainedPpm)

def checkedNodeCross (p : DuoPair) (n : UInt32) : Option UInt32 := do
  let slot := n % 4
  let crossPpm := p.quotientPpm / 3
  let crossPpm ← add32 crossPpm (dhClampU32 p.refractionPpm 0 1500000 / 4)
  let crossPpm ← add32 crossPpm (p.energyPpm / 5)
  let crossPpm ← add32 crossPpm (p.pressurePpm / 5)
  let loss ← mul32 slot 15000
  let scalar ← sub32 ppm loss
  let crossPpm ← checkedMulPpm crossPpm scalar
  pure (dhClampU32 crossPpm 0 ppm)

def checkedNodeCold (p : DuoPair) (fibWeightPpm n : UInt32) : Option UInt32 := do
  let lane := n % 3
  let slack ← sub32 ppm p.energyPpm
  let coldPpm ← add32 (slack / 2) (p.pressurePpm / 2)
  let weight ← add32 ppm (fibWeightPpm / 8)
  let coldPpm ← checkedMulPpm coldPpm weight
  let bias ← mul32 lane 10000
  let bias ← add32 ppm bias
  let coldPpm ← checkedMulPpm coldPpm bias
  pure (dhClampU32 coldPpm 0 ppm)

def checkedNode (p : DuoPair) (base flags fibWeightPpm levelScalarPpm i n : UInt32) :
    Option NodeOut := do
  let v ← checkedNodeRetained p base flags levelScalarPpm i n
  let crossPpm ← checkedNodeCross p n
  let coldPpm ← checkedNodeCold p fibWeightPpm n
  let energyPpm ← checkedMulQ16 v dhSimplexKnotQ16
  pure { v := v, crossPpm := crossPpm, coldPpm := coldPpm, energyPpm := energyPpm }

def checkedAddNode (sums : Sums) (node : NodeOut) : Option Sums := do
  let ret ← add64 sums.ret node.v.toUInt64
  let reduction ← sub32 ppm node.v
  let red ← add64 sums.red reduction.toUInt64
  let cross ← add64 sums.cross node.crossPpm.toUInt64
  let cold ← add64 sums.cold node.coldPpm.toUInt64
  let energy ← add64 sums.energy node.energyPpm.toUInt64
  pure { ret := ret, red := red, cross := cross, cold := cold, energy := energy }

def checkedLevelSums (nodes : UInt32) (node : UInt32 → Option NodeOut) : Option Sums :=
  (List.range nodes.toNat).foldlM
    (fun sums n => do
      let out ← node (UInt32.ofNat n)
      checkedAddNode sums out) Sums.zero

def checkedAverage (total : UInt64) (count : UInt32) : Option UInt32 :=
  narrow (total / count.toUInt64)

def checkedLevel (p : DuoPair) (base flags : UInt32) (fib : Nat → UInt32) (fibTotal : UInt64)
    (i : Nat) : Option DuoSimplexLevel := do
  let index := UInt32.ofNat i
  let next ← add32 index 1
  let share ← mul64 (fib i).toUInt64 ppm.toUInt64
  let fibWeightPpm ← narrow (share / fibTotal)
  let gain ← checkedMulPpm fibWeightPpm dhSimplexLevelGainPpm
  let levelScalarPpm ← sub32 ppm gain
  let sums ← checkedLevelSums dawnhexSimplexNodesPerLevel
    (checkedNode p base flags fibWeightPpm levelScalarPpm index)
  let retainedPpm ← checkedAverage sums.ret dawnhexSimplexNodesPerLevel
  let reductionPpm ← checkedAverage sums.red dawnhexSimplexNodesPerLevel
  let crosshatchPpm ← checkedAverage sums.cross dawnhexSimplexNodesPerLevel
  let coldnessPpm ← checkedAverage sums.cold dawnhexSimplexNodesPerLevel
  let energyPpm ← checkedAverage sums.energy dawnhexSimplexNodesPerLevel
  let mipRetainedPpm ← checkedBuild9Mips retainedPpm
  pure
    { levelIndex := next
      fibValue := fib i
      fibWeightPpm := fibWeightPpm
      nodeCount := dawnhexSimplexNodesPerLevel
      retainedPpm := retainedPpm
      reductionPpm := reductionPpm
      crosshatchPpm := crosshatchPpm
      coldnessPpm := coldnessPpm
      energyPpm := energyPpm
      pressurePpm := p.pressurePpm
      mipRetainedPpm := mipRetainedPpm }

def checkedAddDuoLevel (sums : Sums) (level : DuoSimplexLevel) : Option Sums := do
  let ret ← add64 sums.ret level.retainedPpm.toUInt64
  let red ← add64 sums.red level.reductionPpm.toUInt64
  let cross ← add64 sums.cross level.crosshatchPpm.toUInt64
  let cold ← add64 sums.cold level.coldnessPpm.toUInt64
  let energy ← add64 sums.energy level.energyPpm.toUInt64
  pure { ret := ret, red := red, cross := cross, cold := cold, energy := energy }

def checkedRecomputeSimplex (p : DuoPair) : Option DuoPair := do
  let flags := dhSimplexFlagSupercompute ||| dhSimplexFlagChipRelay
  let base ← checkedBaseRetained p
  let (fib, fibTotal) ← checkedFibFrom (dawnhexSimplexLevels - 2)
  let fibTotal := if fibTotal = 0 then 1 else fibTotal
  let levels ← (List.range dawnhexSimplexLevels).mapM (checkedLevel p base flags fib fibTotal)
  let acc ← levels.foldlM checkedAddDuoLevel Sums.zero
  let count := UInt32.ofNat dawnhexSimplexLevels
  let recursiveRetainedPpm ← checkedAverage acc.ret count
  let recursiveReductionPpm ← checkedAverage acc.red count
  let recursiveCrosshatchPpm ← checkedAverage acc.cross count
  let recursiveColdnessPpm ← checkedAverage acc.cold count
  let recursiveEnergyPpm ← checkedAverage acc.energy count
  pure
    { p with
      simplex :=
        { levelCount := count
          nodeCount := dawnhexSimplexNodesPerLevel
          baseRetainedPpm := base
          recursiveRetainedPpm := recursiveRetainedPpm
          recursiveReductionPpm := recursiveReductionPpm
          recursiveCrosshatchPpm := recursiveCrosshatchPpm
          recursiveColdnessPpm := recursiveColdnessPpm
          recursiveEnergyPpm := recursiveEnergyPpm
          flags := flags
          levels := levels } }

/-- Two 32-bit factors and the rounding term fit 64 bits, so only the final
cast of a rounded product needs a bound. -/
theorem checked_product (a b : UInt32) (half : UInt64) (small : half.toNat ≤ 500000) :
    (do
      let v ← mul64 a.toUInt64 b.toUInt64
      add64 v half) = some (a.toUInt64 * b.toUInt64 + half) ∧
      (a.toUInt64 * b.toUInt64 + half).toNat = a.toNat * b.toNat + half.toNat := by
  have room : a.toNat * b.toNat ≤ (2 ^ 32 - 1) * (2 ^ 32 - 1) :=
    Nat.mul_le_mul (by have := a.toNat_lt; omega) (by have := b.toNat_lt; omega)
  have product := mul64_runs a.toUInt64 b.toUInt64 (by simp; omega)
  have exact : (a.toUInt64 * b.toUInt64).toNat = a.toNat * b.toNat := by
    simpa using mul64_exact _ _ _ product
  have sum := add64_runs (a.toUInt64 * b.toUInt64) half (by omega)
  refine ⟨by simp [product, sum], ?_⟩
  rw [add64_exact _ _ _ sum, exact]

theorem checkedMulPpm_within (a b : UInt32) (left right bound : Nat) (leftBound : a.toNat ≤ left)
    (rightBound : b.toNat ≤ right) (fits : left * right + 500000 < (bound + 1) * 1000000)
    (word : bound < 2 ^ 32) : Within (checkedMulPpm a b) (mulPpm a b) bound := by
  have product := Nat.mul_le_mul leftBound rightBound
  have half : (ppm / 2).toUInt64.toNat = 500000 := by decide
  have whole : ppm.toUInt64.toNat = 1000000 := by decide
  obtain ⟨runs, exact⟩ := checked_product a b (ppm / 2).toUInt64 (by rw [half])
  have below : ((a.toUInt64 * b.toUInt64 + (ppm / 2).toUInt64) / ppm.toUInt64).toNat ≤ bound := by
    rw [UInt64.toNat_div, exact, half, whole]
    omega
  have cast := narrow_within _ bound below word
  refine ⟨?_, cast.below⟩
  calc checkedMulPpm a b
    _ = (do
          let v ← mul64 a.toUInt64 b.toUInt64
          add64 v (ppm / 2).toUInt64).bind fun v => narrow (v / ppm.toUInt64) := by
      simp [checkedMulPpm, Option.bind_assoc]
    _ = some (mulPpm a b) := by rw [runs, Option.bind_some, cast.runs, mulPpm]

theorem checkedMulQ16_within (a q : UInt32) (left right bound : Nat) (leftBound : a.toNat ≤ left)
    (rightBound : q.toNat ≤ right) (fits : left * right + 32768 < (bound + 1) * 65536)
    (word : bound < 2 ^ 32) : Within (checkedMulQ16 a q) (mulQ16 a q) bound := by
  have product := Nat.mul_le_mul leftBound rightBound
  have half : (q16 / 2).toUInt64.toNat = 32768 := by decide
  have bits : (16 : UInt64).toNat % 64 = 16 := by decide
  obtain ⟨runs, exact⟩ := checked_product a q (q16 / 2).toUInt64 (by rw [half]; omega)
  have below : ((a.toUInt64 * q.toUInt64 + (q16 / 2).toUInt64) >>> 16).toNat ≤ bound := by
    rw [UInt64.toNat_shiftRight, exact, half, bits, Nat.shiftRight_eq_div_pow]
    omega
  have cast := narrow_within _ bound below word
  refine ⟨?_, cast.below⟩
  calc checkedMulQ16 a q
    _ = (do
          let v ← mul64 a.toUInt64 q.toUInt64
          add64 v (q16 / 2).toUInt64).bind fun v => narrow (v >>> 16) := by
      simp [checkedMulQ16, Option.bind_assoc]
    _ = some (mulQ16 a q) := by rw [runs, Option.bind_some, cast.runs, mulQ16]

/-- The two inputs of the ladder that the subtractions rely on. -/
structure RatioPair (p : DuoPair) : Prop where
  energy : p.energyPpm.toNat ≤ 1000000
  pressure : p.pressurePpm.toNat ≤ 1000000

theorem checkedBaseRetained_runs (p : DuoPair) (ratio : RatioPair p) :
    checkedBaseRetained p = some (dhDuoBaseRetainedPpmLocked p) := by
  have energy := ratio.energy
  have pressure := ratio.pressure
  simp only [checkedBaseRetained, dhDuoBaseRetainedPpmLocked, dhMulPpm, Option.bind_eq_bind]
  obtain ⟨slackRuns, slackBelow⟩ :=
    sub32_within 1000000 p.energyPpm 1000000 (by decide) (by simpa using energy)
  rw [slackRuns, Option.bind_some]
  generalize (1000000 : UInt32) - p.energyPpm = slack at slackBelow ⊢
  obtain ⟨firstRuns, firstBelow⟩ :=
    add32_within dhSimplexMinRetainedPpm (slack / 20) 10200 50000 (by decide)
      (by simp; omega) (by omega)
  rw [firstRuns, Option.bind_some]
  generalize dhSimplexMinRetainedPpm + slack / 20 = first at firstBelow ⊢
  obtain ⟨secondRuns, secondBelow⟩ :=
    add32_within first (p.pressurePpm / 25) 60200 40000 firstBelow (by simp; omega) (by omega)
  rw [secondRuns, Option.bind_some]
  generalize first + p.pressurePpm / 25 = second at secondBelow ⊢
  have scaled : ∀ factor : UInt32, factor.toNat ≤ 1020000 →
      checkedMulPpm second factor = some (mulPpm second factor) := fun factor small =>
    (checkedMulPpm_within second factor 100200 1020000 102204 secondBelow small (by omega)
      (by omega)).runs
  rw [scaled 980000 (by decide), scaled 1020000 (by decide), scaled 960000 (by decide)]
  split
  · rfl
  · split
    · rfl
    · split <;> rfl

/-- A factor of at most one does not let a ratio grow. -/
theorem checked_shrink (v factor : UInt32) (bound : Nat) (below : v.toNat ≤ bound)
    (small : factor.toNat ≤ 1000000) (word : bound < 2 ^ 32) :
    Within (checkedMulPpm v factor) (mulPpm v factor) bound :=
  checkedMulPpm_within v factor bound 1000000 bound below small (by omega) word

theorem checked_shrink_if (condition : Prop) [Decidable condition] (v factor : UInt32)
    (bound : Nat) (below : v.toNat ≤ bound) (small : factor.toNat ≤ 1000000)
    (word : bound < 2 ^ 32) :
    Within (checkedScaleIf condition v factor) (if condition then mulPpm v factor else v)
      bound := by
  unfold checkedScaleIf
  by_cases taken : condition
  · rw [if_pos taken, if_pos taken]
    exact checked_shrink v factor bound below small word
  · rw [if_neg taken, if_neg taken]
    exact ⟨rfl, below⟩

theorem clampU32_le (v lo hi : UInt32) (ordered : lo.toNat ≤ hi.toNat) :
    (clampU32 v lo hi).toNat ≤ hi.toNat :=
  (clampU32_between v lo hi ordered).2

theorem nodeScalar_within (n : UInt32) (inside : n.toNat < 12) :
    Within (checkedNodeScalar n)
      (if dawnhexSimplexNodesPerLevel > 1 then
        ppm - n * dhSimplexNodeGainPpm / (dawnhexSimplexNodesPerLevel - 1)
      else ppm) 1000000 := by
  obtain ⟨gainRuns, gainBelow⟩ :=
    mul32_within n dhSimplexNodeGainPpm 11 21000 (by omega) (by decide) (by omega)
  have rest : sub32 dawnhexSimplexNodesPerLevel 1 = some (dawnhexSimplexNodesPerLevel - 1) := by
    decide
  have eleven : (dawnhexSimplexNodesPerLevel - 1).toNat = 11 := by decide
  have whole : ppm.toNat = 1000000 := by decide
  have several : dawnhexSimplexNodesPerLevel > 1 := by decide
  simp only [checkedNodeScalar, several, ↓reduceIte, Option.bind_eq_bind, gainRuns, rest,
    Option.bind_some]
  apply sub32_within ppm _ 1000000 (by decide)
  rw [UInt32.toNat_div, eleven, whole]
  omega

theorem phaseScalar_within (i n : UInt32) (level : i.toNat < 22) (inside : n.toNat < 12) :
    Within (checkedPhaseScalar i n)
      (ppm - (i + 1) * dhSimplexPhaseGainPpm / 100 - n * dhSimplexPhaseGainPpm / 200)
      1000000 := by
  have whole : ppm.toNat = 1000000 := by decide
  have hundred : (100 : UInt32).toNat = 100 := by decide
  have twoHundred : (200 : UInt32).toNat = 200 := by decide
  obtain ⟨nextRuns, nextBelow⟩ := add32_within i 1 21 1 (by omega) (by decide) (by omega)
  obtain ⟨levelRuns, levelBelow⟩ :=
    mul32_within (i + 1) dhSimplexPhaseGainPpm 22 10200 nextBelow (by decide) (by omega)
  obtain ⟨nodeRuns, nodeBelow⟩ :=
    mul32_within n dhSimplexPhaseGainPpm 11 10200 (by omega) (by decide) (by omega)
  have smaller : ((i + 1) * dhSimplexPhaseGainPpm / 100).toNat ≤ ppm.toNat := by
    rw [UInt32.toNat_div, hundred, whole]
    omega
  obtain ⟨outerRuns, outerBelow⟩ := sub32_within ppm _ 1000000 (by decide) smaller
  have left := sub32_exact ppm _ _ outerRuns
  simp only [checkedPhaseScalar, Option.bind_eq_bind, nextRuns, levelRuns, nodeRuns, outerRuns,
    Option.bind_some]
  apply sub32_within _ _ 1000000 outerBelow
  rw [UInt32.toNat_div, hundred] at left
  rw [UInt32.toNat_div, twoHundred]
  omega

theorem checkedNodeRetained_within (p : DuoPair) (base flags levelScalarPpm i n : UInt32)
    (ratio : base.toNat ≤ 120000) (scalar : levelScalarPpm.toNat ≤ 1000000)
    (level : i.toNat < 22) (inside : n.toNat < 12) :
    Within (checkedNodeRetained p base flags levelScalarPpm i n)
      (duoNodeRetained p base flags levelScalarPpm i n) 120000 := by
  refine ⟨?_, (duoNodeRetained_between p base flags levelScalarPpm i n).2⟩
  simp only [checkedNodeRetained, duoNodeRetained, dhMulPpm, dhMulQ16, dhClampU32,
    Option.bind_eq_bind]
  -- The ARM and the shaping stage, then the clamp.
  obtain ⟨armRuns, armBelow⟩ := checkedMulQ16_within base dhSimplexArmQ16 120000 77857 142561
    ratio (by decide) (by omega) (by omega)
  rw [armRuns, Option.bind_some]
  generalize mulQ16 base dhSimplexArmQ16 = v at armBelow ⊢
  obtain ⟨shapeRuns, _⟩ := checkedMulQ16_within v dhSimplexUScalarQ16 142561 114688 249482
    armBelow (by decide) (by omega) (by omega)
  rw [shapeRuns, Option.bind_some]
  have clamped := clampU32_le (mulQ16 v dhSimplexUScalarQ16) dhSimplexMinRetainedPpm
    dhSimplexMaxRetainedPpm (by decide)
  generalize clampU32 (mulQ16 v dhSimplexUScalarQ16) dhSimplexMinRetainedPpm
    dhSimplexMaxRetainedPpm = v at clamped ⊢
  -- The adder of the slot.
  have slot : (n % 4).toNat ≤ 3 := by simp; omega
  obtain ⟨stepRuns, stepBelow⟩ := mul32_within (n % 4) 1275 3 1275 slot (by decide) (by omega)
  rw [stepRuns, Option.bind_some]
  generalize n % 4 * 1275 = step at stepBelow ⊢
  obtain ⟨addRuns, addBelow⟩ := add32_within 10200 step 10200 3825 (by decide) stepBelow (by omega)
  rw [addRuns, Option.bind_some]
  generalize 10200 + step = addend at addBelow ⊢
  obtain ⟨adderRuns, adderBelow⟩ := checkedMulQ16_within addend dhSimplexAdderQ16 14025 27525 5890
    addBelow (by decide) (by omega) (by omega)
  rw [adderRuns, Option.bind_some]
  generalize mulQ16 addend dhSimplexAdderQ16 = addend at adderBelow ⊢
  obtain ⟨sumRuns, _⟩ := add32_within v addend 120000 5890 clamped adderBelow (by omega)
  rw [sumRuns, Option.bind_some]
  have clamped := clampU32_le (v + addend) dhSimplexMinRetainedPpm dhSimplexMaxRetainedPpm
    (by decide)
  generalize clampU32 (v + addend) dhSimplexMinRetainedPpm dhSimplexMaxRetainedPpm = v
    at clamped ⊢
  obtain ⟨modifierRuns, below⟩ := checkedMulQ16_within v dhSimplexModifierQ16 120000 67830 124201
    clamped (by decide) (by omega) (by omega)
  rw [modifierRuns, Option.bind_some]
  generalize mulQ16 v dhSimplexModifierQ16 = v at below ⊢
  -- The three scalars are at most one.
  obtain ⟨nodeRuns, nodeBelow⟩ := nodeScalar_within n inside
  rw [nodeRuns, Option.bind_some]
  generalize (if dawnhexSimplexNodesPerLevel > 1 then
    ppm - n * dhSimplexNodeGainPpm / (dawnhexSimplexNodesPerLevel - 1) else ppm) = nodeScalarPpm
    at nodeBelow ⊢
  obtain ⟨phaseRuns, phaseBelow⟩ := phaseScalar_within i n level inside
  rw [phaseRuns, Option.bind_some]
  generalize ppm - (i + 1) * dhSimplexPhaseGainPpm / 100 - n * dhSimplexPhaseGainPpm / 200 =
    phaseScalarPpm at phaseBelow ⊢
  obtain ⟨levelRuns, below⟩ := checked_shrink v levelScalarPpm 124201 below scalar (by omega)
  rw [levelRuns, Option.bind_some]
  generalize mulPpm v levelScalarPpm = v at below ⊢
  obtain ⟨scaleRuns, below⟩ := checked_shrink v nodeScalarPpm 124201 below nodeBelow (by omega)
  rw [scaleRuns, Option.bind_some]
  generalize mulPpm v nodeScalarPpm = v at below ⊢
  obtain ⟨scaleRuns, below⟩ := checked_shrink v phaseScalarPpm 124201 below phaseBelow (by omega)
  rw [scaleRuns, Option.bind_some]
  generalize mulPpm v phaseScalarPpm = v at below ⊢
  -- Refraction and quotient may enlarge the ratio, up to their own clamps.
  have refraction : (clampU32 p.refractionPpm 900000 1200000).toNat ≤ 1200000 :=
    clampU32_le p.refractionPpm 900000 1200000 (by decide)
  obtain ⟨biasRuns, below⟩ := checkedMulPpm_within v (clampU32 p.refractionPpm 900000 1200000)
    124201 1200000 149042 below refraction (by omega) (by omega)
  rw [biasRuns, Option.bind_some]
  generalize mulPpm v (clampU32 p.refractionPpm 900000 1200000) = v at below ⊢
  have quotient : (clampU32 p.quotientPpm 800000 1250000).toNat ≤ 1250000 :=
    clampU32_le p.quotientPpm 800000 1250000 (by decide)
  obtain ⟨biasRuns, below⟩ := checkedMulPpm_within v (clampU32 p.quotientPpm 800000 1250000)
    149042 1250000 186303 below quotient (by omega) (by omega)
  rw [biasRuns, Option.bind_some]
  generalize mulPpm v (clampU32 p.quotientPpm 800000 1250000) = v at below ⊢
  obtain ⟨tightRuns, below⟩ := checked_shrink_if (p.mode = dawnhexDuoCrossed) v 970000 186303
    below (by decide) (by omega)
  rw [tightRuns, Option.bind_some]
  generalize (if p.mode = dawnhexDuoCrossed then mulPpm v 970000 else v) = v at below ⊢
  obtain ⟨flagRuns, below⟩ := checked_shrink_if (flags &&& dhSimplexFlagSupercompute ≠ 0) v 940000
    186303 below (by decide) (by omega)
  rw [flagRuns, Option.bind_some]
  generalize (if flags &&& dhSimplexFlagSupercompute ≠ 0 then mulPpm v 940000 else v) = v
    at below ⊢
  obtain ⟨flagRuns, _⟩ := checked_shrink_if (flags &&& dhSimplexFlagChipRelay ≠ 0) v 980000
    186303 below (by decide) (by omega)
  rw [flagRuns, Option.bind_some]
  rfl

theorem checkedNodeCross_runs (p : DuoPair) (n : UInt32) :
    checkedNodeCross p n = some (duoNodeCross p n) := by
  simp only [checkedNodeCross, duoNodeCross, dhMulPpm, dhClampU32, Option.bind_eq_bind]
  have quotient := p.quotientPpm.toNat_lt
  have energy := p.energyPpm.toNat_lt
  have pressure := p.pressurePpm.toNat_lt
  have refraction : (clampU32 p.refractionPpm 0 1500000).toNat ≤ 1500000 :=
    clampU32_le p.refractionPpm 0 1500000 (by decide)
  obtain ⟨sumRuns, below⟩ := add32_within (p.quotientPpm / 3)
    (clampU32 p.refractionPpm 0 1500000 / 4) 1431655765 375000 (by simp; omega) (by simp; omega)
    (by omega)
  rw [sumRuns, Option.bind_some]
  generalize p.quotientPpm / 3 + clampU32 p.refractionPpm 0 1500000 / 4 = sum at below ⊢
  obtain ⟨sumRuns, below⟩ := add32_within sum (p.energyPpm / 5) 1432030765 858993459 below
    (by simp; omega) (by omega)
  rw [sumRuns, Option.bind_some]
  generalize sum + p.energyPpm / 5 = sum at below ⊢
  obtain ⟨sumRuns, below⟩ := add32_within sum (p.pressurePpm / 5) 2291024224 858993459 below
    (by simp; omega) (by omega)
  rw [sumRuns, Option.bind_some]
  generalize sum + p.pressurePpm / 5 = sum at below ⊢
  have slot : (n % 4).toNat ≤ 3 := by simp; omega
  obtain ⟨lossRuns, lossBelow⟩ := mul32_within (n % 4) 15000 3 15000 slot (by decide) (by omega)
  rw [lossRuns, Option.bind_some]
  generalize n % 4 * 15000 = loss at lossBelow ⊢
  have whole : ppm.toNat = 1000000 := by decide
  obtain ⟨scalarRuns, scalarBelow⟩ := sub32_within ppm loss 1000000 (by decide) (by omega)
  rw [scalarRuns, Option.bind_some]
  obtain ⟨scaleRuns, _⟩ := checked_shrink sum (ppm - loss) 3150017683 below scalarBelow (by omega)
  rw [scaleRuns, Option.bind_some]
  rfl

theorem checkedNodeCold_runs (p : DuoPair) (fibWeightPpm n : UInt32) (ratio : RatioPair p)
    (weight : fibWeightPpm.toNat ≤ 1000000) :
    checkedNodeCold p fibWeightPpm n = some (duoNodeCold p fibWeightPpm n) := by
  have energy := ratio.energy
  have pressure := ratio.pressure
  have whole : ppm.toNat = 1000000 := by decide
  simp only [checkedNodeCold, duoNodeCold, dhMulPpm, dhClampU32, Option.bind_eq_bind]
  obtain ⟨slackRuns, slackBelow⟩ := sub32_within ppm p.energyPpm 1000000 (by decide) (by omega)
  rw [slackRuns, Option.bind_some]
  generalize ppm - p.energyPpm = slack at slackBelow ⊢
  obtain ⟨coldRuns, below⟩ := add32_within (slack / 2) (p.pressurePpm / 2) 500000 500000
    (by simp; omega) (by simp; omega) (by omega)
  rw [coldRuns, Option.bind_some]
  generalize slack / 2 + p.pressurePpm / 2 = cold at below ⊢
  obtain ⟨weightRuns, weightBelow⟩ := add32_within ppm (fibWeightPpm / 8) 1000000 125000
    (by decide) (by simp; omega) (by omega)
  rw [weightRuns, Option.bind_some]
  generalize ppm + fibWeightPpm / 8 = scalar at weightBelow ⊢
  obtain ⟨coldRuns, below⟩ := checkedMulPpm_within cold scalar 1000000 1125000 1125000 below
    weightBelow (by omega) (by omega)
  rw [coldRuns, Option.bind_some]
  generalize mulPpm cold scalar = cold at below ⊢
  have lane : (n % 3).toNat ≤ 2 := by simp; omega
  obtain ⟨biasRuns, biasBelow⟩ := mul32_within (n % 3) 10000 2 10000 lane (by decide) (by omega)
  rw [biasRuns, Option.bind_some]
  generalize n % 3 * 10000 = bias at biasBelow ⊢
  obtain ⟨biasRuns, biasBelow⟩ := add32_within ppm bias 1000000 20000 (by decide) biasBelow
    (by omega)
  rw [biasRuns, Option.bind_some]
  generalize ppm + bias = bias at biasBelow ⊢
  obtain ⟨coldRuns, _⟩ := checkedMulPpm_within cold bias 1125000 1020000 1147500 below
    biasBelow (by omega) (by omega)
  rw [coldRuns, Option.bind_some]
  rfl

theorem checkedNode_runs (p : DuoPair) (base flags fibWeightPpm levelScalarPpm i n : UInt32)
    (ratio : RatioPair p) (small : base.toNat ≤ 120000) (weight : fibWeightPpm.toNat ≤ 1000000)
    (scalar : levelScalarPpm.toNat ≤ 1000000) (level : i.toNat < 22) (inside : n.toNat < 12) :
    checkedNode p base flags fibWeightPpm levelScalarPpm i n =
      some (duoNode p base flags fibWeightPpm levelScalarPpm i n) := by
  have retained := checkedNodeRetained_within p base flags levelScalarPpm i n small scalar level
    inside
  have energy := checkedMulQ16_within _ dhSimplexKnotQ16 120000 32086 120000 retained.below
    (by decide) (by omega) (by omega)
  simp only [checkedNode, duoNode, dhMulQ16, Option.bind_eq_bind]
  rw [retained.runs, Option.bind_some, checkedNodeCross_runs, Option.bind_some,
    checkedNodeCold_runs p fibWeightPpm n ratio weight, Option.bind_some, energy.runs,
    Option.bind_some]
  rfl

/-- Five accumulators after `count` readings of 32 bits. -/
structure SumsOf (count : Nat) (sums : Sums) : Prop where
  ret : sums.ret.toNat ≤ count * (2 ^ 32 - 1)
  red : sums.red.toNat ≤ count * (2 ^ 32 - 1)
  cross : sums.cross.toNat ≤ count * (2 ^ 32 - 1)
  cold : sums.cold.toNat ≤ count * (2 ^ 32 - 1)
  energy : sums.energy.toNat ≤ count * (2 ^ 32 - 1)

theorem sums_zero : SumsOf 0 Sums.zero := by
  constructor <;> simp [Sums.zero]

theorem add_reading (acc : UInt64) (reading : UInt32) (count : Nat) (few : count < 22)
    (below : acc.toNat ≤ count * (2 ^ 32 - 1)) :
    add64 acc reading.toUInt64 = some (acc + reading.toUInt64) ∧
      (acc + reading.toUInt64).toNat ≤ (count + 1) * (2 ^ 32 - 1) := by
  have small := reading.toNat_lt
  have runs := add64_runs acc reading.toUInt64 (by simp; omega)
  refine ⟨runs, ?_⟩
  rw [add64_exact _ _ _ runs, UInt32.toNat_toUInt64]
  omega

theorem checkedAddNode_runs (sums : Sums) (node : NodeOut) (count : Nat) (few : count < 22)
    (below : SumsOf count sums) (ratio : node.v.toNat ≤ 1000000) :
    checkedAddNode sums node = some (sums.addNode node) ∧
      SumsOf (count + 1) (sums.addNode node) := by
  have whole : ppm.toNat = 1000000 := by decide
  have reduction := sub32_within ppm node.v 1000000 (by decide) (by rw [whole]; exact ratio)
  have ret := add_reading sums.ret node.v count few below.ret
  have red := add_reading sums.red (ppm - node.v) count few below.red
  have cross := add_reading sums.cross node.crossPpm count few below.cross
  have cold := add_reading sums.cold node.coldPpm count few below.cold
  have energy := add_reading sums.energy node.energyPpm count few below.energy
  refine ⟨?_, ⟨ret.2, red.2, cross.2, cold.2, energy.2⟩⟩
  simp only [checkedAddNode, Option.bind_eq_bind]
  rw [ret.1, Option.bind_some, reduction.runs, Option.bind_some, red.1, Option.bind_some,
    cross.1, Option.bind_some, cold.1, Option.bind_some, energy.1, Option.bind_some]
  rfl

theorem checkedAddDuoLevel_runs (sums : Sums) (level : DuoSimplexLevel) (count : Nat)
    (few : count < 22) (below : SumsOf count sums) :
    checkedAddDuoLevel sums level = some (sums.addDuoLevel level) ∧
      SumsOf (count + 1) (sums.addDuoLevel level) := by
  have ret := add_reading sums.ret level.retainedPpm count few below.ret
  have red := add_reading sums.red level.reductionPpm count few below.red
  have cross := add_reading sums.cross level.crosshatchPpm count few below.cross
  have cold := add_reading sums.cold level.coldnessPpm count few below.cold
  have energy := add_reading sums.energy level.energyPpm count few below.energy
  refine ⟨?_, ⟨ret.2, red.2, cross.2, cold.2, energy.2⟩⟩
  simp only [checkedAddDuoLevel, Option.bind_eq_bind]
  rw [ret.1, Option.bind_some, red.1, Option.bind_some, cross.1, Option.bind_some, cold.1,
    Option.bind_some, energy.1, Option.bind_some]
  rfl

theorem checkedAverage_runs (total : UInt64) (count : UInt32)
    (below : total.toNat ≤ count.toNat * (2 ^ 32 - 1)) :
    checkedAverage total count = some (averageU32 total count) := by
  apply (narrow_within (total / count.toUInt64) (2 ^ 32 - 1) _ (by omega)).runs
  rw [UInt64.toNat_div, UInt32.toNat_toUInt64]
  exact Nat.div_le_of_le_mul below

theorem checkedLevelSums_runs (node : UInt32 → NodeOut) (checked : UInt32 → Option NodeOut)
    (succeeds : ∀ n : UInt32, n.toNat < 12 → checked n = some (node n))
    (ratio : ∀ n, (node n).v.toNat ≤ 1000000) :
    checkedLevelSums dawnhexSimplexNodesPerLevel checked =
        some (levelSums dawnhexSimplexNodesPerLevel node) ∧
      SumsOf 12 (levelSums dawnhexSimplexNodesPerLevel node) := by
  have twelve : dawnhexSimplexNodesPerLevel.toNat = 12 := by decide
  have turns := foldlM_checked
    (fun sums n => do
      let out ← checked (UInt32.ofNat n)
      checkedAddNode sums out)
    (fun sums n => sums.addNode (node (UInt32.ofNat n))) SumsOf 12 (List.range 12) 0 Sums.zero
    (by simp) sums_zero
  rw [List.length_range, Nat.zero_add] at turns
  rw [checkedLevelSums, levelSums, twelve]
  apply turns
  intro k sums n member few below
  have inside : (UInt32.ofNat n).toNat < 12 := by
    have := List.mem_range.mp member
    simp
    omega
  obtain ⟨runs, kept⟩ := checkedAddNode_runs sums (node (UInt32.ofNat n)) k (by omega) below
    (ratio _)
  exact ⟨by simp [succeeds _ inside, runs], kept⟩

theorem checkedBuild9Mips_runs (v : UInt32) (ratio : v.toNat ≤ 120000) :
    checkedBuild9Mips v = some (build9Mips v) := by
  rw [build9Mips_eq]
  apply mapM_checked
  intro weight member
  have heaviest : ∀ weight ∈ weightsPpm, weight.toNat ≤ 2400000 := by simp [weightsPpm]
  have product := checkedMulPpm_within v weight 120000 2400000 288000 ratio
    (heaviest weight member) (by omega) (by omega)
  simp [product.runs]

theorem checkedFibFrom_runs (n : Nat) (few : n ≤ 20) : checkedFibFrom n = some (fibFrom n) := by
  induction n with
  | zero => rfl
  | succ n ih =>
      obtain ⟨cells, total⟩ := fibFrom_spec n (by omega)
      have last : ((fibFrom n).1 (n + 2 - 1)).toNat = Nat.fib (n + 2) := cells (n + 1) (by omega)
      have prior : ((fibFrom n).1 (n + 2 - 2)).toNat = Nat.fib (n + 1) := cells n (by omega)
      have lastSmall := fib_small (n + 2) (by omega)
      have priorSmall := fib_small (n + 1) (by omega)
      have totalSmall := fib_small (n + 4) (by omega)
      obtain ⟨nextRuns, nextBelow⟩ := add32_within ((fibFrom n).1 (n + 2 - 1))
        ((fibFrom n).1 (n + 2 - 2)) 46368 46368 (by omega) (by omega) (by omega)
      have totalRuns := add64_runs (fibFrom n).2
        ((fibFrom n).1 (n + 2 - 1) + (fibFrom n).1 (n + 2 - 2)).toUInt64 (by
          rw [UInt32.toNat_toUInt64]
          omega)
      simp only [checkedFibFrom, Option.bind_eq_bind]
      rw [ih (by omega), Option.bind_some, nextRuns, Option.bind_some, totalRuns,
        Option.bind_some]
      rfl

/-- The weight of a level is a share of the whole. -/
theorem share_within (value : UInt32) (total : UInt64) (part : value.toNat ≤ total.toNat) :
    mul64 value.toUInt64 ppm.toUInt64 = some (value.toUInt64 * ppm.toUInt64) ∧
      Within (narrow (value.toUInt64 * ppm.toUInt64 / total))
        (value.toUInt64 * ppm.toUInt64 / total).toUInt32 1000000 := by
  have small := value.toNat_lt
  have whole : ppm.toUInt64.toNat = 1000000 := by decide
  have runs := mul64_runs value.toUInt64 ppm.toUInt64 (by
    rw [whole, UInt32.toNat_toUInt64]
    omega)
  refine ⟨runs, narrow_within _ 1000000 ?_ (by omega)⟩
  rw [UInt64.toNat_div, mul64_exact _ _ _ runs, whole, UInt32.toNat_toUInt64]
  exact Nat.div_le_of_le_mul (Nat.mul_le_mul_right 1000000 part)

theorem checkedLevel_runs (p : DuoPair) (base flags : UInt32) (fib : Nat → UInt32)
    (fibTotal : UInt64) (i : Nat) (ratio : RatioPair p) (small : base.toNat ≤ 120000)
    (inside : i < 22) (part : (fib i).toNat ≤ fibTotal.toNat) :
    checkedLevel p base flags fib fibTotal i = some (duoLevel p base flags fib fibTotal i) := by
  have twelve : dawnhexSimplexNodesPerLevel.toNat = 12 := by decide
  have whole : ppm.toNat = 1000000 := by decide
  have index : (UInt32.ofNat i).toNat < 22 := by simp; omega
  have mips := (duoLevel_band p base flags fib fibTotal i).retained_upper
  simp only [duoLevel] at mips
  simp only [checkedLevel, duoLevel, dhMulPpm, dhBuild9Mips, Option.bind_eq_bind] at mips ⊢
  obtain ⟨nextRuns, _⟩ := add32_within (UInt32.ofNat i) 1 21 1 (by omega) (by decide) (by omega)
  rw [nextRuns, Option.bind_some]
  obtain ⟨shareRuns, castRuns, weight⟩ := share_within (fib i) fibTotal part
  rw [shareRuns, Option.bind_some, castRuns, Option.bind_some]
  generalize ((fib i).toUInt64 * ppm.toUInt64 / fibTotal).toUInt32 = fibWeightPpm at mips weight ⊢
  obtain ⟨gainRuns, gainBelow⟩ := checkedMulPpm_within fibWeightPpm dhSimplexLevelGainPpm 1000000
    144000 144000 weight (by decide) (by omega) (by omega)
  rw [gainRuns, Option.bind_some]
  generalize mulPpm fibWeightPpm dhSimplexLevelGainPpm = gain at mips gainBelow ⊢
  obtain ⟨scalarRuns, scalar⟩ := sub32_within ppm gain 1000000 (by decide) (by omega)
  rw [scalarRuns, Option.bind_some]
  generalize ppm - gain = levelScalarPpm at mips scalar ⊢
  obtain ⟨sumsRuns, sums⟩ := checkedLevelSums_runs
    (duoNode p base flags fibWeightPpm levelScalarPpm (UInt32.ofNat i))
    (checkedNode p base flags fibWeightPpm levelScalarPpm (UInt32.ofNat i))
    (fun n few => checkedNode_runs p base flags fibWeightPpm levelScalarPpm (UInt32.ofNat i) n
      ratio small weight scalar index few)
    (fun n => (duoNodeRetained_between p base flags levelScalarPpm (UInt32.ofNat i) n).2.trans
      (by omega))
  rw [sumsRuns, Option.bind_some]
  generalize levelSums dawnhexSimplexNodesPerLevel
    (duoNode p base flags fibWeightPpm levelScalarPpm (UInt32.ofNat i)) = level at mips sums ⊢
  rw [checkedAverage_runs _ _ (twelve.symm ▸ sums.ret), Option.bind_some,
    checkedAverage_runs _ _ (twelve.symm ▸ sums.red), Option.bind_some,
    checkedAverage_runs _ _ (twelve.symm ▸ sums.cross), Option.bind_some,
    checkedAverage_runs _ _ (twelve.symm ▸ sums.cold), Option.bind_some,
    checkedAverage_runs _ _ (twelve.symm ▸ sums.energy), Option.bind_some,
    checkedBuild9Mips_runs _ mips, Option.bind_some]
  rfl

theorem fib_part (i : Nat) (inside : i < 22) :
    (dhFillFib22.1 i).toNat ≤ dhFillFib22.2.toNat ∧ dhFillFib22.2 ≠ 0 := by
  have cells : (dhFillFib22.1 i).toNat = Nat.fib (i + 1) := (fibFrom_spec 20 (by omega)).1 i
    (by omega)
  have total : dhFillFib22.2.toNat + 1 = Nat.fib 24 := (fibFrom_spec 20 (by omega)).2
  have below := Nat.fib_mono (show i + 1 ≤ 22 by omega)
  have last : Nat.fib 22 = 17711 := by decide
  have whole : Nat.fib 24 = 46368 := by decide
  refine ⟨by omega, ?_⟩
  intro none
  rw [none] at total
  simp at total
  omega

/-- For a pair whose energy and pressure are ratios no operation of the
recomputation wraps, whatever its mode, quotient and refraction. -/
theorem checkedRecompute_runs (p : DuoPair) (ratio : RatioPair p) :
    checkedRecomputeSimplex p = some (dhDuoRecomputeSimplexLocked p) := by
  have base : (dhDuoBaseRetainedPpmLocked p).toNat ≤ 120000 :=
    clampU32_le _ dhSimplexMinRetainedPpm dhSimplexMaxRetainedPpm (by decide)
  have filled : dhFillFib22.2 ≠ 0 := (fib_part 0 (by omega)).2
  have fibRuns : checkedFibFrom (dawnhexSimplexLevels - 2) = some dhFillFib22 :=
    checkedFibFrom_runs 20 (by omega)
  have levelsRun := mapM_checked
    (checkedLevel p (dhDuoBaseRetainedPpmLocked p)
      (dhSimplexFlagSupercompute ||| dhSimplexFlagChipRelay) dhFillFib22.1 dhFillFib22.2)
    (duoLevel p (dhDuoBaseRetainedPpmLocked p)
      (dhSimplexFlagSupercompute ||| dhSimplexFlagChipRelay) dhFillFib22.1 dhFillFib22.2)
    (List.range dawnhexSimplexLevels) (by
      intro i member
      have inside : i < 22 := List.mem_range.mp member
      exact checkedLevel_runs p _ _ _ _ i ratio base inside (fib_part i inside).1)
  obtain ⟨accRuns, sums⟩ := foldlM_checked checkedAddDuoLevel Sums.addDuoLevel SumsOf 22
    ((List.range dawnhexSimplexLevels).map
      (duoLevel p (dhDuoBaseRetainedPpmLocked p)
        (dhSimplexFlagSupercompute ||| dhSimplexFlagChipRelay) dhFillFib22.1 dhFillFib22.2))
    0 Sums.zero (by simp [dawnhexSimplexLevels]) sums_zero
    fun k s level _ few below => checkedAddDuoLevel_runs s level k few below
  have counted : (UInt32.ofNat dawnhexSimplexLevels).toNat = dawnhexSimplexLevels := by decide
  rw [List.length_map, List.length_range, Nat.zero_add] at sums
  simp only [checkedRecomputeSimplex, dhDuoRecomputeSimplexLocked, Option.bind_eq_bind]
  rw [checkedBaseRetained_runs p ratio, Option.bind_some, fibRuns, Option.bind_some,
    if_neg filled, levelsRun, Option.bind_some, accRuns, Option.bind_some]
  generalize List.foldl Sums.addDuoLevel Sums.zero _ = acc at sums ⊢
  rw [← counted] at sums
  rw [checkedAverage_runs _ _ sums.ret, Option.bind_some,
    checkedAverage_runs _ _ sums.red, Option.bind_some,
    checkedAverage_runs _ _ sums.cross, Option.bind_some,
    checkedAverage_runs _ _ sums.cold, Option.bind_some,
    checkedAverage_runs _ _ sums.energy, Option.bind_some]
  rfl

end RyzenBuild.Ladder
