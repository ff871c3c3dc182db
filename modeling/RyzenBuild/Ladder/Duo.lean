import RyzenBuild.Ladder.Arith

/-!
The Simplex/Fibonacci ladder cached in every duo pair of `dawnhex_kmod.c`:
base ratio, 22 levels of 12 nodes, nine mips a level, five level averages and
their averages over the ladder.
-/
namespace RyzenBuild.Ladder

def dawnhexSimplexLevels : Nat := 22
def dawnhexSimplexNodesPerLevel : UInt32 := 12
def dawnhexSimplexMips : Nat := 9

def dawnhexDuoInoutInoutOut : UInt32 := 1
def dawnhexDuoInoutInoutIn : UInt32 := 2
def dawnhexDuoCrossed : UInt32 := 3

def dhSimplexMinRetainedPpm : UInt32 := 10200
def dhSimplexMaxRetainedPpm : UInt32 := 120000
def dhSimplexLevelGainPpm : UInt32 := 144000
def dhSimplexNodeGainPpm : UInt32 := 21000
def dhSimplexPhaseGainPpm : UInt32 := 10200
def dhSimplexArmQ16 : UInt32 := 77857
def dhSimplexAdderQ16 : UInt32 := 27525
def dhSimplexModifierQ16 : UInt32 := 67830
def dhSimplexUScalarQ16 : UInt32 := 114688
def dhSimplexKnotQ16 : UInt32 := 32086
def dhSimplexFlagSupercompute : UInt32 := 0x1
def dhSimplexFlagChipRelay : UInt32 := 0x2

structure DuoSimplexLevel where
  levelIndex : UInt32
  fibValue : UInt32
  fibWeightPpm : UInt32
  nodeCount : UInt32
  retainedPpm : UInt32
  reductionPpm : UInt32
  crosshatchPpm : UInt32
  coldnessPpm : UInt32
  energyPpm : UInt32
  pressurePpm : UInt32
  mipRetainedPpm : List UInt32
  deriving DecidableEq, Repr

structure DuoSimplexState where
  levelCount : UInt32
  nodeCount : UInt32
  baseRetainedPpm : UInt32
  recursiveRetainedPpm : UInt32
  recursiveReductionPpm : UInt32
  recursiveCrosshatchPpm : UInt32
  recursiveColdnessPpm : UInt32
  recursiveEnergyPpm : UInt32
  flags : UInt32
  levels : List DuoSimplexLevel
  deriving DecidableEq, Repr

/-- The zeroed record `memset` leaves behind. -/
def DuoSimplexState.zero : DuoSimplexState :=
  ⟨0, 0, 0, 0, 0, 0, 0, 0, 0, []⟩

structure DuoPair where
  pairId : UInt32
  a : UInt32
  b : UInt32
  mode : UInt32
  active : Bool
  quotientPpm : UInt32
  refractionPpm : UInt32
  energyPpm : UInt32
  pressurePpm : UInt32
  pulses : UInt32
  lastValuePpm : UInt32
  simplex : DuoSimplexState
  deriving DecidableEq, Repr

def DuoPair.zero : DuoPair := ⟨0, 0, 0, 0, false, 0, 0, 0, 0, 0, 0, DuoSimplexState.zero⟩

def dhMulPpm : UInt32 → UInt32 → UInt32 := mulPpm
def dhMulQ16 : UInt32 → UInt32 → UInt32 := mulQ16
def dhClampU32 : UInt32 → UInt32 → UInt32 → UInt32 := clampU32
def dhBuild9Mips : UInt32 → List UInt32 := build9Mips
def dhFillFib22 : (Nat → UInt32) × UInt64 := fibFrom (dawnhexSimplexLevels - 2)

def dhDuoBaseRetainedPpmLocked (p : DuoPair) : UInt32 :=
  let base := dhSimplexMinRetainedPpm
  let base := base + (1000000 - p.energyPpm) / 20
  let base := base + p.pressurePpm / 25
  let base :=
    if p.mode = dawnhexDuoInoutInoutOut then dhMulPpm base 980000
    else if p.mode = dawnhexDuoInoutInoutIn then dhMulPpm base 1020000
    else if p.mode = dawnhexDuoCrossed then dhMulPpm base 960000
    else base
  dhClampU32 base dhSimplexMinRetainedPpm dhSimplexMaxRetainedPpm

/-- The retained ratio of node `n` on level `i`, from the base ratio through
the ARM, adder, modifier, shaping, bias and flag stages to the last clamp. -/
def duoNodeRetained (p : DuoPair) (base flags levelScalarPpm i n : UInt32) : UInt32 :=
  let slot := n % 4
  let v := base
  let v := dhMulQ16 v dhSimplexArmQ16
  let v := dhMulQ16 v dhSimplexUScalarQ16
  let v := dhClampU32 v dhSimplexMinRetainedPpm dhSimplexMaxRetainedPpm
  let addPpm := 10200 + slot * 1275
  let addPpm := dhMulQ16 addPpm dhSimplexAdderQ16
  let v := dhClampU32 (v + addPpm) dhSimplexMinRetainedPpm dhSimplexMaxRetainedPpm
  let v := dhMulQ16 v dhSimplexModifierQ16
  let nodeScalarPpm :=
    if dawnhexSimplexNodesPerLevel > 1 then
      ppm - n * dhSimplexNodeGainPpm / (dawnhexSimplexNodesPerLevel - 1)
    else ppm
  let phaseScalarPpm :=
    ppm - (i + 1) * dhSimplexPhaseGainPpm / 100 - n * dhSimplexPhaseGainPpm / 200
  let v := dhMulPpm v levelScalarPpm
  let v := dhMulPpm v nodeScalarPpm
  let v := dhMulPpm v phaseScalarPpm
  let v := dhMulPpm v (dhClampU32 p.refractionPpm 900000 1200000)
  let v := dhMulPpm v (dhClampU32 p.quotientPpm 800000 1250000)
  let v := if p.mode = dawnhexDuoCrossed then dhMulPpm v 970000 else v
  let v := if flags &&& dhSimplexFlagSupercompute ≠ 0 then dhMulPpm v 940000 else v
  let v := if flags &&& dhSimplexFlagChipRelay ≠ 0 then dhMulPpm v 980000 else v
  dhClampU32 v dhSimplexMinRetainedPpm dhSimplexMaxRetainedPpm

def duoNodeCross (p : DuoPair) (n : UInt32) : UInt32 :=
  let slot := n % 4
  let crossPpm := p.quotientPpm / 3
  let crossPpm := crossPpm + dhClampU32 p.refractionPpm 0 1500000 / 4
  let crossPpm := crossPpm + p.energyPpm / 5
  let crossPpm := crossPpm + p.pressurePpm / 5
  let crossPpm := dhMulPpm crossPpm (ppm - slot * 15000)
  dhClampU32 crossPpm 0 ppm

def duoNodeCold (p : DuoPair) (fibWeightPpm n : UInt32) : UInt32 :=
  let lane := n % 3
  let coldPpm := (ppm - p.energyPpm) / 2 + p.pressurePpm / 2
  let coldPpm := dhMulPpm coldPpm (ppm + fibWeightPpm / 8)
  let coldPpm := dhMulPpm coldPpm (ppm + lane * 10000)
  dhClampU32 coldPpm 0 ppm

def duoNode (p : DuoPair) (base flags fibWeightPpm levelScalarPpm i n : UInt32) : NodeOut :=
  let v := duoNodeRetained p base flags levelScalarPpm i n
  { v := v
    crossPpm := duoNodeCross p n
    coldPpm := duoNodeCold p fibWeightPpm n
    energyPpm := dhMulQ16 v dhSimplexKnotQ16 }

/-- One turn of the level loop. -/
def duoLevel (p : DuoPair) (base flags : UInt32) (fib : Nat → UInt32) (fibTotal : UInt64)
    (i : Nat) : DuoSimplexLevel :=
  let index := UInt32.ofNat i
  let fibWeightPpm := ((fib i).toUInt64 * ppm.toUInt64 / fibTotal).toUInt32
  let levelScalarPpm := ppm - dhMulPpm fibWeightPpm dhSimplexLevelGainPpm
  let sums := levelSums dawnhexSimplexNodesPerLevel
    (duoNode p base flags fibWeightPpm levelScalarPpm index)
  let retainedPpm := averageU32 sums.ret dawnhexSimplexNodesPerLevel
  { levelIndex := index + 1
    fibValue := fib i
    fibWeightPpm := fibWeightPpm
    nodeCount := dawnhexSimplexNodesPerLevel
    retainedPpm := retainedPpm
    reductionPpm := averageU32 sums.red dawnhexSimplexNodesPerLevel
    crosshatchPpm := averageU32 sums.cross dawnhexSimplexNodesPerLevel
    coldnessPpm := averageU32 sums.cold dawnhexSimplexNodesPerLevel
    energyPpm := averageU32 sums.energy dawnhexSimplexNodesPerLevel
    pressurePpm := p.pressurePpm
    mipRetainedPpm := dhBuild9Mips retainedPpm }

def Sums.addDuoLevel (sums : Sums) (level : DuoSimplexLevel) : Sums :=
  { ret := sums.ret + level.retainedPpm.toUInt64
    red := sums.red + level.reductionPpm.toUInt64
    cross := sums.cross + level.crosshatchPpm.toUInt64
    cold := sums.cold + level.coldnessPpm.toUInt64
    energy := sums.energy + level.energyPpm.toUInt64 }

def dhDuoRecomputeSimplexLocked (p : DuoPair) : DuoPair :=
  let flags := dhSimplexFlagSupercompute ||| dhSimplexFlagChipRelay
  let base := dhDuoBaseRetainedPpmLocked p
  let (fib, fibTotal) := dhFillFib22
  -- The guard of the source; the total of 22 values is not zero.
  let fibTotal := if fibTotal = 0 then 1 else fibTotal
  let levels := (List.range dawnhexSimplexLevels).map (duoLevel p base flags fib fibTotal)
  let acc := levels.foldl Sums.addDuoLevel Sums.zero
  let count := UInt32.ofNat dawnhexSimplexLevels
  { p with
    simplex :=
      { levelCount := count
        nodeCount := dawnhexSimplexNodesPerLevel
        baseRetainedPpm := base
        recursiveRetainedPpm := averageU32 acc.ret count
        recursiveReductionPpm := averageU32 acc.red count
        recursiveCrosshatchPpm := averageU32 acc.cross count
        recursiveColdnessPpm := averageU32 acc.cold count
        recursiveEnergyPpm := averageU32 acc.energy count
        flags := flags
        levels := levels } }

/-- What every level of a ladder satisfies, whatever the pair. -/
structure LevelBand (level : DuoSimplexLevel) : Prop where
  retained_lower : 10200 ≤ level.retainedPpm.toNat
  retained_upper : level.retainedPpm.toNat ≤ 120000
  complement : level.retainedPpm.toNat + level.reductionPpm.toNat = 1000000 ∨
    level.retainedPpm.toNat + level.reductionPpm.toNat = 999999
  crosshatch : level.crosshatchPpm.toNat ≤ 1000000
  coldness : level.coldnessPpm.toNat ≤ 1000000
  mip_count : level.mipRetainedPpm.length = dawnhexSimplexMips
  mip_band : ∀ mip ∈ level.mipRetainedPpm, 1000 ≤ mip.toNat ∧ mip.toNat ≤ 1000000
  mip_falls : level.mipRetainedPpm.Pairwise fun upper lower => lower.toNat ≤ upper.toNat

theorem duoNodeRetained_between (p : DuoPair) (base flags levelScalarPpm i n : UInt32) :
    10200 ≤ (duoNodeRetained p base flags levelScalarPpm i n).toNat ∧
      (duoNodeRetained p base flags levelScalarPpm i n).toNat ≤ 120000 :=
  clampU32_between _ dhSimplexMinRetainedPpm dhSimplexMaxRetainedPpm (by decide)

/-- The clamps at the end of every node make the band independent of what the
stages before them computed. -/
theorem duoLevel_band (p : DuoPair) (base flags : UInt32) (fib : Nat → UInt32)
    (fibTotal : UInt64) (i : Nat) : LevelBand (duoLevel p base flags fib fibTotal i) := by
  have positive : 0 < dawnhexSimplexNodesPerLevel.toNat := by decide
  simp only [duoLevel, levelSums_eq, duoNode]
  have upper := averageU32_le dawnhexSimplexNodesPerLevel _ 120000 positive
    (fun n => (duoNodeRetained_between p base flags
      (ppm - dhMulPpm ((fib i).toUInt64 * ppm.toUInt64 / fibTotal).toUInt32 dhSimplexLevelGainPpm)
      (UInt32.ofNat i) (UInt32.ofNat n)).2)
  exact
    { retained_lower := le_averageU32 _ _ _ positive fun n =>
        (duoNodeRetained_between p base flags _ _ _).1
      retained_upper := upper
      complement := retained_reduction _ _ positive fun n _ =>
        (duoNodeRetained_between p base flags _ _ _).2.trans (by decide)
      crosshatch := averageU32_le _ _ _ positive fun n => clampU32_le_ppm _
      coldness := averageU32_le _ _ _ positive fun n => clampU32_le_ppm _
      mip_count := rfl
      mip_band := fun mip member => build9Mips_between _ mip member
      mip_falls := build9Mips_falls _ (upper.trans (by decide)) }

theorem recompute_levels (p : DuoPair) :
    (dhDuoRecomputeSimplexLocked p).simplex.levels.length = dawnhexSimplexLevels := by
  simp [dhDuoRecomputeSimplexLocked]

theorem recompute_band (p : DuoPair) (level : DuoSimplexLevel)
    (member : level ∈ (dhDuoRecomputeSimplexLocked p).simplex.levels) : LevelBand level := by
  obtain ⟨i, _, rfl⟩ := List.mem_map.mp member
  exact duoLevel_band p _ _ _ _ i

/-- The ladder is a function of five fields of the pair. -/
theorem recompute_congr (p q : DuoPair) (mode : p.mode = q.mode)
    (quotient : p.quotientPpm = q.quotientPpm) (refraction : p.refractionPpm = q.refractionPpm)
    (energy : p.energyPpm = q.energyPpm) (pressure : p.pressurePpm = q.pressurePpm) :
    (dhDuoRecomputeSimplexLocked p).simplex = (dhDuoRecomputeSimplexLocked q).simplex := by
  have base : dhDuoBaseRetainedPpmLocked p = dhDuoBaseRetainedPpmLocked q := by
    simp only [dhDuoBaseRetainedPpmLocked, mode, energy, pressure]
  have level : duoLevel p = duoLevel q := by
    funext base flags fib fibTotal i
    have node : duoNode p = duoNode q := by
      funext base flags fibWeightPpm levelScalarPpm i n
      simp only [duoNode, duoNodeRetained, duoNodeCross, duoNodeCold, mode, quotient,
        refraction, energy, pressure]
    simp only [duoLevel, node, pressure]
  simp only [dhDuoRecomputeSimplexLocked, base, level]

end RyzenBuild.Ladder
