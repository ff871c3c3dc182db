import RyzenBuild.Kernel
import RyzenBuild.Ladder.Arith

/-!
The ladder of `simplex_adalter_kmod.c`. Unlike the duo ladder its ratios,
gains and multipliers come from user space: `SET_CFG` checks the version and
the two counts, and every other field enters the computation as it is.
-/
namespace RyzenBuild.Ladder

open Kernel FixedPoint

def simplexAdalterMaxLevels : UInt32 := 22
def simplexAdalterNodesPerLevel : UInt32 := 12
def simplexAdalterKeyLen : Nat := 128
def simplexFlagSupercompute : UInt32 := 0x1
def simplexFlagChipRelay : UInt32 := 0x2

structure SimplexAdalterCfg where
  version : UInt32
  recursionLevels : UInt32
  nodesPerLevel : UInt32
  minRetainedPpm : UInt32
  maxRetainedPpm : UInt32
  levelGainPpm : UInt32
  nodeGainPpm : UInt32
  phaseGainPpm : UInt32
  armQ16 : UInt32
  adderQ16 : UInt32
  modifierQ16 : UInt32
  uScalarQ16 : UInt32
  knotQ16 : UInt32
  flags : UInt32
  deriving DecidableEq, Repr

structure SimplexAdalterBase where
  key : List UInt8
  finalBase : UInt32
  retainedPpm : UInt32
  crosshatchPpm : UInt32
  coldnessPpm : UInt32
  deriving DecidableEq, Repr

structure SimplexAdalterLevel where
  levelIndex : UInt32
  fibValue : UInt32
  fibWeightPpm : UInt32
  retainedPpm : UInt32
  reductionPpm : UInt32
  crosshatchPpm : UInt32
  coldnessPpm : UInt32
  energyPpm : UInt32
  mipRetainedPpm : List UInt32
  deriving DecidableEq, Repr

/-- `levels` holds the first `recursionLevels` cells of the report's array;
`memset` leaves the cells behind them zero and nothing reads them. -/
structure SimplexAdalterReport where
  key : List UInt8
  finalBase : UInt32
  averageRetainedPpm : UInt32
  averageReductionPpm : UInt32
  averageCrosshatchPpm : UInt32
  averageColdnessPpm : UInt32
  recursiveEnergyPpm : UInt32
  recursionLevels : UInt32
  nodesPerLevel : UInt32
  levels : List SimplexAdalterLevel
  deriving DecidableEq, Repr

structure SimplexAdalterState where
  cfg : SimplexAdalterCfg
  base : SimplexAdalterBase
  report : SimplexAdalterReport
  deriving DecidableEq, Repr

def saMulPpm : UInt32 → UInt32 → UInt32 := mulPpm
def saMulQ16 : UInt32 → UInt32 → UInt32 := mulQ16
def saClampU32 : UInt32 → UInt32 → UInt32 → UInt32 := clampU32
def saBuild9Mips : UInt32 → List UInt32 := build9Mips

def saFillFib (count : UInt32) : (Nat → UInt32) × UInt64 :=
  if count = 0 then (fun _ => 0, 0)
  else if count = 1 then (fun i => if i = 0 then 1 else 0, 1)
  else fibFrom (count.toNat - 2)

/-- The Fibonacci values of a ladder with their total, guarded against zero. -/
def saFib (levels : UInt32) : (Nat → UInt32) × UInt64 :=
  let (fib, fibTotal) := saFillFib levels
  (fib, if fibTotal = 0 then 1 else fibTotal)

/-- Node `n` of level `i` up to the last clamp. -/
def saNodeShaped (cfg : SimplexAdalterCfg) (base : SimplexAdalterBase)
    (nodes levelScalarPpm i n : UInt32) : UInt32 :=
  let slot := n % 4
  let v := base.retainedPpm
  let v := saMulQ16 v cfg.armQ16
  let v := saMulQ16 v cfg.uScalarQ16
  let v := saClampU32 v cfg.minRetainedPpm cfg.maxRetainedPpm
  let addPpm := 10200 + slot * 1275
  let addPpm := saMulQ16 addPpm cfg.adderQ16
  let v := saClampU32 (v + addPpm) cfg.minRetainedPpm cfg.maxRetainedPpm
  let v := saMulQ16 v cfg.modifierQ16
  let nodeScalarPpm := if nodes > 1 then ppm - n * cfg.nodeGainPpm / (nodes - 1) else ppm
  let phaseScalarPpm := ppm - (i + 1) * cfg.phaseGainPpm / 100 - n * cfg.phaseGainPpm / 200
  let v := saMulPpm v levelScalarPpm
  let v := saMulPpm v nodeScalarPpm
  let v := saMulPpm v phaseScalarPpm
  let v := if cfg.flags &&& simplexFlagSupercompute ≠ 0 then saMulPpm v 940000 else v
  if cfg.flags &&& simplexFlagChipRelay ≠ 0 then saMulPpm v 980000 else v

def saNodeRetained (cfg : SimplexAdalterCfg) (base : SimplexAdalterBase)
    (nodes levelScalarPpm i n : UInt32) : UInt32 :=
  saClampU32 (saNodeShaped cfg base nodes levelScalarPpm i n)
    cfg.minRetainedPpm cfg.maxRetainedPpm

-- The products with 120000 and 180000 are 32-bit products, as in the source.
def saNodeCross (base : SimplexAdalterBase) (fibWeightPpm n : UInt32) : UInt32 :=
  let slot := n % 4
  let crossPpm := base.crosshatchPpm
  let crossPpm := saMulPpm crossPpm (ppm + fibWeightPpm * 120000 / ppm)
  let crossPpm := saMulPpm crossPpm (ppm - slot * 15000)
  saClampU32 crossPpm 0 ppm

def saNodeCold (base : SimplexAdalterBase) (fibWeightPpm n : UInt32) : UInt32 :=
  let lane := n % 3
  let coldPpm := base.coldnessPpm
  let coldPpm := saMulPpm coldPpm (ppm + fibWeightPpm * 180000 / ppm)
  let coldPpm := saMulPpm coldPpm (ppm + lane * 10000)
  saClampU32 coldPpm 0 ppm

def saNode (cfg : SimplexAdalterCfg) (base : SimplexAdalterBase)
    (nodes fibWeightPpm levelScalarPpm i n : UInt32) : NodeOut :=
  let v := saNodeRetained cfg base nodes levelScalarPpm i n
  { v := v
    crossPpm := saNodeCross base fibWeightPpm n
    coldPpm := saNodeCold base fibWeightPpm n
    energyPpm := saMulQ16 v cfg.knotQ16 }

def saFibWeightPpm (levels : UInt32) (i : Nat) : UInt32 :=
  (((saFib levels).1 i).toUInt64 * ppm.toUInt64 / (saFib levels).2).toUInt32

def saLevelScalarPpm (cfg : SimplexAdalterCfg) (fibWeightPpm : UInt32) : UInt32 :=
  ppm - saMulPpm fibWeightPpm cfg.levelGainPpm

/-- One turn of the level loop. -/
def saLevel (cfg : SimplexAdalterCfg) (base : SimplexAdalterBase) (levels nodes : UInt32)
    (i : Nat) : SimplexAdalterLevel :=
  let index := UInt32.ofNat i
  let fibWeightPpm := saFibWeightPpm levels i
  let sums := levelSums nodes
    (saNode cfg base nodes fibWeightPpm (saLevelScalarPpm cfg fibWeightPpm) index)
  let retainedPpm := averageU32 sums.ret nodes
  { levelIndex := index + 1
    fibValue := (saFib levels).1 i
    fibWeightPpm := fibWeightPpm
    retainedPpm := retainedPpm
    reductionPpm := averageU32 sums.red nodes
    crosshatchPpm := averageU32 sums.cross nodes
    coldnessPpm := averageU32 sums.cold nodes
    energyPpm := averageU32 sums.energy nodes
    mipRetainedPpm := saBuild9Mips retainedPpm }

def Sums.addSimplexLevel (sums : Sums) (level : SimplexAdalterLevel) : Sums :=
  { ret := sums.ret + level.retainedPpm.toUInt64
    red := sums.red + level.reductionPpm.toUInt64
    cross := sums.cross + level.crosshatchPpm.toUInt64
    cold := sums.cold + level.coldnessPpm.toUInt64
    energy := sums.energy + level.energyPpm.toUInt64 }

def saLevelCount (cfg : SimplexAdalterCfg) : UInt32 :=
  let levels := if cfg.recursionLevels = 0 then 22 else cfg.recursionLevels
  if levels > simplexAdalterMaxLevels then simplexAdalterMaxLevels else levels

def saNodeCount (cfg : SimplexAdalterCfg) : UInt32 :=
  let nodes := if cfg.nodesPerLevel = 0 then 12 else cfg.nodesPerLevel
  if nodes > simplexAdalterNodesPerLevel then simplexAdalterNodesPerLevel else nodes

def saRecomputeLocked (st : SimplexAdalterState) : SimplexAdalterState :=
  let levels := saLevelCount st.cfg
  let nodes := saNodeCount st.cfg
  let built := (List.range levels.toNat).map (saLevel st.cfg st.base levels nodes)
  let acc := built.foldl Sums.addSimplexLevel Sums.zero
  { st with
    report :=
      { key := strscpy simplexAdalterKeyLen st.base.key
        finalBase := st.base.finalBase
        averageRetainedPpm := averageU32 acc.ret levels
        averageReductionPpm := averageU32 acc.red levels
        averageCrosshatchPpm := averageU32 acc.cross levels
        averageColdnessPpm := averageU32 acc.cold levels
        recursiveEnergyPpm := averageU32 acc.energy levels
        recursionLevels := levels
        nodesPerLevel := nodes
        levels := built } }

/-- The configuration `simplex_init` builds from the module parameters'
defaults, both switches on. -/
def simplexInitCfg : SimplexAdalterCfg :=
  { version := 1, recursionLevels := 22, nodesPerLevel := 12
    minRetainedPpm := 10200, maxRetainedPpm := 120000
    levelGainPpm := 144000, nodeGainPpm := 21000, phaseGainPpm := 10200
    armQ16 := 77857, adderQ16 := 27525, modifierQ16 := 67830, uScalarQ16 := 114688
    knotQ16 := 32086, flags := simplexFlagSupercompute ||| simplexFlagChipRelay }

def simplexInitBase : SimplexAdalterBase :=
  { key := text "DAWNSTAR:page-0001", finalBase := 0x0F210144, retainedPpm := 10200
    crosshatchPpm := 812500, coldnessPpm := 904400 }

/-- The state in which `simplex_init` queues the first recomputation. -/
def simplexInit : SimplexAdalterState :=
  { cfg := simplexInitCfg
    base := simplexInitBase
    report := ⟨[], 0, 0, 0, 0, 0, 0, 0, 0, []⟩ }

/-- `SIMPLEX_ADALTER_IOC_SET_CFG` after the copy from user space. -/
def simplexIoctlSetCfg (st : SimplexAdalterState) (cfg : SimplexAdalterCfg) :
    Except Errno SimplexAdalterState :=
  if cfg.version ≠ 1 then .error .einval
  else if cfg.recursionLevels = 0 ∨ cfg.recursionLevels > simplexAdalterMaxLevels then
    .error .einval
  else if cfg.nodesPerLevel = 0 ∨ cfg.nodesPerLevel > simplexAdalterNodesPerLevel then
    .error .einval
  else .ok { st with cfg := cfg }

/-- `SIMPLEX_ADALTER_IOC_RUN_BASE` after the copy from user space. -/
def simplexIoctlRunBase (st : SimplexAdalterState) (base : SimplexAdalterBase) :
    SimplexAdalterState :=
  { st with base := { base with key := base.key.set (simplexAdalterKeyLen - 1) 0 } }

end RyzenBuild.Ladder
