import RyzenBuild.Lib.Rounding
import Mathlib.Data.Rat.Floor

/-!
`dawnstar_ryzen_stack.cpp`: the scores, the compression profile, the metronome,
the pyramid of mip levels and the manifest. A `double` is an exact rational, and
the sine of the metronome is whatever function it is given.
-/
namespace RyzenBuild.Dawnstar

open Rounding

def clamp (value lo hi : ℚ) : ℚ := max lo (min hi value)

def roundTo (value : ℚ) (digits : Nat) : ℚ :=
  let p : ℚ := 10 ^ digits
  roundAway (value * p) / p

def avg (v : List ℚ) : ℚ := if v = [] then 0 else v.sum / v.length

structure MeshStatus where
  delivered : Bool
  hops : Int

/-- `strongestElements` lists the energies, `broadband` the utilizations. -/
structure DawnstarFrame where
  totalEnergy : ℚ
  strongestElements : List ℚ
  broadband : List ℚ
  mesh : MeshStatus
  mode : String
  targetAngleDeg : ℚ
  timestamp : ℚ

structure DawnstarHealthReport where
  averageTemperatureC : ℚ
  averageHealth : ℚ
  foldsActive : Int

structure PerformanceScores where
  signal : ℚ
  health : ℚ
  thermal : ℚ
  mesh : ℚ
  broadband : ℚ
  foldActivity : ℚ
  total : ℚ

structure CompressionProfile where
  scores : PerformanceScores
  retainedRatio : ℚ
  reductionRatio : ℚ
  compressionFactor : ℚ

section Engine

variable (frame : DawnstarFrame) (healthReport : DawnstarHealthReport)

def strongestEnergyMean : ℚ := avg frame.strongestElements

def broadbandUtilizationScore : ℚ :=
  if frame.broadband = [] then 0.5
  else
    let mean := avg frame.broadband
    let spreadPenalty := (frame.broadband.map fun v => |v - mean|).sum
    let spreadPenalty := spreadPenalty / frame.broadband.length
    let score := 1 - |mean - 0.55| / 0.55
    clamp (score - spreadPenalty * 0.5) 0 1

def meshScore : ℚ :=
  let score := if frame.mesh.delivered then 0.55 else 0
  clamp (score + clamp (frame.mesh.hops / 16) 0 0.45) 0 1

def thermalScore : ℚ :=
  let t := healthReport.averageTemperatureC
  if t ≤ 35 then 1
  else if t ≤ 45 then 0.88
  else if t ≤ 55 then 0.68
  else if t ≤ 65 then 0.42
  else 0.18

def healthScore : ℚ := clamp healthReport.averageHealth 0 1

def foldActivityScore : ℚ := clamp (healthReport.foldsActive / 21) 0 1

def signalScore : ℚ :=
  let energyComponent := clamp (frame.totalEnergy / 80) 0 1
  let strongestComponent := clamp (strongestEnergyMean frame / 1.25) 0 1
  clamp (energyComponent * 0.6 + strongestComponent * 0.4) 0 1

def platformScore : PerformanceScores :=
  let signal := roundTo (signalScore frame) 4
  let health := roundTo (healthScore healthReport) 4
  let thermal := roundTo (thermalScore healthReport) 4
  let mesh := roundTo (meshScore frame) 4
  let broadband := roundTo (broadbandUtilizationScore frame) 4
  let foldActivity := roundTo (foldActivityScore healthReport) 4
  let total := signal * 0.24 + health * 0.18 + thermal * 0.12 + mesh * 0.16 +
    broadband * 0.14 + foldActivity * 0.16
  { signal, health, thermal, mesh, broadband, foldActivity
    total := roundTo (clamp total 0 1) 4 }

def compressionProfile (minRetainedRatio maxRetainedRatio : ℚ) (aggressiveWhenHealthy : Bool) :
    CompressionProfile :=
  let scores := platformScore frame healthReport
  let total := clamp scores.total 0 1
  let retainedRatio :=
    if aggressiveWhenHealthy then maxRetainedRatio - (maxRetainedRatio - minRetainedRatio) * total
    else minRetainedRatio + (maxRetainedRatio - minRetainedRatio) * total
  let retainedRatio := clamp retainedRatio minRetainedRatio maxRetainedRatio
  { scores
    retainedRatio := roundTo retainedRatio 6
    reductionRatio := roundTo (1 - retainedRatio) 6
    compressionFactor := roundTo (1 / retainedRatio) 4 }

end Engine

def mPi : ℚ := 3.14159265358979323846

structure MetronomeConfig where
  hz : ℚ
  adder : ℚ
  phase : ℚ
  enabled : Bool

namespace MetronomeConfig

def tick (m : MetronomeConfig) (dt : ℚ) : MetronomeConfig :=
  if !m.enabled then m
  else { m with phase := wrap (m.phase + dt * m.hz * m.adder * 2 * mPi) (2 * mPi) }

def pulse01 (m : MetronomeConfig) (sin : ℚ → ℚ) : ℚ :=
  if !m.enabled then 0.5 else 0.5 + 0.5 * sin m.phase

end MetronomeConfig

def minU32 (a b : UInt32) : UInt32 := if b < a then b else a

def maxU32 (a b : UInt32) : UInt32 := if a < b then b else a

structure GpuAccelPolicy where
  enabled : Bool
  fixedPerformance : Bool
  perfLevel : String
  overdrivePct : UInt32
  uScalar : ℚ
  supercomputeSwitcher : Bool
  chipRelay : Bool
  metronomeBoost : Bool

def GpuAccelPolicy.normalize (gpu : GpuAccelPolicy) : GpuAccelPolicy :=
  { gpu with
    overdrivePct := minU32 gpu.overdrivePct 20
    uScalar := clamp gpu.uScalar 0.125 16
    perfLevel := if gpu.perfLevel = "" then "manual" else gpu.perfLevel }

inductive DsCompressionMode where
  | lossless
  | lossyQ8
  | lossyQ4
  | featureMap
  deriving DecidableEq

def DsCompressionMode.toUInt32 : DsCompressionMode → UInt32
  | .lossless => 0
  | .lossyQ8 => 1
  | .lossyQ4 => 2
  | .featureMap => 3

structure StackConfig where
  width : UInt32
  height : UInt32
  tileSize : UInt32
  bytesPerElement : UInt32
  mode : DsCompressionMode
  minRetainedRatio : ℚ
  maxRetainedRatio : ℚ
  aggressiveWhenHealthy : Bool
  srcGpuAddr : UInt64
  srcBytes : UInt64
  metronome : MetronomeConfig
  gpu : GpuAccelPolicy

structure MipLevelDesc where
  level : UInt32
  width : UInt32
  height : UInt32
  stride : UInt32
  gpuAddr : UInt64
  bytesIn : UInt64
  bytesOut : UInt64
  tileSize : UInt32
  quantBits : UInt32
  checksum32 : UInt32
  flags : UInt32

structure PyramidDesc where
  version : UInt32
  levels : UInt32
  mode : UInt32
  srcGpuAddr : UInt64
  srcBytes : UInt64
  totalOutBytes : UInt64
  targetRatio : ℚ
  mip : List MipLevelDesc

section Levels

def quantBitsForLevel (level : Nat) (mode : DsCompressionMode) : UInt32 :=
  match mode with
  | .lossless => 16
  | .lossyQ8 => [8, 8, 8, 6, 6, 4, 4, 3, 2].getD level 0
  | .featureMap | .lossyQ4 => [8, 8, 6, 6, 4, 4, 3, 2, 1].getD level 0

def buildFlagsForLevel (level : Nat) : UInt32 :=
  let flags : UInt32 := 0
  let flags := if level ≥ 5 then flags ||| 0x01 else flags
  let flags := if level ≤ 3 then flags ||| 0x02 else flags
  if level % 2 = 0 then flags ||| 0x04 else flags

def simpleChecksum (a b c : UInt32) (d : UInt64) (e : UInt32) : UInt32 :=
  let mix (x word salt : UInt64) : UInt64 := x ^^^ (word + salt + (x <<< 6) + (x >>> 2))
  let x := mix 0x9E3779B97F4A7C15 a.toUInt64 0x9E37
  let x := mix x b.toUInt64 0x85EB
  let x := mix x c.toUInt64 0xC2B2
  let x := mix x d 0x27D4
  let x := mix x e.toUInt64 0x1656
  ((x >>> 32) ^^^ (x &&& 0xffffffff)).toUInt32

/-- One turn of the loop of `buildPyramid`. -/
def mipLevel (cfg : StackConfig) (i : Nat) (retained : ℚ) (w h : UInt32) : MipLevelDesc :=
  let level := UInt32.ofNat i
  let width := maxU32 1 w
  let height := maxU32 1 h
  let bytesIn := width.toUInt64 * height.toUInt64 * cfg.bytesPerElement.toUInt64
  let bytesOut := UInt64.ofNat (max 1 (roundAway (bytesIn.toNat * retained))).toNat
  let quantBits := quantBitsForLevel i cfg.mode
  { level, width, height
    stride := maxU32 1 (w * cfg.bytesPerElement)
    gpuAddr := cfg.srcGpuAddr + UInt64.ofNat i * 0x100000
    bytesIn, bytesOut
    tileSize := cfg.tileSize
    quantBits
    checksum32 := simpleChecksum level width height bytesOut quantBits
    flags := buildFlagsForLevel i }

/-- The levels from the `i`-th on, one for each ratio. -/
def mipLevels (cfg : StackConfig) (i : Nat) (retained : List ℚ) (w h : UInt32) :
    List MipLevelDesc :=
  match retained with
  | [] => []
  | ratio :: rest =>
      mipLevel cfg i ratio w h :: mipLevels cfg (i + 1) rest (maxU32 1 (w >>> 1)) (maxU32 1 (h >>> 1))

/-- What `buildPyramid` makes of a retained profile. -/
def pyramidOf (cfg : StackConfig) (retained : List ℚ) : PyramidDesc :=
  let mip := mipLevels cfg 0 retained cfg.width cfg.height
  let totalOut := mip.foldl (fun total m => total + m.bytesOut) 0
  { version := 1
    levels := 9
    mode := cfg.mode.toUInt32
    srcGpuAddr := cfg.srcGpuAddr
    srcBytes := cfg.srcBytes
    totalOutBytes := totalOut
    targetRatio := clamp ((totalOut.toNat : ℚ) / (max 1 cfg.srcBytes.toNat : Nat)) 0 1
    mip }

end Levels

/-- The configuration of a stack is the constructor's: its policy is normalized. -/
structure RyzenStack where
  cfg : StackConfig
  normalized : cfg.gpu.normalize = cfg.gpu

/-- The values a manifest prints, in its order and before they are formatted. -/
structure Manifest where
  frame : DawnstarFrame
  health : DawnstarHealthReport
  profile : CompressionProfile
  metronome : MetronomeConfig
  pulse01 : ℚ
  gpu : GpuAccelPolicy
  mipRetainedRatios : List ℚ
  pyramid : PyramidDesc

namespace RyzenStack

theorem clamp_clamp (value lo hi : ℚ) (ordered : lo ≤ hi) :
    clamp (clamp value lo hi) lo hi = clamp value lo hi := by
  unfold clamp
  rw [min_eq_right (max_le ordered (min_le_left hi value)), ← max_assoc, max_self]

theorem normalize_normalize (gpu : GpuAccelPolicy) : gpu.normalize.normalize = gpu.normalize := by
  have scalar := clamp_clamp gpu.uScalar 0.125 16 (by norm_num)
  have percent : minU32 (minU32 gpu.overdrivePct 20) 20 = minU32 gpu.overdrivePct 20 := by
    unfold minU32
    split
    · rfl
    · rfl
  simp only [GpuAccelPolicy.normalize, scalar, percent]
  split
  · rfl
  · rfl

/-- The constructor. -/
def new (cfg : StackConfig) : RyzenStack where
  cfg := { cfg with
    gpu := cfg.gpu.normalize
    srcBytes :=
      if cfg.srcBytes = 0 then
        cfg.width.toUInt64 * cfg.height.toUInt64 * cfg.bytesPerElement.toUInt64
      else cfg.srcBytes }
  normalized := normalize_normalize cfg.gpu

def tick (stack : RyzenStack) (dt : ℚ) : RyzenStack where
  cfg := { stack.cfg with metronome := stack.cfg.metronome.tick dt }
  normalized := stack.normalized

section Rendering

variable (sin : ℚ → ℚ) (frame : DawnstarFrame) (health : DawnstarHealthReport)

def weights : List ℚ := [2.40, 1.85, 1.40, 1.05, 0.80, 0.60, 0.45, 0.30, 0.20]

/-- The ratios as the configuration stands after the tick. -/
def ratios (cfg : StackConfig) : List ℚ :=
  let profile := compressionProfile frame health cfg.minRetainedRatio cfg.maxRetainedRatio
    cfg.aggressiveWhenHealthy
  let pulse := cfg.metronome.pulse01 sin
  let metroScale :=
    if cfg.gpu.metronomeBoost then clamp (0.85 + pulse * 0.30 * cfg.metronome.adder) 0.5 1.5 else 1
  let accelScale := if cfg.gpu.enabled then clamp (1 / cfg.gpu.uScalar) 0.0625 8 else 1
  let relayScale := if cfg.gpu.chipRelay then 0.96 else 1
  let supercomputeScale := if cfg.gpu.supercomputeSwitcher then 0.92 else 1
  let base :=
    clamp (profile.retainedRatio * metroScale * accelScale * relayScale * supercomputeScale)
      cfg.minRetainedRatio cfg.maxRetainedRatio
  weights.map fun weight => clamp (base * weight) 0.001 1

def buildMipRetainedRatios (stack : RyzenStack) (dt : ℚ) : List ℚ × RyzenStack :=
  let stack := stack.tick dt
  (ratios sin frame health stack.cfg, stack)

def buildPyramid (stack : RyzenStack) (dt : ℚ) : PyramidDesc × RyzenStack :=
  let (retained, stack) := buildMipRetainedRatios sin frame health stack dt
  (pyramidOf stack.cfg retained, stack)

def renderManifestJSON (stack : RyzenStack) (dt : ℚ) : Manifest × RyzenStack :=
  let profile := compressionProfile frame health stack.cfg.minRetainedRatio
    stack.cfg.maxRetainedRatio stack.cfg.aggressiveWhenHealthy
  let (retained, stack) := buildMipRetainedRatios sin frame health stack dt
  let (pyramid, stack) := buildPyramid sin frame health stack dt
  ({ frame, health, profile
     metronome := stack.cfg.metronome
     pulse01 := stack.cfg.metronome.pulse01 sin
     gpu := stack.cfg.gpu
     mipRetainedRatios := retained
     pyramid }, stack)

end Rendering

end RyzenStack

end RyzenBuild.Dawnstar
