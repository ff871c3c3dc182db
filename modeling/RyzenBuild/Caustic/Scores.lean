import RyzenBuild.Kernel
import RyzenBuild.Lib.CNumber
import Mathlib.Data.List.DropRight

/-!
`caustic.c`: what it reads of a file and of the graphics card, and the scores
it derives from the readings. Character arrays of the configuration are lists
of bytes, used up to their first NUL.
-/
namespace RyzenBuild.Caustic

open Kernel CNumber

structure Config where
  card : List UInt8
  path : List UInt8
  campaignId : List UInt8
  advertiserId : List UInt8
  includeXattrs : Bool
  includeGpu : Bool

structure GpuMetrics where
  vramTotal : UInt64
  vramUsed : UInt64
  gttTotal : UInt64
  gttUsed : UInt64
  ok : Bool
  deriving DecidableEq, Repr

structure FileMeta where
  sizeBytes : UInt64
  ok : Bool
  mtime : Int
  deriving DecidableEq, Repr

structure MagentaScores where
  metadataDensityPpm : UInt32
  freshnessPpm : UInt32
  gpuPressurePpm : UInt32
  pathWeightPpm : UInt32
  xattrWeightPpm : UInt32
  campaignWeightPpm : UInt32
  advertiserWeightPpm : UInt32
  magentaInterestPpm : UInt32
  magentaCausalRatioPpm : UInt32
  magentaQualityPpm : UInt32
  deriving DecidableEq, Repr

def clampU32 (v lo hi : UInt32) : UInt32 :=
  if v < lo then lo else if v > hi then hi else v

section Readings

/-- Line ends and blanks are cut off the end of the bytes read. -/
def readTextFileTrim (content : List UInt8) : List UInt8 :=
  content.rdropWhile fun byte => byte == 10 || byte == 13 || byte == 32 || byte == 9

/-- `none` for a file that cannot be read. -/
def parseUllFile (content : Option (List UInt8)) : Option UInt64 :=
  match content with
  | none => none
  | some content =>
      let (v, rest, outOfRange) := strtoull (cString (readTextFileTrim content))
      if !outOfRange && rest = [] then some v else none

def sysfsPath (card name : List UInt8) : List UInt8 :=
  (text "/sys/class/drm/" ++ cString card ++ text "/device/" ++ name).take (4096 - 1)

/-- Each reading that succeeds is kept, also when another one fails. -/
def readAmdgpuMetrics (card : List UInt8) (file : List UInt8 → Option (List UInt8)) :
    GpuMetrics :=
  let a := parseUllFile (file (sysfsPath card (text "mem_info_vram_total")))
  let b := parseUllFile (file (sysfsPath card (text "mem_info_vram_used")))
  let c := parseUllFile (file (sysfsPath card (text "mem_info_gtt_total")))
  let d := parseUllFile (file (sysfsPath card (text "mem_info_gtt_used")))
  { vramTotal := a.getD 0
    vramUsed := b.getD 0
    gttTotal := c.getD 0
    gttUsed := d.getD 0
    ok := a.isSome && b.isSome && c.isSome && d.isSome }

/-- `none` when `stat` fails. -/
def readFileMeta (stat : Option (UInt64 × Int)) : FileMeta :=
  match stat with
  | none => { sizeBytes := 0, ok := false, mtime := 0 }
  | some (size, mtime) => { sizeBytes := size, ok := true, mtime := mtime }

end Readings

def fileFreshnessPpm (now mtime : Int) : UInt32 :=
  if mtime ≤ 0 ∨ now < mtime then 500000
  else
    let age := now - mtime
    if age ≤ 3600 then 1000000
    else if age ≤ 86400 then 850000
    else if age ≤ 7 * 86400 then 650000
    else if age ≤ 30 * 86400 then 450000
    else 250000

def usagePpm (used total : UInt64) : UInt32 :=
  if total ≠ 0 then ((used * 1000000) / total).toUInt32 else 0

def computeMagentaScores (cfg : Config) (now : Int) (fm : FileMeta) (gm : GpuMetrics)
    (xattrCount xattrNameBytes : UInt64) : MagentaScores :=
  let gpuPressure : UInt32 :=
    if cfg.includeGpu && gm.ok then
      (usagePpm gm.vramUsed gm.vramTotal + usagePpm gm.gttUsed gm.gttTotal) / 2
    else 0
  let metadataDensity : UInt32 :=
    if fm.ok then
      let denom := if fm.sizeBytes ≠ 0 then fm.sizeBytes else 1
      let raw := ((xattrCount * 4096 + xattrNameBytes) * 1000000) / denom
      let raw := if raw > 1000000 then 1000000 else raw
      raw.toUInt32
    else 0
  let freshness := if fm.ok then fileFreshnessPpm now fm.mtime else 400000
  let path := cString cfg.path
  let pathWeight : UInt32 :=
    if (strstr (text "campaign") path).isSome then 800000
    else if (strstr (text "creative") path).isSome then 760000
    else if (strstr (text "audience") path).isSome then 820000
    else 550000
  let xattrWeight := clampU32 (xattrCount * 90000).toUInt32 120000 1000000
  let campaignWeight : UInt32 := if cString cfg.campaignId ≠ [] then 900000 else 300000
  let advertiserWeight : UInt32 := if cString cfg.advertiserId ≠ [] then 900000 else 300000
  -- interest: bounded enrichment score
  let interest : UInt64 :=
    metadataDensity.toUInt64 * 26 + freshness.toUInt64 * 18 + xattrWeight.toUInt64 * 20 +
      campaignWeight.toUInt64 * 18 + advertiserWeight.toUInt64 * 18
  let interest := interest / 100
  let interest := if interest > 1000000 then 1000000 else interest
  -- causal ratio: balance metadata quality against machine pressure
  let quality : UInt64 :=
    metadataDensity.toUInt64 * 32 + freshness.toUInt64 * 24 + pathWeight.toUInt64 * 18 +
      xattrWeight.toUInt64 * 26
  let quality := quality / 100
  let quality := if quality > 1000000 then 1000000 else quality
  let causal := (interest * 65 + quality * 35) / 100
  let causal :=
    if gpuPressure > 0 then
      let pressurePenalty := (gpuPressure / 5).toUInt64
      if causal > pressurePenalty then causal - pressurePenalty else 0
    else causal
  let causal := if causal > 1000000 then 1000000 else causal
  { metadataDensityPpm := metadataDensity
    freshnessPpm := freshness
    gpuPressurePpm := gpuPressure
    pathWeightPpm := pathWeight
    xattrWeightPpm := xattrWeight
    campaignWeightPpm := campaignWeight
    advertiserWeightPpm := advertiserWeight
    magentaInterestPpm := interest.toUInt32
    magentaCausalRatioPpm := causal.toUInt32
    magentaQualityPpm := quality.toUInt32 }

end RyzenBuild.Caustic
