import RyzenBuild.Caustic.Scores

/-!
`caustic.c`: the growing string buffer and the payload written into it.
-/
namespace RyzenBuild.Caustic

open Kernel Digits

/-- `len` is the length of `data`; the NUL behind it fits the allocation. -/
structure StrBuf where
  data : List UInt8
  cap : Nat
  room : data.length < cap

def jsonBufCap : Nat := 256 * 1024

def sbInit (cap : Nat) (positive : 0 < cap) : StrBuf := ⟨[], cap, positive⟩

/-- `realloc` to a capacity that the next attempt fits. -/
def sbGrow (sb : StrBuf) (n : Nat) : StrBuf where
  data := sb.data
  cap := sb.cap * 2 + n + 64
  room := by have := sb.room; omega

/-- `printed` is the output of the format. -/
def sbAppendf (sb : StrBuf) (printed : List UInt8) : StrBuf :=
  if fits : printed.length < sb.cap - sb.data.length then
    { data := sb.data ++ printed
      cap := sb.cap
      room := by rw [List.length_append]; omega }
  else sbAppendf (sbGrow sb printed.length) printed
termination_by printed.length + sb.data.length + 1 - sb.cap
decreasing_by
  have := sb.room
  simp only [sbGrow]
  omega

@[simp] theorem data_sbAppendf (sb : StrBuf) (printed : List UInt8) :
    (sbAppendf sb printed).data = sb.data ++ printed := by
  fun_induction sbAppendf sb printed with
  | case1 => rfl
  | case2 sb fits ih => exact ih

/-- `%04x` of a byte. -/
def hex04 (byte : UInt8) : List UInt8 :=
  [48, 48, ofChar (Nat.digitChar (byte.toNat / 16)), ofChar (Nat.digitChar (byte.toNat % 16))]

def escaped (byte : UInt8) : List UInt8 :=
  if byte = 34 then text "\\\""
  else if byte = 92 then text "\\\\"
  else if byte = 8 then text "\\b"
  else if byte = 12 then text "\\f"
  else if byte = 10 then text "\\n"
  else if byte = 13 then text "\\r"
  else if byte = 9 then text "\\t"
  else if byte < 0x20 then text "\\u" ++ hex04 byte
  else [byte]

def jsonEscapeAppend (sb : StrBuf) (s : List UInt8) : StrBuf :=
  let sb := sbAppendf sb (text "\"")
  let sb := (cString s).foldl (fun sb byte => sbAppendf sb (escaped byte)) sb
  sbAppendf sb (text "\"")

/-- An access to bytes that no call wrote or that no allocation holds. What
happens then is not for the program to say. -/
inductive Fault where
  | outside
  deriving DecidableEq

/-- What a call has done with a buffer of `asked` bytes. -/
structure Filled where
  asked : Nat
  written : List UInt8
  answered : Nat

def erange : Int := 34

/-- `listxattr` and `getxattr` with a buffer: what does not fit is refused, and a
buffer of no bytes asks for the size alone. -/
def fill (asked : Nat) (present : List UInt8) : Except Int Filled :=
  if asked = 0 then .ok ⟨0, [], present.length⟩
  else if asked < present.length then .error erange
  else .ok ⟨asked, present, present.length⟩

/-- The size that the first call of `listxattr` answers, and the NUL-terminated
names there are at the second; an error is its `errno`. -/
structure Listing where
  probe : Except Int Nat
  names : Except Int (List UInt8)
  terminated : ∀ buffer, names = .ok buffer → buffer ≠ [] → buffer.getLast? = some 0

/-- The second call gets a buffer of the first one's size. -/
def Listing.read (listing : Listing) : Except Int Filled := do
  let size ← listing.probe
  let names ← listing.names
  fill size names

/-- The size that the first call of `getxattr` answers, and the value there is at
the second; `none` for a failure. -/
structure ValueReading where
  probe : Option Nat
  value : Option (List UInt8)

def ValueReading.read (reading : ValueReading) : Option Filled := do
  let size ← reading.probe
  let value ← reading.value
  (fill size value).toOption

/-- What the system answers while a payload is built. -/
structure Readings where
  timestamp : List UInt8
  now : Int
  stat : Option (UInt64 × Int)
  /-- The bytes of a file, by its path. -/
  file : List UInt8 → Option (List UInt8)
  counted : Listing
  listed : Listing
  /-- The value of an attribute, by the place of its name in the list. -/
  value : Nat → ValueReading

/-- The names in the next `left` bytes of a buffer, each with its place. The
`strlen` of a name reads on to the NUL. -/
def eachName (i left : Nat) (written : List UInt8) : Except Fault (List (Nat × List UInt8)) :=
  if left = 0 then .ok []
  else if 0 ∈ written then do
    let name := cString written
    let later ← eachName (i + (name.length + 1)) (left - (name.length + 1))
      (written.drop (name.length + 1))
    return (i, name) :: later
  else .error .outside
termination_by left

/-- `none` when the attributes cannot be listed. -/
def countXattrs (listing : Listing) : Except Fault (Option (UInt64 × UInt64)) :=
  match listing.read with
  | .error _ => .ok none
  | .ok names => do
      let entries ← eachName 0 names.answered names.written
      return some (entries.foldl
        (fun (count, nameBytes) (_, name) =>
          (count + 1, nameBytes + UInt64.ofNat name.length)) (0, 0))

def xattrsError (errno : Int) : List UInt8 :=
  text "\x7b\"ok\":false,\"errno\":" ++ signed errno ++ text "\x7d"

/-- One turn of the loop: the buffer and whether nothing was written yet. -/
def appendXattr (value : Nat → ValueReading) (state : StrBuf × Bool) (entry : Nat × List UInt8) :
    Except Fault (StrBuf × Bool) :=
  let (sb, first) := state
  match (value entry.1).read with
  | none => .ok (sb, first)
  | some val =>
      -- The NUL behind the value: the allocation has one byte more than was asked for.
      if val.asked < val.answered then .error .outside
      else
        let sb := if !first then sbAppendf sb (text ",") else sb
        let sb := jsonEscapeAppend sb entry.2
        let sb := sbAppendf sb (text ":")
        .ok (jsonEscapeAppend sb val.written, false)

def appendXattrsJson (sb : StrBuf) (listing : Listing) (value : Nat → ValueReading) :
    Except Fault StrBuf :=
  match listing.read with
  | .error errno => .ok (sbAppendf sb (xattrsError errno))
  | .ok names => do
      let sb := sbAppendf sb (text "\x7b")
      let entries ← eachName 0 names.answered names.written
      let (sb, _) ← entries.foldlM (appendXattr value) (sb, true)
      return sbAppendf sb (text "\x7d")

/-- A name in quotes and a colon, as the formats have them before a value. -/
def named (name value : List UInt8) : List UInt8 := text "\"" ++ name ++ text "\":" ++ value

def truth (b : Bool) : List UInt8 := if b then text "true" else text "false"

def ppm (score : UInt32) : List UInt8 := numeral score.toNat

def bytes (size : UInt64) : List UInt8 := numeral size.toNat

section Payload

variable (cfg : Config) (readings : Readings)

def payloadGpu : GpuMetrics :=
  if cfg.includeGpu then readAmdgpuMetrics cfg.card readings.file
  else { vramTotal := 0, vramUsed := 0, gttTotal := 0, gttUsed := 0, ok := false }

/-- The counts stay zero when the attributes cannot be listed. -/
def payloadCounts : Except Fault (UInt64 × UInt64) :=
  if cfg.includeXattrs then do
    let counts ← countXattrs readings.counted
    return counts.getD (0, 0)
  else .ok (0, 0)

def payloadScores (counts : UInt64 × UInt64) : MagentaScores :=
  computeMagentaScores cfg readings.now (readFileMeta readings.stat) (payloadGpu cfg readings)
    counts.1 counts.2

def appendHead (sb : StrBuf) : StrBuf :=
  let sb := sbAppendf sb (text "\x7b")
  let sb := sbAppendf sb (named (text "schema")
    (text "\"magenta-framework-causal-ratio/v1\"") ++ text ",")
  let sb := sbAppendf sb (named (text "timestamp") [])
  let sb := jsonEscapeAppend sb readings.timestamp
  let sb := sbAppendf sb (text ",")
  let sb := sbAppendf sb (named (text "platform") (text "\"posix\"") ++ text ",")
  let sb := sbAppendf sb (named (text "target") (text "\"mntn-reporting-bridge\"") ++ text ",")
  let sb := sbAppendf sb (named (text "campaign_id") [])
  let sb := jsonEscapeAppend sb cfg.campaignId
  let sb := sbAppendf sb (text ",")
  let sb := sbAppendf sb (named (text "advertiser_id") [])
  let sb := jsonEscapeAppend sb cfg.advertiserId
  let sb := sbAppendf sb (text ",")
  let sb := sbAppendf sb (named (text "path") [])
  let sb := jsonEscapeAppend sb cfg.path
  sbAppendf sb (text ",")

def appendGpu (sb : StrBuf) : StrBuf :=
  let gm := payloadGpu cfg readings
  let sb := sbAppendf sb (named (text "gpu") (text "\x7b"))
  let sb := sbAppendf sb (named (text "enabled") (truth cfg.includeGpu) ++ text ",")
  let sb := sbAppendf sb (named (text "ok") (truth gm.ok) ++ text ",")
  let sb := sbAppendf sb (named (text "card") [])
  let sb := jsonEscapeAppend sb cfg.card
  let sb := sbAppendf sb (text ",")
  let sb := sbAppendf sb (named (text "vram_total_bytes") (bytes gm.vramTotal) ++ text ",")
  let sb := sbAppendf sb (named (text "vram_used_bytes") (bytes gm.vramUsed) ++ text ",")
  let sb := sbAppendf sb (named (text "gtt_total_bytes") (bytes gm.gttTotal) ++ text ",")
  let sb := sbAppendf sb (named (text "gtt_used_bytes") (bytes gm.gttUsed))
  sbAppendf sb (text "\x7d,")

def appendFile (counts : UInt64 × UInt64) (sb : StrBuf) : StrBuf :=
  let fm := readFileMeta readings.stat
  let (xattrCount, xattrNameBytes) := counts
  let sb := sbAppendf sb (named (text "file") (text "\x7b"))
  let sb := sbAppendf sb (named (text "ok") (truth fm.ok) ++ text ",")
  let sb := sbAppendf sb (named (text "size_bytes") (bytes fm.sizeBytes) ++ text ",")
  let sb := sbAppendf sb (named (text "mtime") (signed fm.mtime) ++ text ",")
  let sb := sbAppendf sb (named (text "xattr_count") (bytes xattrCount) ++ text ",")
  let sb := sbAppendf sb (named (text "xattr_name_bytes") (bytes xattrNameBytes))
  sbAppendf sb (text "\x7d,")

def appendXattrs (sb : StrBuf) : Except Fault StrBuf :=
  if cfg.includeXattrs then do
    let sb := sbAppendf sb (named (text "xattrs") [])
    let sb ← appendXattrsJson sb readings.listed readings.value
    return sbAppendf sb (text ",")
  else .ok sb

def appendMagenta (counts : UInt64 × UInt64) (sb : StrBuf) : StrBuf :=
  let sc := payloadScores cfg readings counts
  let sb := sbAppendf sb (named (text "magenta") (text "\x7b"))
  let sb := sbAppendf sb (named (text "metadata_density_ppm")
    (ppm sc.metadataDensityPpm) ++ text ",")
  let sb := sbAppendf sb (named (text "freshness_ppm") (ppm sc.freshnessPpm) ++ text ",")
  let sb := sbAppendf sb (named (text "gpu_pressure_ppm") (ppm sc.gpuPressurePpm) ++ text ",")
  let sb := sbAppendf sb (named (text "path_weight_ppm") (ppm sc.pathWeightPpm) ++ text ",")
  let sb := sbAppendf sb (named (text "xattr_weight_ppm") (ppm sc.xattrWeightPpm) ++ text ",")
  let sb := sbAppendf sb (named (text "campaign_weight_ppm") (ppm sc.campaignWeightPpm) ++ text ",")
  let sb := sbAppendf sb (named (text "advertiser_weight_ppm")
    (ppm sc.advertiserWeightPpm) ++ text ",")
  let sb := sbAppendf sb (named (text "magenta_interest_ppm")
    (ppm sc.magentaInterestPpm) ++ text ",")
  let sb := sbAppendf sb (named (text "magenta_causal_ratio_ppm")
    (ppm sc.magentaCausalRatioPpm) ++ text ",")
  let sb := sbAppendf sb (named (text "magenta_quality_ppm") (ppm sc.magentaQualityPpm))
  let sb := sbAppendf sb (text "\x7d")
  sbAppendf sb (text "\x7d")

def buildPayloadJson (sb : StrBuf) : Except Fault StrBuf := do
  let counts ← payloadCounts cfg readings
  let sb := appendHead cfg readings sb
  let sb := appendGpu cfg readings sb
  let sb := appendFile readings counts sb
  let sb ← appendXattrs cfg readings sb
  return appendMagenta cfg readings counts sb

/-- The string that `main` prints. -/
def payloadJson : Except Fault (List UInt8) := do
  let sb ← buildPayloadJson cfg readings (sbInit jsonBufCap (by decide))
  return sb.data

end Payload

end RyzenBuild.Caustic
