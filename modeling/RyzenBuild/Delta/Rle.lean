import RyzenBuild.Lib.Writer
import RyzenBuild.Delta.Token

/-!
The run-length codec of `deltaffi.c` over source memory, and the two-call
protocol `delta_link_ffi.lua` drives it with. Sizes are unbounded here: a
`size_t` cannot overflow on a source that fits in memory with its output.
-/
namespace RyzenBuild.Delta

open Memory Writer

/-- The loop that extends a run, from a run of `run` bytes on. -/
def extendRun (src : Nat → UInt8) (len i run : Nat) : Nat :=
  if i + run < len ∧ run < 255 ∧ src (i + run) = src i then extendRun src len i (run + 1) else run
termination_by 255 - run

theorem le_extendRun (src : Nat → UInt8) (len i run : Nat) : run ≤ extendRun src len i run := by
  induction run using extendRun.induct src len i with
  | case1 run more ih =>
      rw [extendRun, if_pos more]
      exact Nat.le_of_succ_le ih
  | case2 run done => rw [extendRun, if_neg done]

def packLoop (src : Nat → UInt8) (len cap i : Nat) (w : Cursor UInt8) : Cursor UInt8 :=
  if i < len then
    let b := src i
    let run := extendRun src len i 1
    -- A literal `0xFF` would open an escape, so it is escaped at any run length.
    if run ≥ 4 ∨ b = 0xFF then
      packLoop src len cap (i + run) (put cap w [0xFF, UInt8.ofNat run, b])
    else
      packLoop src len cap (i + run)
        ((List.range run).foldl (fun w j => put cap w [src (i + j)]) w)
  else w
termination_by len - i
decreasing_by
  all_goals
    have positive : 1 ≤ extendRun src len i 1 := le_extendRun src len i 1
    omega

def dlPackRle (src : Nat → UInt8) (len : Nat) (out : Option (Nat → UInt8)) (outCap : Nat) :
    Nat × Option (Nat → UInt8) :=
  let w := packLoop src len outCap 0 ⟨0, out⟩
  (w.written, w.out)

def unpackLoop (src : Nat → UInt8) (len cap i : Nat) (w : Cursor UInt8) : Cursor UInt8 :=
  if i < len then
    let b := src i
    if b = 0xFF then
      -- A cut-off escape is reported as 0, whatever has been written.
      if i + 2 ≥ len then { w with written := 0 }
      else
        let count := src (i + 1)
        let val := src (i + 2)
        unpackLoop src len cap (i + 3)
          ((List.range count.toNat).foldl (fun w _ => put cap w [val]) w)
    else unpackLoop src len cap (i + 1) (put cap w [b])
  else w
termination_by len - i

def dlUnpackRle (src : Nat → UInt8) (len : Nat) (out : Option (Nat → UInt8)) (outCap : Nat) :
    Nat × Option (Nat → UInt8) :=
  let w := unpackLoop src len outCap 0 ⟨0, out⟩
  (w.written, w.out)

/-- The contents `as_u8_buf` copies a string into. -/
def asU8Buf (data : List UInt8) : Nat → UInt8 := fun i => data.getD i 0

def fromU8Buf (buf : Nat → UInt8) (n : Nat) : List UInt8 := slice buf 0 n

/-- A new `uint8_t[?]`, which is zeroed. -/
def ffiNew : Nat → UInt8 := fun _ => 0

def mPack (data : List UInt8) : List UInt8 :=
  let need := (dlPackRle (asU8Buf data) data.length none 0).1
  let (wrote, out) := dlPackRle (asU8Buf data) data.length (some ffiNew) need
  fromU8Buf (out.getD ffiNew) wrote

def corruptPackedStream : String := "corrupt packed stream"

def mUnpack (data : List UInt8) : Except String (List UInt8) :=
  let need := (dlUnpackRle (asU8Buf data) data.length none 0).1
  if need = 0 ∧ data.length > 0 then .error corruptPackedStream
  else
    let (wrote, out) := dlUnpackRle (asU8Buf data) data.length (some ffiNew) need
    if wrote = 0 ∧ data.length > 0 then .error corruptPackedStream
    else .ok (fromU8Buf (out.getD ffiNew) wrote)

end RyzenBuild.Delta
