import RyzenBuild.Lib.Significand
import RyzenBuild.Lib.Digits
import RyzenBuild.Kernel
import RyzenBuild.Delta.Hash

/-!
The hash texts of `delta_link_ffi.lua`. A 64-bit hash goes through a Lua number
on its way to the text, and a Lua number has 53 bits.
-/
namespace RyzenBuild.Delta

open Kernel Digits Significand

/-- Of a `uint64_t` LuaJIT makes the nearest number, and never nil. -/
def tonumber (u64 : UInt64) : Option Nat := some (nearest 53 u64.toNat)

def hex64U64 (u64 : UInt64) : Option (List UInt8) :=
  match tonumber u64 with
  | some v => some (hex 16 v)
  | none => do
      let hi ← tonumber (u64 >>> 32)
      let lo ← tonumber (u64 &&& 0xffffffff)
      return hex 8 hi ++ hex 8 lo

def mFnv1a64 (data : List UInt8) : Option (List UInt8) := do
  let digits ← hex64U64 (dlFnv1a64 (asU8Buf data) data.length)
  return text "0x" ++ digits

/-- The first branch is always taken. -/
theorem hex64U64_eq (u64 : UInt64) : hex64U64 u64 = some (hex 16 (nearest 53 u64.toNat)) := rfl

theorem hex64U64_exact_iff (u64 : UInt64) :
    hex64U64 u64 = some (hex 16 u64.toNat) ↔ Fits 53 u64.toNat := by
  rw [hex64U64_eq, Option.some_inj, ← nearest_eq_iff]
  constructor
  · exact hex_inj 16
  · exact congrArg (hex 16)

theorem hex64U64_same_iff (first second : UInt64) :
    hex64U64 first = hex64U64 second ↔ nearest 53 first.toNat = nearest 53 second.toNat := by
  rw [hex64U64_eq, hex64U64_eq, Option.some_inj]
  constructor
  · exact hex_inj 16
  · exact congrArg (hex 16)

theorem hex64U64_injective_on (first second : UInt64) (firstFits : Fits 53 first.toNat)
    (secondFits : Fits 53 second.toNat) (same : hex64U64 first = hex64U64 second) :
    first = second := by
  apply UInt64.toNat_inj.mp
  exact nearest_injective_on 53 _ _ firstFits secondFits ((hex64U64_same_iff first second).mp same)

theorem mFnv1a64_digits (data digits : List UInt8) :
    mFnv1a64 data = some (text "0x" ++ digits) ↔
      hex64U64 (dlFnv1a64 (asU8Buf data) data.length) = some digits := by
  have prefixed : mFnv1a64 data =
      some (text "0x" ++ hex 16 (nearest 53 (dlFnv1a64 (asU8Buf data) data.length).toNat)) := rfl
  rw [prefixed, hex64U64_eq, Option.some_inj, Option.some_inj, List.append_cancel_left_eq]

theorem mFnv1a64_exact_iff (data : List UInt8) :
    mFnv1a64 data = some (text "0x" ++ hex 16 (dlFnv1a64 (asU8Buf data) data.length).toNat) ↔
      Fits 53 (dlFnv1a64 (asU8Buf data) data.length).toNat :=
  (mFnv1a64_digits data _).trans (hex64U64_exact_iff _)

end RyzenBuild.Delta
