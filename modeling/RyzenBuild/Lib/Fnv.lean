import RyzenBuild.Lib.Running

/-!
The hash FNV-1a for words of any width. The offset basis is where the hash
starts, and a multiplier with an inverse never lets two starts meet.
-/
namespace RyzenBuild.Fnv

open Running

variable {width : Nat}

def absorb (prime : BitVec width) (h : BitVec width) (byte : UInt8) : BitVec width :=
  (h ^^^ byte.toBitVec.setWidth width) * prime

def hash (prime basis : BitVec width) (data : List UInt8) : BitVec width :=
  data.foldl (absorb prime) basis

theorem absorb_keeps (prime inverse : BitVec width)
    (unit : prime * inverse = BitVec.ofNat width 1) (byte : UInt8) :
    Function.Injective fun h => absorb prime h byte := by
  intro first second same
  have cancelled : first ^^^ byte.toBitVec.setWidth width =
      second ^^^ byte.toBitVec.setWidth width := by
    calc first ^^^ byte.toBitVec.setWidth width
        = (first ^^^ byte.toBitVec.setWidth width) * prime * inverse := by
          rw [BitVec.mul_assoc, unit, BitVec.mul_one]
      _ = (second ^^^ byte.toBitVec.setWidth width) * prime * inverse :=
          congrArg (· * inverse) same
      _ = second ^^^ byte.toBitVec.setWidth width := by
          rw [BitVec.mul_assoc, unit, BitVec.mul_one]
  exact (BitVec.xor_left_inj _).mp cancelled

/-- Hashes from two offset bases differ for every byte string. -/
theorem hash_basis_ne (prime inverse basis other : BitVec width)
    (unit : prime * inverse = BitVec.ofNat width 1) (apart : basis ≠ other) (data : List UInt8) :
    hash prime basis data ≠ hash prime other data :=
  stays_apart_of_keeps (absorb_keeps prime inverse unit) data basis other apart

end RyzenBuild.Fnv
