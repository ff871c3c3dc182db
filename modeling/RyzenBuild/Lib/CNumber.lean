import RyzenBuild.Lib.Digits
import Mathlib.Algebra.Group.Nat.Defs
import Mathlib.Algebra.Group.Int.Defs
import Mathlib.Data.List.TakeWhile

/-!
How the C library reads a decimal number from a string: white space, a sign,
digits. A string is the list of its bytes before the NUL.
-/
namespace RyzenBuild.CNumber

open Digits

def isSpace (byte : UInt8) : Bool := byte == 32 || (9 ≤ byte && byte ≤ 13)

structure Subject where
  negative : Bool
  digits : List UInt8
  rest : List UInt8

def subject (s : List UInt8) : Subject :=
  let body := s.dropWhile isSpace
  let negative := body.head? = some 45
  let unsigned := if negative ∨ body.head? = some 43 then body.tail else body
  ⟨negative, unsigned.takeWhile isDigit, unsigned.dropWhile isDigit⟩

/-- The number, where reading stopped, and whether it was out of range; a
number that is not there is zero. -/
def strtoull (s : List UInt8) : UInt64 × List UInt8 × Bool :=
  let read := subject s
  if read.digits = [] then (0, s, false)
  else if 2 ^ 64 ≤ value read.digits then (UInt64.ofNat (2 ^ 64 - 1), read.rest, true)
  else
    let n := UInt64.ofNat (value read.digits)
    (if read.negative then 0 - n else n, read.rest, false)

theorem subject_numeral (n : Nat) : subject (numeral n) = ⟨false, numeral n, []⟩ := by
  have digits := numeral_digits n
  have solid (byte : UInt8) (member : byte ∈ numeral n) :
      isSpace byte = false ∧ byte ≠ 45 ∧ byte ≠ 43 := by
    have digit := digits byte member
    simp only [isDigit, Bool.and_eq_true, decide_eq_true_eq, UInt8.le_iff_toNat_le] at digit
    refine ⟨?_, ?_, ?_⟩
    · simp only [isSpace, Bool.or_eq_false_iff, beq_eq_false_iff_ne, Bool.and_eq_false_iff,
        decide_eq_false_iff_not, UInt8.le_iff_toNat_le]
      refine ⟨?_, Or.inr ?_⟩
      · rintro rfl
        simp at digit
      · simp at digit ⊢
        omega
    · rintro rfl
      simp at digit
    · rintro rfl
      simp at digit
  have body : (numeral n).dropWhile isSpace = numeral n := by
    cases shape : numeral n with
    | nil => rfl
    | cons first rest =>
        rw [List.dropWhile_cons_of_neg]
        simp [(solid first (by rw [shape]; exact List.mem_cons_self)).1]
  have unsigned (sign : UInt8) (other : sign = 45 ∨ sign = 43) : (numeral n).head? ≠ some sign := by
    intro here
    obtain ⟨_, minus, plus⟩ := solid sign (List.mem_of_mem_head? here)
    exact other.elim minus plus
  simp only [subject, body, unsigned 45 (Or.inl rfl), unsigned 43 (Or.inr rfl), decide_false,
    or_self, if_false]
  rw [List.takeWhile_eq_self_iff.mpr digits, List.dropWhile_eq_nil_iff.mpr digits]

theorem strtoull_numeral (n : Nat) (small : n < 2 ^ 64) :
    strtoull (numeral n) = (UInt64.ofNat n, [], false) := by
  simp only [strtoull, subject_numeral, numeral_ne_nil, value_numeral, Nat.not_le.mpr small,
    if_false, Bool.false_eq_true]

/-- Numbers out of range become the nearest one in it. -/
def strtol (s : List UInt8) : Int :=
  let read := subject s
  let n : Int := if read.negative then -(value read.digits : Int) else value read.digits
  max (-2 ^ 63) (min n (2 ^ 63 - 1))

/-- The low half of the `long`. -/
def atoi (s : List UInt8) : Int := (strtol s).bmod (2 ^ 32)

end RyzenBuild.CNumber
