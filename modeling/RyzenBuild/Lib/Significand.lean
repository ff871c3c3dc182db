import Mathlib.Algebra.Group.Nat.Defs

/-!
Natural numbers kept in a significand of so many bits: the nearest number that
fits, ties to the even one.
-/
namespace RyzenBuild.Significand

/-- The distance of neighbouring numbers of the size of `n`. -/
def spacing (bits n : Nat) : Nat := 2 ^ (n.log2 + 1 - bits)

/-- No bit is set behind the leading ones. -/
def Fits (bits n : Nat) : Prop := spacing bits n ∣ n

instance (bits n : Nat) : Decidable (Fits bits n) :=
  inferInstanceAs (Decidable (spacing bits n ∣ n))

def nearest (bits n : Nat) : Nat :=
  let unit := spacing bits n
  let below := n / unit * unit
  if 2 * (n % unit) < unit ∨ 2 * (n % unit) = unit ∧ n / unit % 2 = 0 then below
  else below + unit

theorem spacing_pos (bits n : Nat) : 0 < spacing bits n := Nat.two_pow_pos _

/-- Only what fits is kept as it is. -/
theorem nearest_eq_iff (bits n : Nat) : nearest bits n = n ↔ Fits bits n := by
  have positive := spacing_pos bits n
  have parts := Nat.div_add_mod' n (spacing bits n)
  have rest := Nat.mod_lt n positive
  constructor
  · intro kept
    simp only [nearest] at kept
    split at kept
    · exact ⟨n / spacing bits n, by rw [Nat.mul_comm, kept]⟩
    · omega
  · intro fits
    have exact : n % spacing bits n = 0 := Nat.mod_eq_zero_of_dvd fits
    have low : 2 * (n % spacing bits n) < spacing bits n := by omega
    simp only [nearest]
    rw [if_pos (Or.inl low)]
    omega

theorem nearest_injective_on (bits first second : Nat) (firstFits : Fits bits first)
    (secondFits : Fits bits second) (same : nearest bits first = nearest bits second) :
    first = second := by
  rwa [(nearest_eq_iff bits first).mpr firstFits, (nearest_eq_iff bits second).mpr secondFits]
    at same

end RyzenBuild.Significand
