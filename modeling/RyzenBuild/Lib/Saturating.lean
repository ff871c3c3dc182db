import Mathlib.Logic.Function.Iterate
import Mathlib.Data.Nat.Basic

/-!
Counters that move by a fixed amount a turn and stop at a bound: one that rises
to a top, from a low at the first turn at the latest, and one that drains as
long as it stands above a floor.
-/
namespace RyzenBuild.Saturating

def rise (low top gain level : Nat) : Nat := min top (max low (level + gain))

def drain (floor loss level : Nat) : Nat := if floor < level then level - loss else level

theorem rise_iterate (low top gain level turns : Nat) :
    (rise low top gain)^[turns + 1] level =
      min top (max low (level + gain) + turns * gain) := by
  induction turns with
  | zero => simp [rise]
  | succ turns ih =>
      rw [Function.iterate_succ_apply', ih, rise, Nat.succ_mul]
      omega

/-- How often the counter moves before it is at the floor. -/
def drops (floor loss level : Nat) : Nat := (level - floor + (loss - 1)) / loss

theorem drops_below (floor loss level : Nat) (positive : 0 < loss) (below : level ≤ floor) :
    drops floor loss level = 0 := by
  rw [drops, Nat.sub_eq_zero_of_le below, Nat.zero_add]
  exact Nat.div_eq_of_lt (by omega)

theorem drops_above (floor loss level : Nat) (positive : 0 < loss) (above : floor < level) :
    drops floor loss level = drops floor loss (level - loss) + 1 := by
  by_cases last : level - floor ≤ loss
  · have one : level - floor + (loss - 1) = (level - floor - 1) + loss := by omega
    rw [drops_below floor loss (level - loss) positive (by omega), drops, one,
      Nat.add_div_right _ positive, Nat.div_eq_of_lt (by omega)]
  · have more : level - floor + (loss - 1) = (level - loss - floor + (loss - 1)) + loss := by omega
    rw [drops, more, Nat.add_div_right _ positive]
    rfl

theorem drain_iterate (floor loss level turns : Nat) (positive : 0 < loss) :
    (drain floor loss)^[turns] level = level - loss * min turns (drops floor loss level) := by
  induction turns generalizing level with
  | zero => simp
  | succ turns ih =>
      rw [Function.iterate_succ_apply, ih, drain]
      split
      · next above =>
          rw [drops_above floor loss level positive above, Nat.succ_min_succ, Nat.mul_succ]
          omega
      · next below =>
          rw [drops_below floor loss level positive (Nat.le_of_not_lt below), Nat.min_zero,
            Nat.min_zero]

end RyzenBuild.Saturating
