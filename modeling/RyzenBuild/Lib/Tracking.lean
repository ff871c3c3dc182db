import Mathlib.Algebra.BigOperators.Ring.Finset
import Mathlib.Algebra.Order.BigOperators.Group.Finset
import Mathlib.Algebra.Order.Group.MinMax
import Mathlib.Data.Nat.Cast.Order.Field
import Mathlib.Data.Rat.Floor
import Mathlib.Tactic.FieldSimp
import Mathlib.Tactic.Linarith
import Mathlib.Tactic.Ring
import RyzenBuild.Lib.FixedPoint

/-!
Fixed-point numbers beside the exact numbers they stand for. A reading tracks an
exact value within an error; each operation says how the error grows.
-/
namespace RyzenBuild.Tracking

open FixedPoint

/-- In the units of the reading. -/
def Tracks (error : ℚ) (reading : Nat) (exact : ℚ) : Prop := |(reading : ℚ) - exact| ≤ error

variable {error more bound : ℚ} {reading factor : Nat} {exact ratio : ℚ}

theorem tracks_self (reading : Nat) : Tracks 0 reading reading := by
  rw [Tracks, sub_self, abs_zero]

theorem tracks_mono (tracks : Tracks error reading exact) (le : error ≤ more) :
    Tracks more reading exact := le_trans tracks le

/-- The exact value is moved a little. -/
theorem tracks_moved (other : ℚ) (tracks : Tracks error reading exact)
    (near : |exact - other| ≤ more) : Tracks (error + more) reading other := by
  have parts : (reading : ℚ) - other = (reading - exact) + (exact - other) := by ring
  rw [Tracks, parts]
  exact (abs_add_le _ _).trans (add_le_add tracks near)

/-- A quotient cut off to an integer. -/
theorem tracks_quotient (a count : Nat) (positive : 0 < count) :
    Tracks 1 (a / count) ((a : ℚ) / count) := by
  have whole : (0 : ℚ) < count := Nat.cast_pos.mpr positive
  have split : (a : ℚ) = count * (a / count : Nat) + (a % count : Nat) := by
    exact_mod_cast (Nat.div_add_mod a count).symm
  have small : ((a % count : Nat) : ℚ) < count := by exact_mod_cast Nat.mod_lt a positive
  have part : ((a / count : Nat) : ℚ) - a / count = -((a % count : Nat) / count) := by
    rw [split]
    field_simp
    ring
  rw [Tracks, part, abs_neg, abs_of_nonneg (div_nonneg (Nat.cast_nonneg _) whole.le)]
  exact ((div_le_one whole).mpr small.le)

/-- A product rounded to the nearest unit of an even scale. -/
theorem tracks_product (scale a b : Nat) (positive : 0 < scale) (even : 2 ∣ scale) :
    Tracks (1 / 2) (mulRound scale a b) ((a : ℚ) * b / scale) := by
  obtain ⟨half, rfl⟩ := even
  have whole : (0 : ℚ) < (2 * half : Nat) := Nat.cast_pos.mpr positive
  rw [Tracks, mulRound, Nat.mul_div_cancel_left half (by decide)]
  have split := Nat.div_add_mod (a * b + half) (2 * half)
  have small := Nat.mod_lt (a * b + half) positive
  generalize (a * b + half) / (2 * half) = quotient at split ⊢
  generalize (a * b + half) % (2 * half) = rest at split small
  have rested : (quotient : ℚ) - a * b / (2 * half : Nat) = ((half : ℚ) - rest) / (2 * half : Nat) := by
    have cast : ((2 * half : Nat) : ℚ) * quotient + rest = a * b + half := by exact_mod_cast split
    field_simp
    linarith
  have most : (rest : ℚ) ≤ 2 * half := by exact_mod_cast small.le
  have least : (0 : ℚ) ≤ rest := Nat.cast_nonneg rest
  rw [rested, abs_div, abs_of_pos whole, div_le_iff₀ whole, abs_le]
  push_cast
  constructor <;> linarith

/-- A product with a ratio that is itself only tracked, in parts of the scale. -/
theorem tracks_scaled (scale limit : Nat) (positive : 0 < scale) (even : 2 ∣ scale)
    (tracks : Tracks error reading exact) (scaled : Tracks more factor (ratio * scale))
    (share : 0 ≤ ratio ∧ ratio ≤ bound) (small : reading ≤ limit) :
    Tracks (error * bound + limit / scale * more + 1 / 2) (mulRound scale reading factor)
      (exact * ratio) := by
  have whole : (0 : ℚ) < scale := Nat.cast_pos.mpr positive
  have product := tracks_product scale reading factor positive even
  have near : |(reading : ℚ) * factor / scale - exact * ratio| ≤
      error * bound + limit / scale * more := by
    have parts : (reading : ℚ) * factor / scale - exact * ratio =
        (reading - exact) * ratio + reading / scale * (factor - ratio * scale) := by
      field_simp
      ring
    have first : |((reading : ℚ) - exact) * ratio| ≤ error * bound := by
      rw [abs_mul, abs_of_nonneg share.1]
      exact mul_le_mul tracks share.2 share.1 ((abs_nonneg _).trans tracks)
    have second : |(reading : ℚ) / scale * (factor - ratio * scale)| ≤ limit / scale * more := by
      rw [abs_mul, abs_of_nonneg (div_nonneg (Nat.cast_nonneg _) whole.le)]
      have below : (reading : ℚ) / scale ≤ limit / scale :=
        div_le_div_of_nonneg_right (Nat.cast_le.mpr small) whole.le
      exact mul_le_mul below scaled (abs_nonneg _)
        (div_nonneg (Nat.cast_nonneg _) whole.le)
    rw [parts]
    exact (abs_add_le _ _).trans (add_le_add first second)
  exact tracks_mono (tracks_moved _ product near) (by linarith)

theorem tracks_add {other : Nat} {beside : ℚ} (tracks : Tracks error reading exact)
    (also : Tracks more other beside) : Tracks (error + more) (reading + other) (exact + beside) := by
  have parts : ((reading + other : Nat) : ℚ) - (exact + beside) =
      (reading - exact) + (other - beside) := by
    push_cast
    ring
  rw [Tracks, parts]
  exact (abs_add_le _ _).trans (add_le_add tracks also)

/-- What is left of the whole. -/
theorem tracks_rest (whole : Nat) (tracks : Tracks error reading exact) (inside : reading ≤ whole) :
    Tracks error (whole - reading) (whole - exact) := by
  rw [Tracks, Nat.cast_sub inside]
  have parts : (whole : ℚ) - reading - (whole - exact) = -(reading - exact) := by ring
  rw [parts, abs_neg]
  exact tracks

theorem clamp_cast (v lo hi : Nat) (ordered : lo ≤ hi) :
    ((clamp v lo hi : Nat) : ℚ) = max (lo : ℚ) (min (hi : ℚ) v) := by
  have value : clamp v lo hi = max lo (min hi v) := by
    unfold clamp
    split
    · omega
    · split <;> omega
  rw [value]
  push_cast
  rfl

theorem tracks_clamp (lo hi : Nat) (ordered : lo ≤ hi) (tracks : Tracks error reading exact) :
    Tracks error (clamp reading lo hi) (max (lo : ℚ) (min (hi : ℚ) exact)) := by
  rw [Tracks, clamp_cast reading lo hi ordered]
  have inner : |min (hi : ℚ) reading - min (hi : ℚ) exact| ≤ |(reading : ℚ) - exact| := by
    have both := abs_min_sub_min_le_max (hi : ℚ) (reading : ℚ) hi exact
    rwa [sub_self, abs_zero, max_eq_right (abs_nonneg _)] at both
  have outer := abs_max_sub_max_le_abs (min (hi : ℚ) reading) (min (hi : ℚ) exact) (lo : ℚ)
  rw [max_comm, max_comm (min (hi : ℚ) exact)] at outer
  exact (outer.trans inner).trans tracks

/-- A truncated average of readings that each track their value with an error of
their own. -/
theorem tracks_average (count : Nat) (positive : 0 < count) (readings : Nat → Nat)
    (values errors : Nat → ℚ)
    (tracks : ∀ k, k < count → Tracks (errors k) (readings k) (values k)) :
    Tracks ((∑ k ∈ Finset.range count, errors k) / count + 1) (average count readings)
      ((∑ k ∈ Finset.range count, values k) / count) := by
  have whole : (0 : ℚ) < count := Nat.cast_pos.mpr positive
  have cut := tracks_quotient (∑ k ∈ Finset.range count, readings k) count positive
  have near : |((∑ k ∈ Finset.range count, readings k : Nat) : ℚ) / count -
      (∑ k ∈ Finset.range count, values k) / count| ≤
        (∑ k ∈ Finset.range count, errors k) / count := by
    rw [Nat.cast_sum, ← sub_div, ← Finset.sum_sub_distrib, abs_div, abs_of_pos whole]
    apply div_le_div_of_nonneg_right _ whole.le
    refine (Finset.abs_sum_le_sum_abs _ _).trans ?_
    exact Finset.sum_le_sum fun k member => tracks k (Finset.mem_range.mp member)
  exact tracks_mono (tracks_moved _ cut near) (by linarith)

theorem tracks_average_even (count : Nat) (positive : 0 < count) (readings : Nat → Nat)
    (values : Nat → ℚ) (tracks : ∀ k, k < count → Tracks error (readings k) (values k)) :
    Tracks (error + 1) (average count readings) ((∑ k ∈ Finset.range count, values k) / count) := by
  have whole : (count : ℚ) ≠ 0 := (Nat.cast_pos.mpr positive).ne'
  have each := tracks_average count positive readings values (fun _ => error) tracks
  rw [Finset.sum_const, Finset.card_range, nsmul_eq_mul, mul_div_cancel_left₀ _ whole] at each
  exact each

end RyzenBuild.Tracking
