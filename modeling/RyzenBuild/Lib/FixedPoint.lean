import Mathlib.Algebra.Order.BigOperators.Group.Finset
import Mathlib.Data.Nat.Fib.Basic

/-!
Unbounded fixed-point arithmetic: products rounded to the nearest unit of a
scale, clamps, and truncating averages of a finite family of readings.
-/
namespace RyzenBuild.FixedPoint

def mulRound (scale a b : Nat) : Nat := (a * b + scale / 2) / scale

def clamp (v lo hi : Nat) : Nat := if v < lo then lo else if hi < v then hi else v

def average (count : Nat) (reading : Nat → Nat) : Nat :=
  (∑ k ∈ Finset.range count, reading k) / count

theorem clamp_between (v lo hi : Nat) (ordered : lo ≤ hi) :
    lo ≤ clamp v lo hi ∧ clamp v lo hi ≤ hi := by
  unfold clamp
  split
  · omega
  · split <;> omega

theorem clamp_mono (lo hi v w : Nat) (ordered : lo ≤ hi) (le : v ≤ w) :
    clamp v lo hi ≤ clamp w lo hi := by
  unfold clamp
  split <;> split <;> (try split) <;> (try split) <;> omega

theorem mulRound_mono (scale a a' b b' : Nat) (left : a ≤ a') (right : b ≤ b') :
    mulRound scale a b ≤ mulRound scale a' b' := by
  unfold mulRound
  have products := Nat.mul_le_mul left right
  exact Nat.div_le_div_right (by omega)

theorem mulRound_le (scale a b bound : Nat) (positive : 0 < scale)
    (small : a * b ≤ bound * scale) : mulRound scale a b ≤ bound := by
  unfold mulRound
  rw [Nat.div_le_iff_le_mul_add_pred positive]
  have half : scale / 2 ≤ scale - 1 := by omega
  have swap : scale * bound = bound * scale := Nat.mul_comm ..
  omega

theorem average_le (count : Nat) (reading : Nat → Nat) (bound : Nat) (positive : 0 < count)
    (small : ∀ k, k < count → reading k ≤ bound) : average count reading ≤ bound := by
  have total : ∑ k ∈ Finset.range count, reading k ≤ count * bound := by
    have counted := Finset.sum_le_card_nsmul (Finset.range count) reading bound
      (fun k member => small k (Finset.mem_range.mp member))
    simpa using counted
  exact (Nat.div_le_div_right total).trans (by rw [Nat.mul_div_cancel_left _ positive])

theorem le_average (count : Nat) (reading : Nat → Nat) (bound : Nat) (positive : 0 < count)
    (large : ∀ k, k < count → bound ≤ reading k) : bound ≤ average count reading := by
  have total : count * bound ≤ ∑ k ∈ Finset.range count, reading k := by
    have counted := Finset.card_nsmul_le_sum (Finset.range count) reading bound
      (fun k member => large k (Finset.mem_range.mp member))
    simpa using counted
  exact le_trans (by rw [Nat.mul_div_cancel_left _ positive]) (Nat.div_le_div_right total)

theorem average_mono (count : Nat) (low high : Nat → Nat)
    (le : ∀ k, k < count → low k ≤ high k) : average count low ≤ average count high :=
  Nat.div_le_div_right
    (Finset.sum_le_sum fun k member => le k (Finset.mem_range.mp member))

/-- Readings apart by at least one stay apart by one after truncation. -/
theorem average_lt (count : Nat) (low high : Nat → Nat) (positive : 0 < count)
    (apart : ∀ k, k < count → low k < high k) : average count low < average count high := by
  have total : (∑ k ∈ Finset.range count, low k) + count ≤
      ∑ k ∈ Finset.range count, high k := by
    have shifted := Finset.sum_le_sum (s := Finset.range count)
      (fun k member => Nat.succ_le_of_lt (apart k (Finset.mem_range.mp member)))
    simpa [Finset.sum_add_distrib] using shifted
  have moved := Nat.div_le_div_right (c := count) total
  rw [Nat.add_div_right _ positive] at moved
  exact moved

theorem div_add_div_bounds (a b count : Nat) (positive : 0 < count) :
    a / count + b / count ≤ (a + b) / count ∧
      (a + b) / count ≤ a / count + b / count + 1 := by
  rw [Nat.add_div positive]
  split <;> omega

/-- Truncating the average of readings and of their complements loses at most
one unit of the whole. -/
theorem average_complement (count whole : Nat) (reading complement : Nat → Nat)
    (positive : 0 < count)
    (whole_eq : ∀ k, k < count → reading k + complement k = whole) :
    average count reading + average count complement = whole ∨
      average count reading + average count complement + 1 = whole := by
  have total : (∑ k ∈ Finset.range count, reading k) +
      (∑ k ∈ Finset.range count, complement k) = count * whole := by
    rw [← Finset.sum_add_distrib]
    rw [Finset.sum_congr rfl (fun k member => whole_eq k (Finset.mem_range.mp member))]
    simp
  have bounds := div_add_div_bounds (∑ k ∈ Finset.range count, reading k)
    (∑ k ∈ Finset.range count, complement k) count positive
  rw [total, Nat.mul_div_cancel_left _ positive] at bounds
  unfold average
  omega

/-- One complement that exceeds the whole by `excess` shows in the sum of the
two averages, up to the one unit truncation may lose. -/
theorem average_excess (count whole excess : Nat) (reading complement : Nat → Nat)
    (positive : 0 < count)
    (covers : ∀ k, k < count → whole ≤ reading k + complement k)
    (k : Nat) (inside : k < count) (exceeds : whole + excess ≤ reading k + complement k) :
    whole + excess / count ≤ average count reading + average count complement + 1 := by
  have total : count * whole + excess ≤ (∑ k ∈ Finset.range count, reading k) +
      (∑ k ∈ Finset.range count, complement k) := by
    rw [← Finset.sum_add_distrib]
    have member : k ∈ Finset.range count := Finset.mem_range.mpr inside
    rw [← Finset.add_sum_erase _ _ member]
    have rest := Finset.card_nsmul_le_sum ((Finset.range count).erase k)
      (fun k => reading k + complement k) whole
      (fun j other => covers j (Finset.mem_range.mp (Finset.mem_of_mem_erase other)))
    rw [Finset.card_erase_of_mem member, Finset.card_range, smul_eq_mul] at rest
    have split : count * whole = whole + (count - 1) * whole := by
      conv_lhs => rw [show count = 1 + (count - 1) by omega]
      rw [Nat.add_mul, Nat.one_mul]
    omega
  have bounds := div_add_div_bounds (∑ k ∈ Finset.range count, reading k)
    (∑ k ∈ Finset.range count, complement k) count positive
  have moved := Nat.div_le_div_right (c := count) total
  rw [Nat.mul_add_div positive] at moved
  unfold average
  omega

/-- The Fibonacci ladder: the weight of the deepest of `count` levels among
the sum of all of them is at least a third. -/
theorem fib_third (count : Nat) (positive : 0 < count) :
    Nat.fib (count + 2) ≤ 3 * Nat.fib count := by
  cases count with
  | zero => contradiction
  | succ n =>
      have deepest : Nat.fib (n + 1 + 2) = Nat.fib (n + 1) + Nat.fib (n + 2) := Nat.fib_add_two
      have above : Nat.fib (n + 2) = Nat.fib n + Nat.fib (n + 1) := Nat.fib_add_two
      have grows := Nat.fib_le_fib_succ (n := n)
      omega

end RyzenBuild.FixedPoint
