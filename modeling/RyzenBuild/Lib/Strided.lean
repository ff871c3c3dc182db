import Mathlib.Order.CompletePartialOrder
import Mathlib.Order.Interval.Set.Disjoint
import Mathlib.Data.List.Range

/-!
Regions laid out at a fixed stride. They are disjoint when each but the last
fits its stride; what comes further behind starts later still.
-/
namespace RyzenBuild.Strided

/-- Region `i` of the layout. -/
def region (base stride : Nat) (size : Nat → Nat) (i : Nat) : Set Nat :=
  Set.Ico (base + i * stride) (base + i * stride + size i)

variable (base stride count : Nat) (size : Nat → Nat)

theorem fits_disjoint (i j : Nat) (before : i < j) (fits : size i ≤ stride) :
    Disjoint (region base stride size i) (region base stride size j) := by
  have later : (i + 1) * stride ≤ j * stride := Nat.mul_le_mul_right stride before
  rw [Nat.succ_mul] at later
  rw [Set.disjoint_left]
  intro address first second
  have ends := first.2
  have starts := second.1
  omega

theorem disjoint_fits (i : Nat) (positive : 0 < size (i + 1))
    (disjoint : Disjoint (region base stride size i) (region base stride size (i + 1))) :
    size i ≤ stride := by
  apply Nat.le_of_not_lt
  intro longer
  have next : (i + 1) * stride = i * stride + stride := Nat.succ_mul i stride
  -- The first address of the next region would be in both.
  have here : base + (i + 1) * stride ∈ region base stride size i := ⟨by omega, by omega⟩
  have there : base + (i + 1) * stride ∈ region base stride size (i + 1) := ⟨by omega, by omega⟩
  exact Set.disjoint_left.mp disjoint here there

theorem disjoint_iff_fits (positive : ∀ i, i < count → 0 < size i) :
    (∀ i j, i < j → j < count →
        Disjoint (region base stride size i) (region base stride size j)) ↔
      ∀ i, i + 1 < count → size i ≤ stride := by
  constructor
  · intro disjoint i inside
    exact disjoint_fits base stride size i (positive (i + 1) inside)
      (disjoint i (i + 1) (Nat.lt_succ_self i) inside)
  · intro fits i j before inside
    exact fits_disjoint base stride size i j before (fits i (by omega))

end RyzenBuild.Strided
