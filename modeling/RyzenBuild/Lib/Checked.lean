import Mathlib.Algebra.Group.Nat.Defs
import Mathlib.Data.List.Range

/-!
Machine operations that fail where the unbounded result leaves the word. A
program rewritten over them succeeds with the machine's own result exactly
when none of its operations wraps; the rules carry an upper bound from one
operation to the next, so a chain is checked stage by stage.
-/
namespace RyzenBuild.Checked

def guarded {Value : Type} (fits : Prop) [Decidable fits] (value : Value) : Option Value :=
  if fits then some value else none

def add32 (a b : UInt32) : Option UInt32 := guarded (a.toNat + b.toNat < 2 ^ 32) (a + b)
def sub32 (a b : UInt32) : Option UInt32 := guarded (b.toNat ≤ a.toNat) (a - b)
def mul32 (a b : UInt32) : Option UInt32 := guarded (a.toNat * b.toNat < 2 ^ 32) (a * b)
def add64 (a b : UInt64) : Option UInt64 := guarded (a.toNat + b.toNat < 2 ^ 64) (a + b)
def mul64 (a b : UInt64) : Option UInt64 := guarded (a.toNat * b.toNat < 2 ^ 64) (a * b)
def narrow (v : UInt64) : Option UInt32 := guarded (v.toNat < 2 ^ 32) v.toUInt32

theorem guarded_some {Value : Type} (fits : Prop) [Decidable fits] (value result : Value) :
    guarded fits value = some result ↔ fits ∧ value = result := by
  unfold guarded
  split <;> simp [*]

/-- The checked operation succeeds with this value, which keeps the bound. -/
structure Within (checked : Option UInt32) (value : UInt32) (bound : Nat) : Prop where
  runs : checked = some value
  below : value.toNat ≤ bound

/-- Success means that the machine value is the unbounded one. -/
theorem add32_exact (a b value : UInt32) (runs : add32 a b = some value) :
    value.toNat = a.toNat + b.toNat := by
  obtain ⟨fits, rfl⟩ := (guarded_some _ _ _).mp runs
  rw [UInt32.toNat_add, Nat.mod_eq_of_lt fits]

theorem sub32_exact (a b value : UInt32) (runs : sub32 a b = some value) :
    value.toNat + b.toNat = a.toNat := by
  obtain ⟨fits, rfl⟩ := (guarded_some _ _ _).mp runs
  rw [UInt32.toNat_sub_of_le a b (UInt32.le_iff_toNat_le.mpr fits)]
  omega

theorem mul32_exact (a b value : UInt32) (runs : mul32 a b = some value) :
    value.toNat = a.toNat * b.toNat := by
  obtain ⟨fits, rfl⟩ := (guarded_some _ _ _).mp runs
  rw [UInt32.toNat_mul, Nat.mod_eq_of_lt fits]

theorem add64_exact (a b value : UInt64) (runs : add64 a b = some value) :
    value.toNat = a.toNat + b.toNat := by
  obtain ⟨fits, rfl⟩ := (guarded_some _ _ _).mp runs
  rw [UInt64.toNat_add, Nat.mod_eq_of_lt fits]

theorem mul64_exact (a b value : UInt64) (runs : mul64 a b = some value) :
    value.toNat = a.toNat * b.toNat := by
  obtain ⟨fits, rfl⟩ := (guarded_some _ _ _).mp runs
  rw [UInt64.toNat_mul, Nat.mod_eq_of_lt fits]

theorem narrow_exact (v : UInt64) (value : UInt32) (runs : narrow v = some value) :
    value.toNat = v.toNat := by
  obtain ⟨fits, rfl⟩ := (guarded_some _ _ _).mp runs
  rw [UInt64.toNat_toUInt32, Nat.mod_eq_of_lt fits]

theorem add32_within (a b : UInt32) (left right : Nat) (leftBound : a.toNat ≤ left)
    (rightBound : b.toNat ≤ right) (fits : left + right < 2 ^ 32) :
    Within (add32 a b) (a + b) (left + right) := by
  have runs : add32 a b = some (a + b) := if_pos (by omega)
  refine ⟨runs, ?_⟩
  rw [add32_exact a b _ runs]
  omega

theorem sub32_within (a b : UInt32) (left : Nat) (leftBound : a.toNat ≤ left)
    (ordered : b.toNat ≤ a.toNat) : Within (sub32 a b) (a - b) left := by
  have runs : sub32 a b = some (a - b) := if_pos ordered
  refine ⟨runs, ?_⟩
  have exact := sub32_exact a b _ runs
  omega

theorem mul32_within (a b : UInt32) (left right : Nat) (leftBound : a.toNat ≤ left)
    (rightBound : b.toNat ≤ right) (fits : left * right < 2 ^ 32) :
    Within (mul32 a b) (a * b) (left * right) := by
  have product := Nat.mul_le_mul leftBound rightBound
  have runs : mul32 a b = some (a * b) := if_pos (by omega)
  refine ⟨runs, ?_⟩
  rw [mul32_exact a b _ runs]
  exact product

theorem narrow_within (v : UInt64) (bound : Nat) (below : v.toNat ≤ bound)
    (fits : bound < 2 ^ 32) : Within (narrow v) v.toUInt32 bound := by
  have runs : narrow v = some v.toUInt32 := if_pos (by omega)
  refine ⟨runs, ?_⟩
  rw [narrow_exact v _ runs]
  exact below

theorem add64_runs (a b : UInt64) (fits : a.toNat + b.toNat < 2 ^ 64) :
    add64 a b = some (a + b) := if_pos fits

theorem mul64_runs (a b : UInt64) (fits : a.toNat * b.toNat < 2 ^ 64) :
    mul64 a b = some (a * b) := if_pos fits

/-- A loop over checked turns succeeds with the machine's own loop when an
invariant of the number of turns made lets every turn succeed. -/
theorem foldlM_checked {State Item : Type} (checked : State → Item → Option State)
    (turn : State → Item → State) (invariant : Nat → State → Prop) (limit : Nat)
    (items : List Item) (done : Nat) (start : State) (few : done + items.length ≤ limit)
    (init : invariant done start)
    (succeeds : ∀ k s, ∀ item ∈ items, k < limit → invariant k s →
      checked s item = some (turn s item) ∧ invariant (k + 1) (turn s item)) :
    items.foldlM checked start = some (items.foldl turn start) ∧
      invariant (done + items.length) (items.foldl turn start) := by
  induction items generalizing done start with
  | nil => exact ⟨rfl, init⟩
  | cons item rest ih =>
      have counted : done + 1 + rest.length = done + (item :: rest).length := by simp; omega
      obtain ⟨here, kept⟩ := succeeds done start item (List.mem_cons_self ..)
        (by simp at few; omega) init
      obtain ⟨later, final⟩ := ih (done + 1) (turn start item) (by omega) kept
        fun k s other member => succeeds k s other (List.mem_cons_of_mem item member)
      rw [counted] at final
      exact ⟨by simp [here, later], final⟩

theorem mapM_checked {Source Target : Type} (checked : Source → Option Target)
    (apply : Source → Target) (items : List Source)
    (succeeds : ∀ item ∈ items, checked item = some (apply item)) :
    items.mapM checked = some (items.map apply) := by
  induction items with
  | nil => rfl
  | cons item rest ih =>
      have here := succeeds item (List.mem_cons_self ..)
      have later := ih fun other member => succeeds other (List.mem_cons_of_mem item member)
      simp [List.mapM_cons, here, later]

end RyzenBuild.Checked
