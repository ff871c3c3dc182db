import Mathlib.Data.Nat.Count
import Mathlib.Data.Fintype.Fin

/-!
64-bit masks read as sets of small numbers: the effect of setting and of
clearing one bit, and the number of set bits.
-/
namespace RyzenBuild.Bitmask

def bit (mask : UInt64) (j : Nat) : Bool := mask.toBitVec.getLsbD j

def single (id : UInt32) : UInt64 := 1 <<< id.toUInt64

/-- The population count of a 64-bit word. -/
def hweight64 (mask : UInt64) : UInt32 := UInt32.ofNat ((List.range 64).countP (bit mask))

@[simp] theorem bit_zero (j : Nat) : bit 0 j = false := by
  simp [bit]

theorem bit_single (id : UInt32) (inside : id.toNat < 64) (j : Nat) :
    bit (single id) j = decide (j = id.toNat) := by
  have amount : id.toNat % 64 = id.toNat := Nat.mod_eq_of_lt inside
  by_cases same : j = id.toNat
  · subst same
    simp [bit, single, amount, inside]
  · by_cases below : j < id.toNat
    · simp [bit, single, BitVec.getLsbD_shiftLeft, amount, below, same]
    · have distance : ¬ j - id.toNat = 0 := by omega
      simp [bit, single, BitVec.getLsbD_shiftLeft, amount, below, same, distance]

theorem bit_insert (mask : UInt64) (id : UInt32) (inside : id.toNat < 64) (j : Nat) :
    bit (mask ||| single id) j = (bit mask j || decide (j = id.toNat)) := by
  rw [← bit_single id inside j]
  simp [bit]

theorem bit_remove (mask : UInt64) (id : UInt32) (inside : id.toNat < 64) (j : Nat) :
    bit (mask &&& ~~~single id) j = (bit mask j && !decide (j = id.toNat)) := by
  rw [← bit_single id inside j]
  by_cases low : j < 64
  · simp [bit, low]
  · have clear := BitVec.getLsbD_of_ge mask.toBitVec j (by omega)
    simp [bit, clear]

theorem eq_zero_of_bits (mask : UInt64) (clear : ∀ j, j < 64 → bit mask j = false) :
    mask = 0 := by
  apply UInt64.toBitVec_inj.mp
  apply BitVec.eq_of_getLsbD_eq
  intro j inside
  simpa [bit] using clear j inside

/-- The population count is the size of the set the mask names. -/
theorem hweight64_toNat (mask : UInt64) :
    (hweight64 mask).toNat = (Finset.univ.filter fun j : Fin 64 => bit mask j).card := by
  have counted : (List.range 64).countP (bit mask) =
      (Finset.univ.filter fun j : Fin 64 => bit mask j).card := by
    have ranged := Nat.count_eq_card_filter_range (fun j => bit mask j = true) 64
    rw [← Finset.card_map Fin.valEmbedding]
    refine Eq.trans ?_ (ranged.trans (congrArg Finset.card ?_))
    · simp [Nat.count]
    · ext j
      simp [Fin.exists_iff, and_comm]
  have few := List.countP_le_length (p := bit mask) (l := List.range 64)
  rw [List.length_range] at few
  unfold hweight64
  rw [UInt32.toNat_ofNat', Nat.mod_eq_of_lt (by omega), counted]

end RyzenBuild.Bitmask
