import RyzenBuild.Lib.FixedPoint

/-!
The fixed-point arithmetic both kernel ladders share: 32-bit fields, 64-bit
intermediates, truncating casts. `dawnhex_kmod.c` and `simplex_adalter_kmod.c`
each carry a copy of these helpers; the copies are the same function.
Every operation keeps the machine width of the C expression it stands for.
-/
namespace RyzenBuild.Ladder

open FixedPoint

def ppm : UInt32 := 1000000
def q16 : UInt32 := 65536

def clampU32 (v lo hi : UInt32) : UInt32 :=
  if v < lo then lo else if v > hi then hi else v

def mulPpm (a b : UInt32) : UInt32 :=
  let v := a.toUInt64 * b.toUInt64
  let v := v + (ppm / 2).toUInt64
  let v := v / ppm.toUInt64
  v.toUInt32

def mulQ16 (a q : UInt32) : UInt32 :=
  let v := a.toUInt64 * q.toUInt64
  let v := v + (q16 / 2).toUInt64
  let v := v >>> 16
  v.toUInt32

def weightsPpm : List UInt32 :=
  [2400000, 1850000, 1400000, 1050000, 800000, 600000, 450000, 300000, 200000]

def build9Mips (baseRetainedPpm : UInt32) : List UInt32 :=
  weightsPpm.map fun weight =>
    let v := baseRetainedPpm.toUInt64 * weight.toUInt64
    let v := v + (ppm / 2).toUInt64
    let v := v / ppm.toUInt64
    clampU32 v.toUInt32 1000 ppm

/-- The Fibonacci fill loop, cells `2 .. count - 1` in ascending order. -/
def fibFrom : Nat → (Nat → UInt32) × UInt64
  | 0 => (fun i => if i < 2 then 1 else 0, 2)
  | n + 1 =>
      let (out, total) := fibFrom n
      let i := n + 2
      let next := out (i - 1) + out (i - 2)
      (fun k => if k = i then next else out k, total + next.toUInt64)

/-- What one ladder node contributes to the sums of its level. -/
structure NodeOut where
  v : UInt32
  crossPpm : UInt32
  coldPpm : UInt32
  energyPpm : UInt32
  deriving DecidableEq, Repr

structure Sums where
  ret : UInt64
  red : UInt64
  cross : UInt64
  cold : UInt64
  energy : UInt64
  deriving DecidableEq, Repr

def Sums.zero : Sums := ⟨0, 0, 0, 0, 0⟩

def Sums.addNode (sums : Sums) (node : NodeOut) : Sums :=
  { ret := sums.ret + node.v.toUInt64
    red := sums.red + (ppm - node.v).toUInt64
    cross := sums.cross + node.crossPpm.toUInt64
    cold := sums.cold + node.coldPpm.toUInt64
    energy := sums.energy + node.energyPpm.toUInt64 }

def levelSums (nodes : UInt32) (node : UInt32 → NodeOut) : Sums :=
  (List.range nodes.toNat).foldl (fun sums n => sums.addNode (node (UInt32.ofNat n))) Sums.zero

def averageU32 (total : UInt64) (count : UInt32) : UInt32 :=
  (total / count.toUInt64).toUInt32

/-- One 64-bit accumulator of a loop over `count` 32-bit readings. -/
def sumU64 (count : Nat) (reading : Nat → UInt32) : UInt64 :=
  (List.range count).foldl (fun acc n => acc + (reading n).toUInt64) 0

theorem clampU32_toNat (v lo hi : UInt32) :
    (clampU32 v lo hi).toNat = clamp v.toNat lo.toNat hi.toNat := by
  unfold clampU32 clamp
  simp only [UInt32.lt_iff_toNat_lt, gt_iff_lt]
  split
  · rfl
  · split <;> rfl

theorem clampU32_between (v lo hi : UInt32) (ordered : lo.toNat ≤ hi.toNat) :
    lo.toNat ≤ (clampU32 v lo hi).toNat ∧ (clampU32 v lo hi).toNat ≤ hi.toNat := by
  rw [clampU32_toNat]
  exact clamp_between _ _ _ ordered

/-- The 64-bit product of two 32-bit factors leaves room for the rounding
term, so only the final cast can lose bits. -/
theorem mulPpm_toNat (a b : UInt32) :
    (mulPpm a b).toNat = mulRound 1000000 a.toNat b.toNat % 2 ^ 32 := by
  have room : a.toNat * b.toNat ≤ (2 ^ 32 - 1) * (2 ^ 32 - 1) :=
    Nat.mul_le_mul (by have := a.toNat_lt; omega) (by have := b.toNat_lt; omega)
  have half : (ppm / 2).toUInt64.toNat = 500000 := by decide
  have whole : ppm.toUInt64.toNat = 1000000 := by decide
  simp only [mulPpm, UInt64.toNat_toUInt32, UInt64.toNat_div, UInt64.toNat_add,
    UInt64.toNat_mul, UInt32.toNat_toUInt64, half, whole, mulRound]
  rw [Nat.mod_eq_of_lt (a := a.toNat * b.toNat) (by omega),
    Nat.mod_eq_of_lt (a := a.toNat * b.toNat + 500000) (by omega)]

theorem mulQ16_toNat (a q : UInt32) :
    (mulQ16 a q).toNat = mulRound 65536 a.toNat q.toNat % 2 ^ 32 := by
  have room : a.toNat * q.toNat ≤ (2 ^ 32 - 1) * (2 ^ 32 - 1) :=
    Nat.mul_le_mul (by have := a.toNat_lt; omega) (by have := q.toNat_lt; omega)
  have half : (q16 / 2).toUInt64.toNat = 32768 := by decide
  have bits : (16 : UInt64).toNat % 64 = 16 := by decide
  simp only [mulQ16, UInt64.toNat_toUInt32, UInt64.toNat_shiftRight, UInt64.toNat_add,
    UInt64.toNat_mul, UInt32.toNat_toUInt64, half, bits, mulRound, Nat.shiftRight_eq_div_pow]
  rw [Nat.mod_eq_of_lt (a := a.toNat * q.toNat) (by omega),
    Nat.mod_eq_of_lt (a := a.toNat * q.toNat + 32768) (by omega)]

theorem sumU64_succ (count : Nat) (reading : Nat → UInt32) :
    sumU64 (count + 1) reading = sumU64 count reading + (reading count).toUInt64 := by
  simp [sumU64, List.range_succ, List.foldl_append]

/-- Up to 2^32 readings of 32 bits fit the 64-bit accumulator. -/
theorem sumU64_toNat (count : Nat) (reading : Nat → UInt32) (few : count ≤ 2 ^ 32) :
    (sumU64 count reading).toNat = ∑ n ∈ Finset.range count, (reading n).toNat := by
  induction count with
  | zero => rfl
  | succ count ih =>
      have prior := ih (by omega)
      have small : ∑ n ∈ Finset.range count, (reading n).toNat ≤ count * (2 ^ 32 - 1) := by
        have counted := Finset.sum_le_card_nsmul (Finset.range count)
          (fun n => (reading n).toNat) (2 ^ 32 - 1)
          (fun n _ => Nat.le_pred_of_lt (reading n).toNat_lt)
        simpa using counted
      have last := (reading count).toNat_lt
      rw [sumU64_succ, UInt64.toNat_add, prior, UInt32.toNat_toUInt64, Finset.sum_range_succ]
      exact Nat.mod_eq_of_lt (by omega)

theorem levelSums_eq (nodes : UInt32) (node : UInt32 → NodeOut) :
    levelSums nodes node =
      { ret := sumU64 nodes.toNat fun n => (node (UInt32.ofNat n)).v
        red := sumU64 nodes.toNat fun n => ppm - (node (UInt32.ofNat n)).v
        cross := sumU64 nodes.toNat fun n => (node (UInt32.ofNat n)).crossPpm
        cold := sumU64 nodes.toNat fun n => (node (UInt32.ofNat n)).coldPpm
        energy := sumU64 nodes.toNat fun n => (node (UInt32.ofNat n)).energyPpm } := by
  unfold levelSums
  induction nodes.toNat with
  | zero => rfl
  | succ count ih =>
      rw [List.range_succ, List.foldl_append, ih]
      simp only [List.foldl_cons, List.foldl_nil, Sums.addNode, sumU64_succ]

/-- A level average is the truncated mean of its readings: it fits 32 bits
because every reading does. -/
theorem averageU32_toNat (count : UInt32) (reading : Nat → UInt32) (positive : 0 < count.toNat) :
    (averageU32 (sumU64 count.toNat reading) count).toNat =
      average count.toNat fun n => (reading n).toNat := by
  have few := count.toNat_lt
  have small := average_le count.toNat (fun n => (reading n).toNat) (2 ^ 32 - 1) positive
    (fun n _ => Nat.le_pred_of_lt (reading n).toNat_lt)
  unfold averageU32
  rw [UInt64.toNat_toUInt32, UInt64.toNat_div, UInt32.toNat_toUInt64,
    sumU64_toNat count.toNat reading (by omega)]
  exact Nat.mod_eq_of_lt (Nat.lt_succ_of_le small)

theorem averageU32_le (count : UInt32) (reading : Nat → UInt32) (bound : Nat)
    (positive : 0 < count.toNat) (small : ∀ n, (reading n).toNat ≤ bound) :
    (averageU32 (sumU64 count.toNat reading) count).toNat ≤ bound := by
  rw [averageU32_toNat count reading positive]
  exact average_le _ _ bound positive (fun n _ => small n)

theorem le_averageU32 (count : UInt32) (reading : Nat → UInt32) (bound : Nat)
    (positive : 0 < count.toNat) (large : ∀ n, bound ≤ (reading n).toNat) :
    bound ≤ (averageU32 (sumU64 count.toNat reading) count).toNat := by
  rw [averageU32_toNat count reading positive]
  exact le_average _ _ bound positive (fun n _ => large n)

theorem ppm_sub_toNat (v : UInt32) (small : v.toNat ≤ 1000000) :
    (ppm - v).toNat = 1000000 - v.toNat := by
  have whole : ppm.toNat = 1000000 := by decide
  rw [UInt32.toNat_sub_of_le _ _ (UInt32.le_iff_toNat_le.mpr (by omega)), whole]

/-- Retained and reduction of a level add up to the whole, or to one below
it, as long as no node retains more than the whole. -/
theorem retained_reduction (count : UInt32) (reading : Nat → UInt32)
    (positive : 0 < count.toNat) (small : ∀ n, n < count.toNat → (reading n).toNat ≤ 1000000) :
    (averageU32 (sumU64 count.toNat reading) count).toNat +
        (averageU32 (sumU64 count.toNat fun n => ppm - reading n) count).toNat = 1000000 ∨
      (averageU32 (sumU64 count.toNat reading) count).toNat +
        (averageU32 (sumU64 count.toNat fun n => ppm - reading n) count).toNat = 999999 := by
  rw [averageU32_toNat count _ positive, averageU32_toNat count _ positive]
  have covered : ∀ n, n < count.toNat → (reading n).toNat + (ppm - reading n).toNat = 1000000 := by
    intro n inside
    have bound := small n inside
    rw [ppm_sub_toNat _ bound]
    omega
  have split := average_complement count.toNat 1000000 (fun n => (reading n).toNat)
    (fun n => (ppm - reading n).toNat) positive covered
  omega

/-- A node that retains more than the whole makes `ppm - v` wrap, and the
excess of 2^32 shows in the level's two averages. -/
theorem retained_reduction_wraps (count : UInt32) (reading : Nat → UInt32)
    (positive : 0 < count.toNat) (few : count.toNat ≤ 2 ^ 31) (n : Nat) (inside : n < count.toNat)
    (exceeds : 1000000 < (reading n).toNat) :
    1000000 < (averageU32 (sumU64 count.toNat reading) count).toNat +
      (averageU32 (sumU64 count.toNat fun n => ppm - reading n) count).toNat := by
  have whole : ppm.toNat = 1000000 := by decide
  have covers : ∀ n, n < count.toNat → 1000000 ≤ (reading n).toNat + (ppm - reading n).toNat := by
    intro n _
    have limit := (reading n).toNat_lt
    rw [UInt32.toNat_sub, whole]
    omega
  have wraps : 1000000 + 2 ^ 32 ≤ (reading n).toNat + (ppm - reading n).toNat := by
    have limit := (reading n).toNat_lt
    rw [UInt32.toNat_sub, whole]
    omega
  have shown := average_excess count.toNat 1000000 (2 ^ 32) (fun n => (reading n).toNat)
    (fun n => (ppm - reading n).toNat) positive covers n inside wraps
  have spread : 2 ≤ 2 ^ 32 / count.toNat := by
    rw [Nat.le_div_iff_mul_le positive]
    omega
  rw [averageU32_toNat count _ positive, averageU32_toNat count _ positive]
  omega

@[simp] theorem mulPpm_ppm (v : UInt32) : mulPpm v ppm = v := by
  have limit := v.toNat_lt
  have whole : ppm.toNat = 1000000 := by decide
  apply UInt32.toNat_inj.mp
  rw [mulPpm_toNat, whole, mulRound]
  omega

@[simp] theorem mulPpm_zero (v : UInt32) : mulPpm v 0 = 0 := by
  apply UInt32.toNat_inj.mp
  rw [mulPpm_toNat]
  simp [mulRound]

@[simp] theorem mulQ16_one (v : UInt32) : mulQ16 v 65536 = v := by
  have limit := v.toNat_lt
  have one : (65536 : UInt32).toNat = 65536 := by decide
  apply UInt32.toNat_inj.mp
  rw [mulQ16_toNat, one, mulRound]
  omega

@[simp] theorem mulQ16_zero (v : UInt32) : mulQ16 v 0 = 0 := by
  apply UInt32.toNat_inj.mp
  rw [mulQ16_toNat]
  simp [mulRound]

theorem clampU32_le_ppm (v : UInt32) : (clampU32 v 0 ppm).toNat ≤ 1000000 :=
  (clampU32_between v 0 ppm (by decide)).2

theorem build9Mips_eq (baseRetainedPpm : UInt32) :
    build9Mips baseRetainedPpm =
      weightsPpm.map fun weight => clampU32 (mulPpm baseRetainedPpm weight) 1000 ppm := rfl

theorem build9Mips_between (baseRetainedPpm mip : UInt32)
    (member : mip ∈ build9Mips baseRetainedPpm) : 1000 ≤ mip.toNat ∧ mip.toNat ≤ 1000000 := by
  rw [build9Mips_eq] at member
  obtain ⟨weight, _, rfl⟩ := List.mem_map.mp member
  exact clampU32_between _ 1000 ppm (by decide)

/-- The weights fall along the table, so the mips of one ratio do not rise. -/
theorem build9Mips_falls (baseRetainedPpm : UInt32) (ratio : baseRetainedPpm.toNat ≤ 1000000) :
    (build9Mips baseRetainedPpm).Pairwise fun upper lower => lower.toNat ≤ upper.toNat := by
  have falls : weightsPpm.Pairwise fun heavy light => light.toNat ≤ heavy.toNat := by
    simp [weightsPpm]
  have heaviest : ∀ weight ∈ weightsPpm, weight.toNat ≤ 2400000 := by simp [weightsPpm]
  have fits : ∀ weight ∈ weightsPpm,
      (mulPpm baseRetainedPpm weight).toNat =
        mulRound 1000000 baseRetainedPpm.toNat weight.toNat := by
    intro weight member
    have bound := mulRound_le 1000000 baseRetainedPpm.toNat weight.toNat 2400000 (by decide)
      (by have := Nat.mul_le_mul ratio (heaviest weight member); omega)
    rw [mulPpm_toNat]
    exact Nat.mod_eq_of_lt (by omega)
  rw [build9Mips_eq, List.pairwise_map]
  apply falls.imp_of_mem
  intro heavy light heavyMember lightMember lighter
  rw [clampU32_toNat, clampU32_toNat, fits heavy heavyMember, fits light lightMember]
  exact clamp_mono _ _ _ _ (by decide) (mulRound_mono _ _ _ _ _ (Nat.le_refl _) lighter)

end RyzenBuild.Ladder
