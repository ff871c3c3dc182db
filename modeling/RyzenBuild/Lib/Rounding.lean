import Mathlib.Algebra.Order.Floor.Ring
import Mathlib.Tactic.FieldSimp
import Mathlib.Tactic.Linarith
import Mathlib.Tactic.Ring

/-!
The rounding functions of `math.h` over exact numbers: `round`, half away from
zero; `fmod`, with the sign of the dividend; and a phase kept in one period. Last
the rounding that other languages have, half to the even neighbour.
-/
namespace RyzenBuild.Rounding

variable {K : Type} [Field K] [LinearOrder K] [IsStrictOrderedRing K] [FloorRing K]

def roundAway (x : K) : ℤ := if 0 ≤ x then ⌊x + 1 / 2⌋ else ⌈x - 1 / 2⌉

def trunc (x : K) : ℤ := if 0 ≤ x then ⌊x⌋ else ⌈x⌉

def fmod (x y : K) : K := x - trunc (x / y) * y

/-- The remainder moved into the period from zero on. -/
def wrap (x period : K) : K :=
  let rest := fmod x period
  if rest < 0 then rest + period else rest

theorem roundAway_le_iff (x : K) (n : ℤ) (positive : 0 ≤ x) : roundAway x ≤ n ↔ x < n + 1 / 2 := by
  rw [roundAway, if_pos positive, ← Int.lt_add_one_iff, Int.floor_lt]
  push_cast
  constructor <;> intro less <;> linarith

section Wrap

variable (x period : K) (positive : 0 < period)
include positive

/-- Whatever the sign of the dividend, the phase is the fractional part of the
periods gone by. -/
theorem wrap_eq_fract : wrap x period = Int.fract (x / period) * period := by
  have whole : x = x / period * period := by field_simp
  unfold wrap fmod trunc
  by_cases forward : 0 ≤ x / period
  · have phase : x - (⌊x / period⌋ : K) * period = Int.fract (x / period) * period := by
      rw [Int.fract, sub_mul, ← whole]
    have stays : ¬Int.fract (x / period) * period < 0 :=
      not_lt.mpr (mul_nonneg (Int.fract_nonneg _) positive.le)
    simp only [if_pos forward, phase, if_neg stays]
  · have phase : x - (⌈x / period⌉ : K) * period = (x / period - ⌈x / period⌉) * period := by
      rw [sub_mul, ← whole]
    simp only [if_neg forward, phase]
    by_cases integral : Int.fract (x / period) = 0
    · obtain ⟨periods, exact⟩ := Int.fract_eq_zero_iff.mp integral
      have still : x / period - ⌈x / period⌉ = 0 := by
        rw [← exact, Int.ceil_intCast, sub_self]
      rw [still, integral, zero_mul, if_neg (lt_irrefl 0)]
    · have back : x / period - ⌈x / period⌉ = Int.fract (x / period) - 1 := by
        rw [Int.ceil_eq_add_one_sub_fract integral]
        ring
      have behind : (Int.fract (x / period) - 1) * period < 0 :=
        mul_neg_of_neg_of_pos (by linarith [Int.fract_lt_one (x / period)]) positive
      rw [back, if_pos behind]
      ring

theorem wrap_again (steps : K) :
    wrap (wrap x period + steps * period) period = wrap x period ↔ ∃ k : ℤ, steps = k := by
  rw [wrap_eq_fract _ _ positive, wrap_eq_fract x period positive]
  have sum : (Int.fract (x / period) * period + steps * period) / period =
      Int.fract (x / period) + steps := by field_simp
  rw [sum, mul_left_inj' positive.ne', ← Int.fract_fract (x / period), Int.fract_eq_fract]
  constructor
  · rintro ⟨k, gone⟩
    exact ⟨k, by rw [← gone, Int.fract_fract]; ring⟩
  · rintro ⟨k, rfl⟩
    exact ⟨k, by rw [Int.fract_fract]; ring⟩

end Wrap

def roundEven (x : K) : ℤ :=
  if Int.fract x < 1 / 2 then ⌊x⌋
  else if 1 / 2 < Int.fract x then ⌊x⌋ + 1
  else if ⌊x⌋ % 2 = 0 then ⌊x⌋ else ⌊x⌋ + 1

theorem roundEven_near (x : K) : |(roundEven x : K) - x| ≤ 1 / 2 := by
  have parts := Int.floor_add_fract x
  have low := Int.fract_nonneg x
  have high := Int.fract_lt_one x
  have below : (⌊x⌋ : K) - x = -Int.fract x := by linarith
  have above : ((⌊x⌋ + 1 : ℤ) : K) - x = 1 - Int.fract x := by
    push_cast
    linarith
  have down (near : Int.fract x ≤ 1 / 2) : |(⌊x⌋ : K) - x| ≤ 1 / 2 := by
    rw [below, abs_neg, abs_of_nonneg low]
    exact near
  have up (near : 1 / 2 ≤ Int.fract x) : |((⌊x⌋ + 1 : ℤ) : K) - x| ≤ 1 / 2 := by
    rw [above, abs_of_nonneg (by linarith)]
    linarith
  unfold roundEven
  split
  · next less => exact down less.le
  · next notLess =>
      split
      · next more => exact up more.le
      · next notMore =>
          split
          · exact down (not_lt.mp notMore)
          · exact up (not_lt.mp notLess)

section Order

omit [IsStrictOrderedRing K]

theorem floor_le_roundEven (x : K) : ⌊x⌋ ≤ roundEven x := by
  unfold roundEven
  split
  · exact le_refl _
  · split
    · exact Int.le_add_one (le_refl _)
    · split
      · exact le_refl _
      · exact Int.le_add_one (le_refl _)

theorem roundEven_le_floor (x : K) : roundEven x ≤ ⌊x⌋ + 1 := by
  unfold roundEven
  split
  · exact Int.le_add_one (le_refl _)
  · split
    · exact le_refl _
    · split
      · exact Int.le_add_one (le_refl _)
      · exact le_refl _

end Order

theorem roundEven_mono (x y : K) (le : x ≤ y) : roundEven x ≤ roundEven y := by
  rcases lt_or_eq_of_le (Int.floor_mono le) with apart | same
  · have below := roundEven_le_floor x
    have above := floor_le_roundEven y
    omega
  · -- In one unit the fractional parts decide.
    have parts : Int.fract x ≤ Int.fract y := by
      rw [Int.fract, Int.fract, same]
      linarith
    unfold roundEven
    rw [same]
    split
    · split
      · exact le_refl _
      · split
        · exact Int.le_add_one (le_refl _)
        · split
          · exact le_refl _
          · exact Int.le_add_one (le_refl _)
    · next notLess =>
        rw [if_neg fun less => notLess (parts.trans_lt less)]
        split
        · next more => rw [if_pos (more.trans_le parts)]
        · split
          · split
            · exact Int.le_add_one (le_refl _)
            · exact le_refl _
          · split <;> exact le_refl _

theorem roundEven_int (n : ℤ) : roundEven (n : K) = n := by
  rw [roundEven, Int.fract_intCast, if_pos (by norm_num), Int.floor_intCast]

/-- Nothing but an integer that is nearest. -/
theorem roundEven_of_near (x : K) (n : ℤ) (near : |x - n| < 1 / 2) : roundEven x = n := by
  have rounded := roundEven_near x
  have parts : (roundEven x : K) - n = (roundEven x - x) + (x - n) := by ring
  have less : |((roundEven x - n : ℤ) : K)| < 1 := by
    rw [Int.cast_sub, parts]
    refine (abs_add_le _ _).trans_lt ?_
    linarith
  have zero : |roundEven x - n| < 1 := by exact_mod_cast less
  exact sub_eq_zero.mp (Int.abs_lt_one_iff.mp zero)

theorem roundEven_bounds (x : K) : x - 1 / 2 ≤ roundEven x ∧ (roundEven x : K) ≤ x + 1 / 2 := by
  have near := abs_le.mp (roundEven_near x)
  constructor <;> linarith [near.1, near.2]

theorem roundEven_between (x : K) (m n : ℤ) (low : m - 1 / 2 < x) (high : x < n + 1 / 2) :
    m ≤ roundEven x ∧ roundEven x ≤ n := by
  have near := roundEven_bounds x
  constructor
  · have above : (m : K) < ((roundEven x + 1 : ℤ) : K) := by
      push_cast
      linarith [near.1]
    exact Int.lt_add_one_iff.mp (Int.cast_lt.mp above)
  · have under : (roundEven x : K) < ((n + 1 : ℤ) : K) := by
      push_cast
      linarith [near.2]
    exact Int.lt_add_one_iff.mp (Int.cast_lt.mp under)

/-- What is left of an even whole is rounded to what is left: at a tie both go to
their even neighbours. -/
theorem roundEven_rest (whole : ℤ) (even : whole % 2 = 0) (x : K) :
    roundEven ((whole : K) - x) = whole - roundEven x := by
  by_cases integral : Int.fract x = 0
  · obtain ⟨n, rfl⟩ := Int.fract_eq_zero_iff.mp integral
    rw [← Int.cast_sub, roundEven_int, roundEven_int]
  · have positive : 0 < Int.fract x := lt_of_le_of_ne (Int.fract_nonneg x) (Ne.symm integral)
    have below := Int.fract_lt_one x
    have parts := Int.floor_add_fract x
    have floored : ⌊(whole : K) - x⌋ = whole - ⌊x⌋ - 1 := by
      rw [Int.floor_eq_iff]
      push_cast
      constructor <;> linarith
    have part : Int.fract ((whole : K) - x) = 1 - Int.fract x := by
      rw [Int.fract, floored]
      push_cast
      linarith
    rw [roundEven, floored, part]
    rcases lt_trichotomy (Int.fract x) (1 / 2) with less | tie | more
    · rw [if_neg (by linarith), if_pos (by linarith), roundEven, if_pos less]
      omega
    · rw [if_neg (by linarith), if_neg (by linarith), roundEven, if_neg tie.not_lt,
        if_neg tie.not_gt]
      split <;> split <;> omega
    · rw [if_pos (by linarith), roundEven, if_neg more.le.not_gt, if_pos more]
      omega

end RyzenBuild.Rounding
