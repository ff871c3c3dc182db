import Mathlib.Algebra.Order.Group.MinMax
import Mathlib.Data.Int.Log
import Mathlib.Data.Rat.Floor
import Mathlib.Tactic.Positivity
import RyzenBuild.Lib.Rounding

/-!
Arithmetic on floats: each operation is the exact one with its result rounded to a
float. All that is relied on are the order of the rounding and its error; binary64 is
one instance. How the numbers of a list are added up is left to the language. Numbers
beyond the largest float are not looked at.
-/
namespace RyzenBuild.Rounding

structure Floats where
  fl : ℚ → ℚ
  sum : List ℚ → ℚ
  mono : ∀ x y, x ≤ y → fl x ≤ fl y
  near : ∀ x, |fl x - x| ≤ |x| / 2 ^ 53 + 1 / 2 ^ 1074
  whole : ∀ n : ℤ, |n| < 2 ^ 53 → fl n = n
  sum_near : ∀ (values : List ℚ) (bound : ℚ), (∀ v ∈ values, |v| ≤ bound) →
    values.length ≤ 2 ^ 30 →
      |sum values - values.sum| ≤ (values.length : ℚ) ^ 2 * (bound + 1) / 2 ^ 52

/-- `x` stands for `a`, with an error of `k` units in the last place of one. -/
def Near (k x a : ℚ) : Prop := |x - a| ≤ k / 2 ^ 53

section Near

variable {j k m x y z a b c bound more : ℚ}

theorem near_self (a : ℚ) : Near 0 a a := by
  rw [Near, sub_self, abs_zero, zero_div]

theorem near_mono (near : Near k x a) (le : k ≤ m) : Near m x a :=
  near.trans (div_le_div_of_nonneg_right le (by positivity))

theorem near_add (first : Near j x a) (second : Near k y b) : Near (j + k) (x + y) (a + b) := by
  have parts : x + y - (a + b) = (x - a) + (y - b) := by ring
  rw [Near, parts, add_div]
  exact (abs_add_le _ _).trans (add_le_add first second)

theorem near_sub (first : Near j x a) (second : Near k y b) : Near (j + k) (x - y) (a - b) := by
  have parts : x - y - (a - b) = (x - a) + (b - y) := by ring
  rw [Near, parts, add_div]
  refine (abs_add_le _ _).trans (add_le_add first ?_)
  rw [abs_sub_comm]
  exact second

theorem near_mul (first : Near j x a) (second : Near k y b) (small : |a| ≤ bound)
    (also : |b| ≤ more) (few : k ≤ 2 ^ 53) :
    Near (j * (more + 1) + bound * k) (x * y) (a * b) := by
  have parts : x * y - a * b = (x - a) * y + a * (y - b) := by ring
  have unit : k / 2 ^ 53 ≤ 1 := (div_le_one (by positivity)).mpr few
  have size : |y| ≤ more + 1 := by
    have whole := abs_add_le (y - b) b
    rw [sub_add_cancel] at whole
    have off : |y - b| ≤ k / 2 ^ 53 := second
    linarith
  have one : |(x - a) * y| ≤ j / 2 ^ 53 * (more + 1) := by
    rw [abs_mul]
    exact mul_le_mul first size (abs_nonneg _) ((abs_nonneg _).trans first)
  have two : |a * (y - b)| ≤ bound * (k / 2 ^ 53) := by
    rw [abs_mul]
    exact mul_le_mul small second (abs_nonneg _) ((abs_nonneg _).trans small)
  have sum : (j * (more + 1) + bound * k) / 2 ^ 53 =
      j / 2 ^ 53 * (more + 1) + bound * (k / 2 ^ 53) := by ring
  rw [Near, parts, sum]
  exact (abs_add_le _ _).trans (add_le_add one two)

theorem near_max (first : Near j x a) (second : Near k y b) (positive : 0 ≤ j ∧ 0 ≤ k) :
    Near (j + k) (max x y) (max a b) := by
  refine (abs_max_sub_max_le_max x y a b).trans (max_le ?_ ?_)
  · exact near_mono first (le_add_of_nonneg_right positive.2)
  · exact near_mono second (le_add_of_nonneg_left positive.1)

theorem near_min (first : Near j x a) (second : Near k y b) (positive : 0 ≤ j ∧ 0 ≤ k) :
    Near (j + k) (min x y) (min a b) := by
  refine (abs_min_sub_min_le_max x y a b).trans (max_le ?_ ?_)
  · exact near_mono first (le_add_of_nonneg_right positive.2)
  · exact near_mono second (le_add_of_nonneg_left positive.1)

end Near

namespace Floats

variable (f : Floats)

theorem fl_zero : f.fl 0 = 0 := by
  have zero := f.whole 0 (by norm_num)
  rwa [Int.cast_zero] at zero

theorem fl_one : f.fl 1 = 1 := by
  have one := f.whole 1 (by norm_num)
  rwa [Int.cast_one] at one

theorem fl_nonneg (x : ℚ) (positive : 0 ≤ x) : 0 ≤ f.fl x :=
  f.fl_zero.symm.trans_le (f.mono 0 x positive)

theorem fl_le_one (x : ℚ) (small : x ≤ 1) : f.fl x ≤ 1 := (f.mono x 1 small).trans_eq f.fl_one

theorem near_fl {k x a bound : ℚ} (near : Near k x a) (small : |a| ≤ bound) (few : k ≤ 2 ^ 53) :
    Near (k + bound + 2) (f.fl x) a := by
  have unit : k / 2 ^ 53 ≤ 1 := (div_le_one (by positivity)).mpr few
  have off : |x - a| ≤ k / 2 ^ 53 := near
  have size : |x| ≤ bound + 1 := by
    have whole := abs_add_le (x - a) a
    rw [sub_add_cancel] at whole
    linarith
  have least : (1 : ℚ) / 2 ^ 1074 ≤ 1 / 2 ^ 53 :=
    one_div_le_one_div_of_le (by positivity) (pow_le_pow_right₀ (by norm_num) (by norm_num))
  -- The unit of the smallest floats is far below the last place of one.
  have rounded : |f.fl x - x| ≤ (bound + 2) / 2 ^ 53 := by
    refine (f.near x).trans ?_
    have sum : (bound + 2) / 2 ^ 53 = (bound + 1) / (2 : ℚ) ^ 53 + 1 / 2 ^ 53 := by ring
    rw [sum]
    exact add_le_add (div_le_div_of_nonneg_right size (by positivity)) least
  have parts : f.fl x - a = (f.fl x - x) + (x - a) := by ring
  have total : (k + bound + 2) / 2 ^ 53 = (bound + 2) / 2 ^ 53 + k / 2 ^ 53 := by ring
  rw [Near, parts, total]
  exact (abs_add_le _ _).trans (add_le_add rounded off)

def add (x y : ℚ) : ℚ := f.fl (x + y)

def sub (x y : ℚ) : ℚ := f.fl (x - y)

def mul (x y : ℚ) : ℚ := f.fl (x * y)

def div (x y : ℚ) : ℚ := f.fl (x / y)

/-- A number as it is written. -/
theorem near_literal (a bound : ℚ) (small : |a| ≤ bound) : Near (bound + 2) (f.fl a) a :=
  near_mono (f.near_fl (near_self a) small (by norm_num)) (by linarith)

section Operations

variable {j k x y a b bound more : ℚ} (first : Near j x a) (second : Near k y b)

include first second

theorem add_near (small : |a + b| ≤ bound) (few : j + k ≤ 2 ^ 53) :
    Near (j + k + bound + 2) (f.add x y) (a + b) := f.near_fl (near_add first second) small few

theorem sub_near (small : |a - b| ≤ bound) (few : j + k ≤ 2 ^ 53) :
    Near (j + k + bound + 2) (f.sub x y) (a - b) := f.near_fl (near_sub first second) small few

theorem mul_near (small : |a| ≤ bound) (also : |b| ≤ more) (few : k ≤ 2 ^ 53)
    (fewer : j * (more + 1) + bound * k ≤ 2 ^ 53) :
    Near (j * (more + 1) + bound * k + bound * more + 2) (f.mul x y) (a * b) := by
  apply f.near_fl (near_mul first second small also few) _ fewer
  rw [abs_mul]
  exact mul_le_mul small also (abs_nonneg _) ((abs_nonneg _).trans small)

end Operations

/-- The float of so many units in a decimal place. -/
def decimal (n : ℤ) (digits : Nat) : ℚ := f.fl (n / 10 ^ digits)

/-- `round` to decimal digits, half to even: of the exact value of the float. -/
def round (value : ℚ) (digits : Nat) : ℚ := f.decimal (roundEven (value * 10 ^ digits)) digits

theorem decimal_mono (m n : ℤ) (digits : Nat) (le : m ≤ n) :
    f.decimal m digits ≤ f.decimal n digits := by
  apply f.mono
  exact div_le_div_of_nonneg_right (Int.cast_le.mpr le) (by positivity)

theorem round_mono (x y : ℚ) (digits : Nat) (le : x ≤ y) : f.round x digits ≤ f.round y digits := by
  apply f.decimal_mono
  exact roundEven_mono _ _ (mul_le_mul_of_nonneg_right le (by positivity))

/-- A value that is nearest to a decimal is rounded to it. -/
theorem round_of_near (x : ℚ) (n : ℤ) (digits : Nat) (near : |x * 10 ^ digits - n| < 1 / 2) :
    f.round x digits = f.decimal n digits := by
  rw [round, roundEven_of_near _ n near]

end Floats

section Binary64

/-- Of the last place of a number. -/
def exponent (x : ℚ) : ℤ := max (Int.log 2 |x| - 52) (-1074)

def nearest (x : ℚ) : ℚ := roundEven (x / 2 ^ exponent x) * 2 ^ exponent x

theorem place_pos (e : ℤ) : (0 : ℚ) < 2 ^ e := zpow_pos (by norm_num) e

theorem nearest_zero : nearest 0 = 0 := by
  have zero : roundEven (0 : ℚ) = 0 := by exact_mod_cast roundEven_int (K := ℚ) 0
  rw [nearest, zero_div, zero, Int.cast_zero, zero_mul]

theorem nearest_neg (x : ℚ) : nearest (-x) = -nearest x := by
  have same : exponent (-x) = exponent x := by rw [exponent, exponent, abs_neg]
  have odd := roundEven_rest 0 (by decide) (x / 2 ^ exponent x)
  rw [Int.cast_zero, zero_sub, zero_sub] at odd
  rw [nearest, nearest, same, neg_div, odd, Int.cast_neg, neg_mul]

theorem nearest_le (x : ℚ) (n : ℤ) (le : x ≤ n * 2 ^ exponent x) :
    nearest x ≤ n * 2 ^ exponent x := by
  apply mul_le_mul_of_nonneg_right _ (place_pos _).le
  have below := roundEven_mono _ _ ((div_le_iff₀ (place_pos _)).mpr le)
  rw [roundEven_int] at below
  exact Int.cast_le.mpr below

theorem le_nearest (x : ℚ) (n : ℤ) (le : n * 2 ^ exponent x ≤ x) :
    n * 2 ^ exponent x ≤ nearest x := by
  apply mul_le_mul_of_nonneg_right _ (place_pos _).le
  have above := roundEven_mono _ _ ((le_div_iff₀ (place_pos _)).mpr le)
  rw [roundEven_int] at above
  exact Int.cast_le.mpr above

theorem nearest_nonneg (x : ℚ) (positive : 0 ≤ x) : 0 ≤ nearest x := by
  have least := le_nearest x 0 (by rwa [Int.cast_zero, zero_mul])
  rwa [Int.cast_zero, zero_mul] at least

/-- With the exponent of the larger number a power of two lies between the two. -/
theorem nearest_mono_pos (x y : ℚ) (positive : 0 < x) (le : x ≤ y) : nearest x ≤ nearest y := by
  have positive' := positive.trans_le le
  have logs := Int.log_mono_right (b := 2) positive le
  have ordered : exponent x ≤ exponent y := by
    rw [exponent, exponent, abs_of_pos positive, abs_of_pos positive']
    omega
  rcases ordered.lt_or_eq with less | same
  · have reached : exponent y = Int.log 2 y - 52 := by
      have value : exponent y = max (Int.log 2 y - 52) (-1074) := by
        rw [exponent, abs_of_pos positive']
      have least : -1074 ≤ exponent x := le_max_right _ _
      omega
    have under : Int.log 2 x < Int.log 2 y := by
      rw [reached, exponent, abs_of_pos positive] at less
      omega
    have split (e : ℤ) (d : Nat) (sum : Int.log 2 y = e + d) :
        (2 : ℚ) ^ Int.log 2 y = ((2 ^ d : ℤ) : ℚ) * 2 ^ e := by
      rw [sum, zpow_add₀ (by norm_num), zpow_natCast, mul_comm]
      push_cast
      rfl
    -- The power is a float of either exponent, so neither number is rounded past it.
    obtain ⟨d, apart⟩ := Int.eq_ofNat_of_zero_le (show 0 ≤ Int.log 2 y - exponent x by omega)
    have first := nearest_le x (2 ^ d) (by
      rw [← split (exponent x) d (by omega)]
      exact ((Int.lt_zpow_iff_log_lt (by decide) positive).mpr under).le)
    have second := le_nearest y (2 ^ 52) (by
      rw [← split (exponent y) 52 (by omega)]
      exact Int.zpow_log_le_self (by decide) positive')
    rw [← split (exponent x) d (by omega)] at first
    rw [← split (exponent y) 52 (by omega)] at second
    exact first.trans second
  · rw [nearest, nearest, same]
    apply mul_le_mul_of_nonneg_right _ (place_pos _).le
    exact_mod_cast roundEven_mono _ _ (div_le_div_of_nonneg_right le (place_pos _).le)

theorem nearest_mono (x y : ℚ) (le : x ≤ y) : nearest x ≤ nearest y := by
  rcases lt_trichotomy 0 x with positive | zero | negative
  · exact nearest_mono_pos x y positive le
  · have none := nearest_nonneg y (zero.trans_le le)
    rwa [← zero, nearest_zero]
  · rcases le_or_gt 0 y with positive | negative'
    · have flipped := nearest_nonneg (-x) (by linarith)
      rw [nearest_neg] at flipped
      have above := nearest_nonneg y positive
      linarith
    · have flipped := nearest_mono_pos (-y) (-x) (by linarith) (by linarith)
      rw [nearest_neg, nearest_neg] at flipped
      linarith

theorem nearest_near (x : ℚ) : |nearest x - x| ≤ |x| / 2 ^ 53 + 1 / 2 ^ 1074 := by
  rcases eq_or_ne x 0 with rfl | some_
  · rw [nearest_zero, sub_self, abs_zero, zero_div, zero_add]
    positivity
  have place := place_pos (exponent x)
  have scaled : nearest x - x =
      (roundEven (x / 2 ^ exponent x) - x / 2 ^ exponent x) * 2 ^ exponent x := by
    rw [nearest, sub_mul, div_mul_cancel₀ _ place.ne']
  have half : |nearest x - x| ≤ 1 / 2 * 2 ^ exponent x := by
    rw [scaled, abs_mul, abs_of_pos place]
    exact mul_le_mul_of_nonneg_right (roundEven_near _) place.le
  refine half.trans ?_
  rcases le_total (Int.log 2 |x| - 52) (-1074) with tiny | normal
  · have least : exponent x = -1074 := max_eq_right tiny
    have part := div_nonneg (abs_nonneg x) (by positivity : (0 : ℚ) ≤ 2 ^ 53)
    have value : (2 : ℚ) ^ (-1074 : ℤ) = 1 / 2 ^ 1074 := by
      rw [zpow_neg, one_div]
      rfl
    rw [least, value]
    refine le_trans ?_ (le_add_of_nonneg_left part)
    exact mul_le_of_le_one_left (by positivity) (by norm_num)
  · have size : exponent x = Int.log 2 |x| - 52 := max_eq_left normal
    have below := Int.zpow_log_le_self (b := 2) (by decide) (abs_pos.mpr some_)
    have split : (1 : ℚ) / 2 * 2 ^ (Int.log 2 |x| - 52) = 2 ^ Int.log 2 |x| / 2 ^ 53 := by
      rw [zpow_sub₀ (by norm_num)]
      norm_num
      ring
    have share := div_le_div_of_nonneg_right below (by positivity : (0 : ℚ) ≤ 2 ^ 53)
    push_cast at share
    rw [size, split]
    exact share.trans (le_add_of_nonneg_right (by positivity))

theorem nearest_whole (n : ℤ) (small : |n| < 2 ^ 53) : nearest n = n := by
  rcases eq_or_ne n 0 with rfl | some_
  · rw [Int.cast_zero, nearest_zero]
  have positive : (0 : ℚ) < |(n : ℚ)| := abs_pos.mpr (Int.cast_ne_zero.mpr some_)
  have logs : Int.log 2 |(n : ℚ)| < 53 := by
    apply (Int.lt_zpow_iff_log_lt (by decide) positive).mp
    exact_mod_cast small
  have place : exponent n ≤ 0 := by
    rw [exponent]
    omega
  obtain ⟨d, places⟩ := Int.eq_ofNat_of_zero_le (show 0 ≤ -exponent n by omega)
  have scaled : (n : ℚ) / 2 ^ exponent n = ((n * 2 ^ d : ℤ) : ℚ) := by
    rw [div_eq_mul_inv, ← zpow_neg, places]
    push_cast
    rfl
  rw [nearest, scaled, roundEven_int, ← scaled, div_mul_cancel₀ _ (place_pos _).ne']

/-- A list added up from the left. -/
def sequential (values : List ℚ) : ℚ := values.foldl (fun total v => nearest (total + v)) 0

theorem sequential_append (values : List ℚ) (v : ℚ) :
    sequential (values ++ [v]) = nearest (sequential values + v) := by
  rw [sequential, List.foldl_append]
  rfl

theorem sum_size (values : List ℚ) (bound : ℚ) (small : ∀ v ∈ values, |v| ≤ bound) :
    |values.sum| ≤ values.length * bound := by
  induction values with
  | nil => simp
  | cons v rest ih =>
      have here := small v List.mem_cons_self
      have later := ih fun w member => small w (List.mem_cons_of_mem _ member)
      rw [List.sum_cons, List.length_cons]
      refine (abs_add_le _ _).trans ?_
      push_cast
      linarith

/-- Each addition is off by a share of the total so far. -/
theorem sequential_near (values : List ℚ) (bound count : ℚ) (small : ∀ v ∈ values, |v| ≤ bound)
    (positive : 0 ≤ bound) (longest : values.length ≤ count) (most : count ≤ 2 ^ 30) :
    |sequential values - values.sum| ≤ values.length * (count * (bound + 1) / 2 ^ 52) := by
  induction values using List.reverseRecOn with
  | nil =>
      have none : sequential [] = 0 := rfl
      rw [none, List.sum_nil, List.length_nil, Nat.cast_zero, zero_mul, sub_zero, abs_zero]
  | append_singleton values v ih =>
      rw [List.length_append, List.length_singleton] at longest ⊢
      push_cast at longest ⊢
      have here := small v (List.mem_append_right _ (List.mem_singleton_self v))
      have earlier (w : ℚ) (member : w ∈ values) : |w| ≤ bound :=
        small w (List.mem_append_left _ member)
      have off := ih earlier (by linarith)
      have size := sum_size values bound earlier
      have length : (0 : ℚ) ≤ values.length := Nat.cast_nonneg _
      have whole : 1 ≤ count * (bound + 1) := by nlinarith
      generalize total : count * (bound + 1) = all at off whole ⊢
      have near := nearest_near (sequential values + v)
      have tiny : (1 : ℚ) / 2 ^ 1074 ≤ 1 / 2 ^ 54 :=
        one_div_le_one_div_of_le (by positivity) (pow_le_pow_right₀ (by norm_num) (by norm_num))
      generalize (1 : ℚ) / 2 ^ 1074 = least at near tiny
      -- What has gone astray so far is small beside the numbers themselves.
      have drift : (values.length : ℚ) * (all / 2 ^ 52) ≤ all / 2 ^ 22 := by
        have few : (values.length : ℚ) ≤ 2 ^ 30 := by linarith
        have product := mul_le_mul_of_nonneg_right few (by positivity : 0 ≤ all / 2 ^ 52)
        linarith
      have reach : |sequential values + v| ≤ 3 / 2 * all := by
        have parts : sequential values + v =
            (sequential values - values.sum) + (values.sum + v) := by ring
        have one := abs_add_le (sequential values - values.sum) (values.sum + v)
        have two := abs_add_le values.sum v
        have longer : ((values.length : ℚ) + 1) * bound ≤ count * bound :=
          mul_le_mul_of_nonneg_right longest positive
        rw [parts]
        linarith
      have parts : sequential (values ++ [v]) - (values ++ [v]).sum =
          (nearest (sequential values + v) - (sequential values + v)) +
            (sequential values - values.sum) := by
        rw [sequential_append, List.sum_append, List.sum_singleton]
        ring
      have one := abs_add_le (nearest (sequential values + v) - (sequential values + v))
        (sequential values - values.sum)
      rw [parts]
      linarith

def binary64 : Floats where
  fl := nearest
  sum := sequential
  mono := nearest_mono
  near := nearest_near
  whole := nearest_whole
  sum_near := by
    intro values bound small few
    cases values with
    | nil => simp [sequential]
    | cons v rest =>
        have positive := (abs_nonneg v).trans (small v List.mem_cons_self)
        have near := sequential_near (v :: rest) bound (v :: rest).length small positive (le_refl _)
          (by exact_mod_cast few)
        refine near.trans (le_of_eq ?_)
        ring

end Binary64

end RyzenBuild.Rounding
