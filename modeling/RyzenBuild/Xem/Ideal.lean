import RyzenBuild.Xem.Pages
import RyzenBuild.Xem.Recursor

/-!
The recursion in exact numbers, beside the recursion in floats. Whatever the order of the
operations, a node comes out within a thousand units in the last place of one.
-/
namespace RyzenBuild.Xem

open Rounding

variable (f : Floats) (r : XemFibRecursor)

/-- The arguments of the constructor as floats. -/
def XemFibRecursor.floats : XemFibRecursor :=
  { recursionLevels := r.recursionLevels
    nodesPerLevel := r.nodesPerLevel
    minRetainedRatio := f.fl r.minRetainedRatio
    maxRetainedRatio := f.fl r.maxRetainedRatio
    levelGain := f.fl r.levelGain
    nodeGain := f.fl r.nodeGain
    phaseGain := f.fl r.phaseGain
    curvatureGain := f.fl r.curvatureGain }

/-- What a node retains of a share. -/
def XemFibRecursor.idealRetained (share : ℚ) (levelIndex : Nat) (fibWeight : ℚ) (nodeIndex : Nat) :
    ℚ :=
  let levelScalar := 1 - fibWeight * r.levelGain
  let nodeScalar : ℚ := 1 - nodeIndex / max 1 ((r.nodesPerLevel : ℚ) - 1) * r.nodeGain
  let phase := levelIndex * r.phaseGain + nodeIndex * r.phaseGain * 0.5 + fibWeight * 0.144
  clamp (share * levelScalar * nodeScalar * (1 - phase * 0.01)) r.minRetainedRatio
    r.maxRetainedRatio

/-- A score of a node, with the gain of its level and the factor of its place. -/
def idealScore (score gain fibWeight factor : ℚ) : ℚ :=
  clamp (score * (1 + fibWeight * gain) * factor) 0 1

/-- A ratio between nothing and one. -/
def Share (x : ℚ) : Prop := 0 ≤ x ∧ x ≤ 1

theorem Share.size {x : ℚ} (share : Share x) : |x| ≤ 1 := by
  rw [abs_of_nonneg share.1]
  exact share.2

theorem Share.mul {x y : ℚ} (share : Share x) (also : Share y) : Share (x * y) :=
  ⟨mul_nonneg share.1 also.1, mul_le_one₀ share.2 also.1 also.2⟩

theorem Share.rest {x : ℚ} (share : Share x) : Share (1 - x) :=
  ⟨sub_nonneg.mpr share.2, sub_le_self 1 share.1⟩

structure XemFibRecursor.Moderate : Prop where
  few : r.nodesPerLevel ≤ 12
  least : Share r.minRetainedRatio
  most : Share r.maxRetainedRatio
  level : Share r.levelGain
  node : Share r.nodeGain
  phase : Share r.phaseGain

theorem XemFibRecursor.retained_limits (base : XemColdDecision) (levelIndex : Nat) (fibWeight : ℚ)
    (nodeIndex : Nat) (ordered : r.minRetainedRatio ≤ r.maxRetainedRatio) :
    r.minRetainedRatio ≤ r.retained f base levelIndex fibWeight nodeIndex ∧
      r.retained f base levelIndex fibWeight nodeIndex ≤ r.maxRetainedRatio :=
  clamp_between _ _ _ ordered

section Parts

/-- One factor of a node, from a share that is near. -/
theorem scalar_near (x w gain : ℚ) (near : Near 3 x w) (share : Share w) (gained : Share gain) :
    Near 15 (f.sub 1 (f.mul x (f.fl gain))) (1 - w * gain) := by
  have product := f.mul_near near (f.near_literal gain 1 gained.size) share.size gained.size
    (by norm_num) (by norm_num)
  have rest := f.sub_near (near_self 1) product (share.mul gained).rest.size (by norm_num)
  exact near_mono rest (by norm_num)

theorem place_share (nodes n : Nat) (inside : n < nodes) :
    Share ((n : ℚ) / max 1 ((nodes : ℚ) - 1)) := by
  have last : (n : ℚ) ≤ max 1 ((nodes : ℚ) - 1) := by
    have cast : (n : ℚ) + 1 ≤ nodes := by exact_mod_cast inside
    exact le_max_of_le_right (by linarith)
  have positive : (0 : ℚ) < max 1 ((nodes : ℚ) - 1) := lt_max_of_lt_left one_pos
  exact ⟨div_nonneg (Nat.cast_nonneg _) positive.le, (div_le_one positive).mpr last⟩

variable (levelIndex nodeIndex : Nat) (x w : ℚ) (near : Near 3 x w) (share : Share w)
  (moderate : r.Moderate) (levels : levelIndex ≤ 22) (inside : nodeIndex < r.nodesPerLevel)

include share moderate levels inside in
theorem phase_share : Share ((levelIndex * r.phaseGain + nodeIndex * r.phaseGain * 0.5 +
    w * 0.144) * 0.01) := by
  have deep : (levelIndex : ℚ) ≤ 22 := by exact_mod_cast levels
  have wide : (nodeIndex : ℚ) ≤ 12 := by exact_mod_cast inside.le.trans moderate.few
  have gain := moderate.phase
  have one := mul_nonneg (Nat.cast_nonneg (α := ℚ) levelIndex) gain.1
  have two := mul_nonneg (Nat.cast_nonneg (α := ℚ) nodeIndex) gain.1
  have most := mul_le_mul deep gain.2 gain.1 (by norm_num)
  have more := mul_le_mul wide gain.2 gain.1 (by norm_num)
  constructor <;> linarith [share.1, share.2]

include near share moderate levels inside in
theorem phase_near : Near 795 (f.sub 1 (f.mul ((r.floats f).phase f levelIndex x nodeIndex)
    (f.fl 0.01))) (1 - (levelIndex * r.phaseGain + nodeIndex * r.phaseGain * 0.5 + w * 0.144) *
      0.01) := by
  have deep : |(levelIndex : ℚ)| ≤ 22 := by
    rw [abs_of_nonneg (Nat.cast_nonneg _)]
    exact_mod_cast levels
  have wide : |(nodeIndex : ℚ)| ≤ 12 := by
    rw [abs_of_nonneg (Nat.cast_nonneg _)]
    exact_mod_cast inside.le.trans moderate.few
  have gain := moderate.phase
  have literal (a : ℚ) (small : |a| ≤ 1) := f.near_literal a 1 small
  have first := f.mul_near (near_self (levelIndex : ℚ)) (literal _ gain.size) deep gain.size
    (by norm_num) (by norm_num)
  have second := f.mul_near (near_self (nodeIndex : ℚ)) (literal _ gain.size) wide gain.size
    (by norm_num) (by norm_num)
  have sized : |(nodeIndex : ℚ) * r.phaseGain| ≤ 12 := by
    rw [abs_mul]
    have product := mul_le_mul wide gain.size (abs_nonneg _) (by norm_num)
    linarith
  have half := f.mul_near second (literal 0.5 (by norm_num [abs_le])) sized
    (show |(0.5 : ℚ)| ≤ 1 by norm_num [abs_le]) (by norm_num) (by norm_num)
  have weighted := f.mul_near near (literal 0.144 (by norm_num [abs_le])) share.size
    (show |(0.144 : ℚ)| ≤ 1 by norm_num [abs_le]) (by norm_num) (by norm_num)
  have sizes : |(levelIndex : ℚ) * r.phaseGain + nodeIndex * r.phaseGain * 0.5| ≤ 34 ∧
      |(levelIndex : ℚ) * r.phaseGain + nodeIndex * r.phaseGain * 0.5 + w * 0.144| ≤ 35 := by
    have one := mul_nonneg (Nat.cast_nonneg (α := ℚ) levelIndex) gain.1
    have two := mul_nonneg (Nat.cast_nonneg (α := ℚ) nodeIndex) gain.1
    have most := mul_le_mul ((le_abs_self _).trans deep) gain.2 gain.1 (by norm_num)
    have more := mul_le_mul ((le_abs_self _).trans wide) gain.2 gain.1 (by norm_num)
    constructor <;> rw [abs_le] <;> constructor <;> linarith [share.1, share.2]
  -- The sizes are those of 22 levels and 12 nodes at a gain of one.
  have both := f.add_near first half sizes.1 (by norm_num)
  have phase := f.add_near both weighted sizes.2 (by norm_num)
  have hundredth := f.mul_near phase (literal 0.01 (by norm_num [abs_le])) sizes.2
    (show |(0.01 : ℚ)| ≤ 1 by norm_num [abs_le]) (by norm_num) (by norm_num)
  have rest := f.sub_near (near_self 1) hundredth
    (phase_share r levelIndex nodeIndex w share moderate levels inside).rest.size (by norm_num)
  exact near_mono rest (by norm_num)

include near share moderate levels inside in
theorem retained_near (base : XemColdDecision) (p : ℚ) (stands : Near 3 base.retainedRatio p)
    (part : Share p) : Near 1000 ((r.floats f).retained f base levelIndex x nodeIndex)
      (r.idealRetained p levelIndex w nodeIndex) := by
  have level := scalar_near f x w r.levelGain near share moderate.level
  have placed := place_share r.nodesPerLevel nodeIndex inside
  have node := scalar_near f _ _ r.nodeGain (near_mono (f.near_literal _ 1 placed.size)
    (by norm_num)) placed moderate.node
  have phase := phase_near f r levelIndex nodeIndex x w near share moderate levels inside
  have levelShare := (share.mul moderate.level).rest
  have nodeShare := (placed.mul moderate.node).rest
  have phaseShare := (phase_share r levelIndex nodeIndex w share moderate levels inside).rest
  -- Three products of shares: each doubles the error so far and adds its factor's.
  have one := f.mul_near stands level part.size levelShare.size (by norm_num) (by norm_num)
  have two := f.mul_near one node (part.mul levelShare).size nodeShare.size (by norm_num)
    (by norm_num)
  have three := f.mul_near two phase ((part.mul levelShare).mul nodeShare).size phaseShare.size
    (by norm_num) (by norm_num)
  have least := f.near_literal r.minRetainedRatio 1 moderate.least.size
  have most := f.near_literal r.maxRetainedRatio 1 moderate.most.size
  have capped := near_min most three (by norm_num)
  exact near_mono (near_max least capped (by norm_num)) (by norm_num)

include near share in
theorem score_near (score y gain scale factor : ℚ) (stands : Near 3 y score) (part : Share score)
    (gained : Share gain) (placed : Near 17 scale factor) (small : |factor| ≤ 2) :
    Near 200 (clamp (f.mul (f.mul y (f.add 1 (f.mul x (f.fl gain)))) scale) 0 1)
      (idealScore score gain w factor) := by
  have weighted := f.mul_near near (f.near_literal gain 1 gained.size) share.size gained.size
    (by norm_num) (by norm_num)
  have boost : |1 + w * gain| ≤ 2 := by
    have product := share.mul gained
    rw [abs_of_nonneg (by linarith [product.1])]
    linarith [product.2]
  have added := f.add_near (near_self 1) weighted boost (by norm_num)
  have one := f.mul_near stands added part.size boost (by norm_num) (by norm_num)
  have sized : |score * (1 + w * gain)| ≤ 2 := by
    rw [abs_mul]
    have product := mul_le_mul part.size boost (abs_nonneg _) (by norm_num)
    linarith
  have two := f.mul_near one placed sized small (by norm_num) (by norm_num)
  have capped := near_min (near_self 1) two (by norm_num)
  exact near_mono (near_max (near_self 0) capped (by norm_num)) (by norm_num)

end Parts

end RyzenBuild.Xem
