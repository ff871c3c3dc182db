import RyzenBuild.Xem.Policy

/-!
The manifest of many pages. Whatever the engine reports of them, the shares of every
page add up to one as far as their roundings allow, a colder page is never kept in more
detail than a warmer one, and the averages of the manifest lie where the pages do.
-/
namespace RyzenBuild.Xem

open Rounding

structure XemManifest where
  count : Nat
  averageColdness : ℚ
  averageRetainedRatio : ℚ
  averageReductionRatio : ℚ
  averageCrosshatchScore : ℚ
  pages : List XemColdDecision

variable (f : Floats)

def XemZramColdMet.classifyMany (policy : XemZramColdMet) (engine : String → EngineReport)
    (keys : List String) : Option XemManifest := do
  let decisions ← keys.mapM fun key => policy.classify f key (engine key)
  pure
    { count := decisions.length
      averageColdness := f.round (avg f (decisions.map (·.coldnessScore))) 6
      averageRetainedRatio := f.round (avg f (decisions.map (·.retainedRatio))) 6
      averageReductionRatio := f.round (avg f (decisions.map (·.reductionRatio))) 6
      averageCrosshatchScore := f.round (avg f (decisions.map (·.crosshatchScore))) 6
      pages := decisions }

/-- How far a tier is from the coldest. -/
def Tier.warmth : Tier → Nat
  | .deepCold => 0
  | .cold => 1
  | .warm => 2
  | .hot => 3

theorem clamp_mono (x y lo hi : ℚ) (le : x ≤ y) : clamp x lo hi ≤ clamp y lo hi :=
  max_le_max (le_refl lo) (min_le_min (le_refl hi) le)

theorem clamp_between (x lo hi : ℚ) (ordered : lo ≤ hi) :
    lo ≤ clamp x lo hi ∧ clamp x lo hi ≤ hi :=
  ⟨le_max_left _ _, max_le ordered (min_le_left _ _)⟩

theorem mul_mono (x y factor : ℚ) (le : x ≤ y) (positive : 0 ≤ factor) :
    f.mul x factor ≤ f.mul y factor :=
  f.mono _ _ (mul_le_mul_of_nonneg_right le positive)

section Policy

variable (policy : XemZramColdMet) (ordered : policy.minRetainedRatio ≤ policy.maxRetainedRatio)

include ordered in
theorem retained_between (coldness : ℚ) :
    policy.minRetainedRatio ≤ policy.retainedRatioFromColdness f coldness ∧
      policy.retainedRatioFromColdness f coldness ≤ policy.maxRetainedRatio :=
  clamp_between _ _ _ ordered

include ordered in
theorem colder_retains_less (mild cold : ℚ) (colder : mild ≤ cold) :
    policy.retainedRatioFromColdness f cold ≤ policy.retainedRatioFromColdness f mild := by
  apply clamp_mono
  apply f.mono
  apply sub_le_sub_left
  apply f.mono
  exact mul_le_mul_of_nonneg_left colder (f.fl_nonneg _ (sub_nonneg.mpr ordered))

/-- What a decision says is what its coldness says. -/
structure DecidedBy (coldness : ℚ) (page : XemColdDecision) : Prop where
  score : page.coldnessScore = f.round coldness 6
  retained : page.retainedRatio = f.round (policy.retainedRatioFromColdness f coldness) 6
  reduction : page.reductionRatio =
    f.round (f.sub 1 (policy.retainedRatioFromColdness f coldness)) 6
  factor : page.compressionFactor =
    f.round (f.div 1 (policy.retainedRatioFromColdness f coldness)) 4
  mips : page.mipRetained =
    (build9MipProfile f (policy.retainedRatioFromColdness f coldness)).map fun v => f.round v 6
  tier : page.tier = tierName f coldness

theorem classify_decided (key : String) (report : EngineReport) (page : XemColdDecision)
    (classified : policy.classify f key report = some page) :
    ∃ coldness, DecidedBy f policy coldness page := by
  unfold XemZramColdMet.classify at classified
  cases found : theItem f report with
  | none =>
      rw [found] at classified
      cases classified
  | some item =>
      simp only [found, Option.bind_eq_bind, Option.bind_some] at classified
      split at classified
      · cases classified
      · obtain rfl := Option.some.inj classified
        exact ⟨_, rfl, rfl, rfl, rfl, rfl, rfl⟩

end Policy

theorem weights_positive : ∀ w ∈ mipWeights, 0 ≤ w := by decide +kernel

theorem mips_fall (retained : ℚ) (positive : 0 < retained) :
    (build9MipProfile f retained).Pairwise fun upper lower => lower ≤ upper := by
  have falls : mipWeights.Pairwise fun heavy light => light ≤ heavy := by
    simp only [mipWeights]
    decide +kernel
  rw [build9MipProfile, List.pairwise_map]
  refine falls.imp fun lighter => clamp_mono _ _ _ _ (f.mono _ _ ?_)
  exact mul_le_mul_of_nonneg_left (f.mono _ _ lighter) positive.le

/-- A share of one, rounded to so many parts of a million. -/
structure Parts (m : ℤ) (share : ℚ) : Prop where
  value : share = f.decimal m 6
  least : 0 ≤ m
  most : m ≤ 1000000

/-- Two shares that add up to one but for `off` parts of a million. -/
def AddUp (off : ℤ) (share rest : ℚ) : Prop :=
  ∃ m n : ℤ, Parts f m share ∧ Parts f n rest ∧ |m + n - 1000000| ≤ off

/-- What holds of every page of a manifest. -/
structure PageSound (policy : XemZramColdMet) (page : XemColdDecision) : Prop where
  whole : AddUp f 1 page.retainedRatio page.reductionRatio
  lower : f.round policy.minRetainedRatio 6 ≤ page.retainedRatio
  upper : page.retainedRatio ≤ f.round policy.maxRetainedRatio 6
  falls : page.mipRetained.Pairwise fun upper lower => lower ≤ upper
  mips : ∀ mip ∈ page.mipRetained, f.fl 0.001 ≤ mip ∧ mip ≤ 1

/-- The second page is kept in no more detail than the first. -/
structure KeptLess (first second : XemColdDecision) : Prop where
  retained : second.retainedRatio ≤ first.retainedRatio
  reduction : first.reductionRatio ≤ second.reductionRatio
  factor : first.compressionFactor ≤ second.compressionFactor
  mips : List.Forall₂ (· ≤ ·) second.mipRetained first.mipRetained
  tier : second.tier.warmth ≤ first.tier.warmth

theorem tier_cools (mild cold : ℚ) (colder : mild ≤ cold) :
    (tierName f cold).warmth ≤ (tierName f mild).warmth := by
  unfold tierName
  by_cases deep : f.fl 0.86 ≤ cold
  · rw [if_pos deep]
    exact Nat.zero_le _
  · rw [if_neg deep, if_neg fun other : f.fl 0.86 ≤ mild => deep (other.trans colder)]
    by_cases cool : f.fl 0.68 ≤ cold
    · rw [if_pos cool]
      split
      · decide
      · split <;> decide
    · rw [if_neg cool, if_neg fun other : f.fl 0.68 ≤ mild => cool (other.trans colder)]
      by_cases warm : f.fl 0.45 ≤ cold
      · rw [if_pos warm]
        split <;> decide
      · rw [if_neg warm, if_neg fun other : f.fl 0.45 ≤ mild => warm (other.trans colder)]

theorem round_parts (x : ℚ) (low : -1 / 2 < x * 1000000) (high : x * 1000000 < 1000000 + 1 / 2) :
    Parts f (roundEven (x * 10 ^ 6)) (f.round x 6) := by
  have between := roundEven_between (x * 10 ^ 6) 0 1000000
    (by norm_num at low ⊢; linarith) (by norm_num at high ⊢; linarith)
  exact ⟨rfl, between.1, between.2⟩

theorem parts_near (m : ℤ) (share : ℚ) (parts : Parts f m share) :
    Near 3 share (m / 1000000) := by
  have least : (0 : ℚ) ≤ m := Int.cast_nonneg parts.least
  have most : (m : ℚ) ≤ 1000000 := by exact_mod_cast parts.most
  have size : |(m : ℚ) / 10 ^ 6| ≤ 1 := by
    rw [abs_of_nonneg (div_nonneg least (by norm_num)), div_le_one (by norm_num)]
    linarith
  have near := f.near_literal _ 1 size
  rw [parts.value, Floats.decimal]
  norm_num at near ⊢
  exact near

/-- Roundings of two numbers that are near to adding up. -/
theorem round_add_up (x y : ℚ) (off : ℤ) (first : Parts f (roundEven (x * 10 ^ 6)) (f.round x 6))
    (second : Parts f (roundEven (y * 10 ^ 6)) (f.round y 6))
    (near : |x + y - 1| * 1000000 < off) : AddUp f off (f.round x 6) (f.round y 6) := by
  refine ⟨_, _, first, second, ?_⟩
  have one := roundEven_bounds (x * 10 ^ 6)
  have two := roundEven_bounds (y * 10 ^ 6)
  have low : -|x + y - 1| ≤ x + y - 1 := neg_abs_le _
  have high : x + y - 1 ≤ |x + y - 1| := le_abs_self _
  generalize roundEven (x * 10 ^ 6) = m at one ⊢
  generalize roundEven (y * 10 ^ 6) = n at two ⊢
  have least : ((-off - 1 : ℤ) : ℚ) < ((m + n - 1000000 : ℤ) : ℚ) := by
    push_cast
    linarith
  have most : ((m + n - 1000000 : ℤ) : ℚ) < ((off + 1 : ℤ) : ℚ) := by
    push_cast
    linarith
  rw [Int.cast_lt] at least most
  rw [abs_le]
  omega

/-- A share and what is left of one are each rounded twice. -/
theorem rounded_whole (retained : ℚ) (share : 0 ≤ retained ∧ retained ≤ 1) :
    AddUp f 1 (f.round retained 6) (f.round (f.sub 1 retained) 6) := by
  have rest : 0 ≤ f.sub 1 retained ∧ f.sub 1 retained ≤ 1 :=
    ⟨f.fl_nonneg _ (by linarith [share.2]), f.fl_le_one _ (by linarith [share.1])⟩
  have size : |1 - retained| ≤ 1 := by
    rw [abs_of_nonneg (by linarith [share.2])]
    linarith [share.1]
  have off := f.near_literal (1 - retained) 1 size
  have near : |retained + f.sub 1 retained - 1| ≤ 3 / 2 ^ 53 := by
    have parts : retained + f.sub 1 retained - 1 = f.sub 1 retained - (1 - retained) := by ring
    rw [parts]
    exact off.trans (by norm_num)
  apply round_add_up f _ _ 1 (round_parts f _ (by linarith [share.1]) (by linarith [share.2]))
    (round_parts f _ (by linarith [rest.1]) (by linarith [rest.2]))
  norm_num at near ⊢
  linarith

theorem round_thousandth : f.round (f.fl 0.001) 6 = f.fl 0.001 := by
  have near : Near 3 (f.fl 0.001) 0.001 :=
    near_mono (f.near_literal 0.001 1 (by norm_num [abs_le])) (by norm_num)
  have off := abs_le.mp near
  rw [f.round_of_near _ 1000 6 (by
    rw [abs_lt]
    norm_num at off ⊢
    constructor <;> linarith), Floats.decimal]
  norm_num

theorem round_one : f.round 1 6 = 1 := by
  have one := f.round_of_near 1 1000000 6 (by norm_num)
  rw [one, Floats.decimal]
  norm_num
  exact f.fl_one

section Decided

variable (policy : XemZramColdMet) (positive : 0 < policy.minRetainedRatio)
  (ordered : policy.minRetainedRatio ≤ policy.maxRetainedRatio)

include positive ordered

theorem decided_sound (most : policy.maxRetainedRatio ≤ 1) (coldness : ℚ) (page : XemColdDecision)
    (decided : DecidedBy f policy coldness page) : PageSound f policy page := by
  obtain ⟨above, below⟩ := retained_between f policy ordered coldness
  constructor
  case whole =>
    rw [decided.retained, decided.reduction]
    exact rounded_whole f _ ⟨positive.le.trans above, below.trans most⟩
  case lower =>
    rw [decided.retained]
    exact f.round_mono _ _ 6 above
  case upper =>
    rw [decided.retained]
    exact f.round_mono _ _ 6 below
  case falls =>
    rw [decided.mips, List.pairwise_map]
    exact (mips_fall f _ (positive.trans_le above)).imp fun lower => f.round_mono _ _ 6 lower
  case mips =>
    intro mip member
    rw [decided.mips] at member
    obtain ⟨v, inside, rfl⟩ := List.mem_map.mp member
    obtain ⟨w, _, rfl⟩ := List.mem_map.mp inside
    have between := clamp_between (f.mul (policy.retainedRatioFromColdness f coldness) (f.fl w))
      (f.fl 0.001) 1 (f.fl_le_one _ (by norm_num))
    have low := f.round_mono _ _ 6 between.1
    have high := f.round_mono _ _ 6 between.2
    rw [round_thousandth] at low
    rw [round_one] at high
    exact ⟨low, high⟩

theorem decided_order (mild cold : ℚ) (first second : XemColdDecision)
    (decidedFirst : DecidedBy f policy mild first) (decidedSecond : DecidedBy f policy cold second)
    (colder : mild ≤ cold) : KeptLess first second := by
  have less := colder_retains_less f policy ordered mild cold colder
  have some_ := positive.trans_le (retained_between f policy ordered cold).1
  constructor
  case retained =>
    rw [decidedFirst.retained, decidedSecond.retained]
    exact f.round_mono _ _ 6 less
  case reduction =>
    rw [decidedFirst.reduction, decidedSecond.reduction]
    exact f.round_mono _ _ 6 (f.mono _ _ (sub_le_sub_left less 1))
  case factor =>
    rw [decidedFirst.factor, decidedSecond.factor]
    exact f.round_mono _ _ 4 (f.mono _ _ (one_div_le_one_div_of_le some_ less))
  case mips =>
    rw [decidedFirst.mips, decidedSecond.mips]
    simp only [build9MipProfile, List.map_map, List.forall₂_map_left_iff,
      List.forall₂_map_right_iff, List.forall₂_same]
    intro w member
    apply f.round_mono
    apply clamp_mono
    exact mul_mono f _ _ _ less (f.fl_nonneg w (weights_positive w member))
  case tier =>
    rw [decidedFirst.tier, decidedSecond.tier]
    exact tier_cools f mild cold colder

end Decided

/-- An average lies near the exact one; the more numbers, the farther it may be off. -/
theorem avg_near (values : List ℚ) (bound : ℚ) (some_value : values ≠ [])
    (small : ∀ v ∈ values, |v| ≤ bound) (light : bound ≤ 2 ^ 20) (few : values.length ≤ 2 ^ 30) :
    Near (2 * values.length * (bound + 1) + bound + 2) (avg f values)
      (values.sum / values.length) := by
  have count : (0 : ℚ) < values.length := by exact_mod_cast List.length_pos_iff.mpr some_value
  have most : (values.length : ℚ) ≤ 2 ^ 30 := by exact_mod_cast few
  have positive : 0 ≤ bound := by
    obtain ⟨v, member⟩ := List.exists_mem_of_ne_nil values some_value
    exact (abs_nonneg v).trans (small v member)
  have summed := f.sum_near values bound small few
  have divided : Near (2 * values.length * (bound + 1)) (f.sum values / values.length)
      (values.sum / values.length) := by
    rw [Near, ← sub_div, abs_div, abs_of_pos count, div_le_iff₀ count]
    refine summed.trans (le_of_eq ?_)
    ring
  rw [avg, if_neg some_value]
  apply f.near_fl divided
  · rw [abs_div, abs_of_pos count, div_le_iff₀ count, mul_comm]
    exact sum_size values bound small
  · have product := mul_le_mul most (show bound + 1 ≤ 2 ^ 20 + 1 by linarith) (by linarith)
      (by norm_num)
    linarith

theorem average_between (values : List ℚ) (lo hi : ℚ) (some_value : values ≠ [])
    (between : ∀ v ∈ values, lo ≤ v ∧ v ≤ hi) :
    lo ≤ values.sum / values.length ∧ values.sum / values.length ≤ hi := by
  have total : values.length * lo ≤ values.sum ∧ values.sum ≤ values.length * hi := by
    clear some_value
    induction values with
    | nil => simp
    | cons v rest ih =>
        have here := between v List.mem_cons_self
        have later := ih fun other member => between other (List.mem_cons_of_mem _ member)
        rw [List.sum_cons, List.length_cons]
        push_cast
        constructor <;> linarith
  have count : (0 : ℚ) < values.length := by
    exact_mod_cast List.length_pos_iff.mpr some_value
  rw [le_div_iff₀ count, div_le_iff₀ count]
  constructor <;> linarith

section Averages

variable (pages : List XemColdDecision) (some_page : pages ≠ []) (few : pages.length ≤ 2 ^ 30)

include some_page few in
/-- The average of shares that lie between two numbers of parts. -/
theorem shares_average (share : XemColdDecision → ℚ)
    (small : ∀ page ∈ pages, 0 ≤ share page ∧ share page ≤ 1) :
    |avg f (pages.map share) - (pages.map share).sum / pages.length| * 1000000 < 479 / 1000 := by
  have filled : pages.map share ≠ [] := by simpa using some_page
  have near := avg_near f (pages.map share) 1 filled (by
    intro v member
    obtain ⟨page, inside, rfl⟩ := List.mem_map.mp member
    rw [abs_of_nonneg (small page inside).1]
    exact (small page inside).2) (by norm_num) (by rwa [List.length_map])
  rw [List.length_map] at near
  have most : (pages.length : ℚ) ≤ 2 ^ 30 := by exact_mod_cast few
  -- A billion pages move the average by less than half a part of a million.
  have far := near_mono near (show _ ≤ (2 ^ 32 + 3 : ℚ) by linarith)
  rw [Near] at far
  norm_num at far
  linarith

theorem sums_whole (shares rests : XemColdDecision → ℚ) (off : ℚ)
    (whole : ∀ page ∈ pages, |shares page + rests page - 1| ≤ off) :
    |(pages.map shares).sum + (pages.map rests).sum - pages.length| ≤ pages.length * off := by
  induction pages with
  | nil => simp
  | cons page rest ih =>
      have here := whole page List.mem_cons_self
      have later := ih fun other member => whole other (List.mem_cons_of_mem _ member)
      rw [List.map_cons, List.map_cons, List.sum_cons, List.sum_cons, List.length_cons]
      push_cast
      have parts : shares page + (rest.map shares).sum + (rests page + (rest.map rests).sum) -
          (rest.length + 1) = (shares page + rests page - 1) +
            ((rest.map shares).sum + (rest.map rests).sum - rest.length) := by ring
      rw [parts]
      refine (abs_add_le _ _).trans ?_
      linarith

variable (policy : XemZramColdMet)

theorem parts_share (m : ℤ) (share : ℚ) (parts : Parts f m share) : 0 ≤ share ∧ share ≤ 1 := by
  have least : (0 : ℚ) ≤ m := Int.cast_nonneg parts.least
  have most : (m : ℚ) ≤ 1000000 := by exact_mod_cast parts.most
  rw [parts.value]
  constructor
  · exact f.fl_nonneg _ (div_nonneg least (by norm_num))
  · exact f.fl_le_one _ ((div_le_one (by norm_num)).mpr (by norm_num; exact most))

theorem add_up_near (off : ℤ) (share rest : ℚ) (whole : AddUp f off share rest) :
    |share + rest - 1| ≤ off / 1000000 + 6 / 2 ^ 53 := by
  obtain ⟨m, n, first, second, near⟩ := whole
  have sum := near_add (parts_near f m share first) (parts_near f n rest second)
  have cast : |(m : ℚ) + n - 1000000| ≤ off := by exact_mod_cast near
  have grid : |(m : ℚ) / 1000000 + n / 1000000 - 1| ≤ off / 1000000 := by
    have parts : (m : ℚ) / 1000000 + n / 1000000 - 1 = (m + n - 1000000) / 1000000 := by ring
    rw [parts, abs_div, abs_of_pos (by norm_num : (0 : ℚ) < 1000000)]
    exact div_le_div_of_nonneg_right cast (by norm_num)
  have parts : share + rest - 1 = (share + rest - (m / 1000000 + n / 1000000)) +
      ((m : ℚ) / 1000000 + n / 1000000 - 1) := by ring
  have moved : |share + rest - ((m : ℚ) / 1000000 + n / 1000000)| ≤ 6 / 2 ^ 53 :=
    sum.trans (by norm_num)
  rw [parts, add_comm ((off : ℚ) / 1000000)]
  exact (abs_add_le _ _).trans (add_le_add moved grid)

include some_page few in
/-- The average of shares is a share. -/
theorem average_parts (share : XemColdDecision → ℚ)
    (small : ∀ page ∈ pages, 0 ≤ share page ∧ share page ≤ 1) :
    Parts f (roundEven (avg f (pages.map share) * 10 ^ 6))
      (f.round (avg f (pages.map share)) 6) := by
  have near := shares_average f pages some_page few share small
  have between := average_between (pages.map share) 0 1 (by simpa using some_page) (by
    intro v member
    obtain ⟨page, inside, rfl⟩ := List.mem_map.mp member
    exact small page inside)
  rw [List.length_map] at between
  have low := neg_abs_le (avg f (pages.map share) - (pages.map share).sum / pages.length)
  have high := le_abs_self (avg f (pages.map share) - (pages.map share).sum / pages.length)
  apply round_parts <;> linarith [between.1, between.2]

include some_page few in
theorem averages_add_up (sound : ∀ page ∈ pages, PageSound f policy page) :
    AddUp f 2 (f.round (avg f (pages.map (·.retainedRatio))) 6)
      (f.round (avg f (pages.map (·.reductionRatio))) 6) := by
  have kept (page : XemColdDecision) (member : page ∈ pages) :
      0 ≤ page.retainedRatio ∧ page.retainedRatio ≤ 1 := by
    obtain ⟨m, n, first, -⟩ := (sound page member).whole
    exact parts_share f m _ first
  have saved (page : XemColdDecision) (member : page ∈ pages) :
      0 ≤ page.reductionRatio ∧ page.reductionRatio ≤ 1 := by
    obtain ⟨m, n, -, second, -⟩ := (sound page member).whole
    exact parts_share f n _ second
  have count : (0 : ℚ) < pages.length := by exact_mod_cast List.length_pos_iff.mpr some_page
  have total := sums_whole pages (·.retainedRatio) (·.reductionRatio) _ fun page member =>
    add_up_near f 1 _ _ (sound page member).whole
  have first := shares_average f pages some_page few _ kept
  have second := shares_average f pages some_page few _ saved
  apply round_add_up f _ _ 2 (average_parts f pages some_page few _ kept)
    (average_parts f pages some_page few _ saved)
  generalize avg f (pages.map (·.retainedRatio)) = x at first ⊢
  generalize avg f (pages.map (·.reductionRatio)) = y at second ⊢
  generalize (pages.map (·.retainedRatio)).sum = xs at first total
  generalize (pages.map (·.reductionRatio)).sum = ys at second total
  have middle : |xs / pages.length + ys / pages.length - 1| ≤
      ((1 : ℤ) : ℚ) / 1000000 + 6 / 2 ^ 53 := by
    have parts : xs / pages.length + ys / pages.length - 1 =
        (xs + ys - pages.length) / pages.length := by
      field_simp
    rw [parts, abs_div, abs_of_pos count, div_le_iff₀ count, mul_comm]
    exact total
  have parts : x + y - 1 = (x - xs / pages.length) + (y - ys / pages.length) +
      (xs / pages.length + ys / pages.length - 1) := by ring
  have sum := abs_add_three (x - xs / pages.length) (y - ys / pages.length)
    (xs / pages.length + ys / pages.length - 1)
  rw [← parts] at sum
  norm_num at middle ⊢
  linarith

include some_page few in
theorem average_in_band (positive : 0 < policy.minRetainedRatio)
    (ordered : policy.minRetainedRatio ≤ policy.maxRetainedRatio)
    (most : policy.maxRetainedRatio ≤ 1) (sound : ∀ page ∈ pages, PageSound f policy page) :
    f.round policy.minRetainedRatio 6 ≤ f.round (avg f (pages.map (·.retainedRatio))) 6 ∧
      f.round (avg f (pages.map (·.retainedRatio))) 6 ≤ f.round policy.maxRetainedRatio 6 := by
  have kept (page : XemColdDecision) (member : page ∈ pages) :
      0 ≤ page.retainedRatio ∧ page.retainedRatio ≤ 1 := by
    obtain ⟨m, n, first, -⟩ := (sound page member).whole
    exact parts_share f m _ first
  have lower := parts_near f _ _ (round_parts f policy.minRetainedRatio (by linarith) (by linarith))
  have upper := parts_near f _ _ (round_parts f policy.maxRetainedRatio (by linarith) (by linarith))
  have between := average_between (pages.map (·.retainedRatio)) _ _ (by simpa using some_page) (by
    intro v member
    obtain ⟨page, inside, rfl⟩ := List.mem_map.mp member
    exact ⟨(sound page inside).lower, (sound page inside).upper⟩)
  rw [List.length_map] at between
  have near := shares_average f pages some_page few _ kept
  generalize avg f (pages.map (·.retainedRatio)) = x at near ⊢
  generalize (pages.map (·.retainedRatio)).sum / (pages.length : ℚ) = exact_ at near between
  have low := neg_abs_le (x - exact_)
  have high := le_abs_self (x - exact_)
  have least := (abs_le.mp lower).1
  have last := (abs_le.mp upper).2
  have inside := roundEven_between (x * 10 ^ 6) (roundEven (policy.minRetainedRatio * 10 ^ 6))
    (roundEven (policy.maxRetainedRatio * 10 ^ 6)) (by norm_num at least ⊢; linarith)
    (by norm_num at last ⊢; linarith)
  exact ⟨f.decimal_mono _ _ 6 inside.1, f.decimal_mono _ _ 6 inside.2⟩

end Averages

theorem pages_classified (policy : XemZramColdMet) (engine : String → EngineReport)
    (keys : List String) (decisions : List XemColdDecision)
    (made : (keys.mapM fun key => policy.classify f key (engine key)) = some decisions) :
    ∀ page ∈ decisions, ∃ key, policy.classify f key (engine key) = some page := by
  induction keys generalizing decisions with
  | nil =>
      obtain rfl := Option.some.inj made
      intro page member
      cases member
  | cons key rest ih =>
      rw [List.mapM_cons] at made
      obtain ⟨page, here, made⟩ := Option.bind_eq_some_iff.mp made
      obtain ⟨later, others, made⟩ := Option.bind_eq_some_iff.mp made
      obtain rfl := Option.some.inj made
      intro other member
      rcases List.mem_cons.mp member with rfl | inside
      · exact ⟨key, here⟩
      · exact ih later others other inside

theorem pages_counted (policy : XemZramColdMet) (engine : String → EngineReport)
    (keys : List String) (decisions : List XemColdDecision)
    (made : (keys.mapM fun key => policy.classify f key (engine key)) = some decisions) :
    decisions.length = keys.length := by
  induction keys generalizing decisions with
  | nil =>
      obtain rfl := Option.some.inj made
      rfl
  | cons key rest ih =>
      rw [List.mapM_cons] at made
      obtain ⟨page, here, made⟩ := Option.bind_eq_some_iff.mp made
      obtain ⟨later, others, made⟩ := Option.bind_eq_some_iff.mp made
      obtain rfl := Option.some.inj made
      rw [List.length_cons, List.length_cons, ih later others]

structure ManifestSound (policy : XemZramColdMet) (manifest : XemManifest) : Prop where
  pages : ∀ page ∈ manifest.pages, PageSound f policy page
  order : ∀ first ∈ manifest.pages, ∀ second ∈ manifest.pages,
    first.coldnessScore < second.coldnessScore → KeptLess first second
  whole : manifest.pages ≠ [] →
    AddUp f 2 manifest.averageRetainedRatio manifest.averageReductionRatio
  band : manifest.pages ≠ [] →
    f.round policy.minRetainedRatio 6 ≤ manifest.averageRetainedRatio ∧
      manifest.averageRetainedRatio ≤ f.round policy.maxRetainedRatio 6

/-- Every manifest is consistent, whatever the engine reports of the pages: the shares of
a page add up to one but for one part of a million, the averages of these but for two,
all of them keep to the limits, and the pages are ordered by their coldness in
everything that is decided of them. -/
theorem manifest_sound (policy : XemZramColdMet) (positive : 0 < policy.minRetainedRatio)
    (ordered : policy.minRetainedRatio ≤ policy.maxRetainedRatio)
    (most : policy.maxRetainedRatio ≤ 1) (engine : String → EngineReport) (keys : List String)
    (few : keys.length ≤ 2 ^ 30) (manifest : XemManifest)
    (classified : policy.classifyMany f engine keys = some manifest) :
    ManifestSound f policy manifest := by
  unfold XemZramColdMet.classifyMany at classified
  cases made : keys.mapM fun key => policy.classify f key (engine key) with
  | none =>
      rw [made] at classified
      cases classified
  | some decisions =>
      rw [made] at classified
      obtain rfl := Option.some.inj classified
      have count := pages_counted f policy engine keys decisions made
      have decided : ∀ page ∈ decisions, ∃ coldness, DecidedBy f policy coldness page := by
        intro page member
        obtain ⟨key, from_key⟩ := pages_classified f policy engine keys decisions made page member
        exact classify_decided f policy key (engine key) page from_key
      have sound : ∀ page ∈ decisions, PageSound f policy page := by
        intro page member
        obtain ⟨coldness, by_⟩ := decided page member
        exact decided_sound f policy positive ordered most coldness page by_
      constructor
      case pages => exact sound
      case order =>
        intro first memberFirst second memberSecond colder
        obtain ⟨mild, decidedFirst⟩ := decided first memberFirst
        obtain ⟨cold, decidedSecond⟩ := decided second memberSecond
        apply decided_order f policy positive ordered mild cold first second decidedFirst
          decidedSecond
        -- Rounding keeps the order of the scores, so theirs are ordered before it too.
        by_contra warmer
        have rounded := f.round_mono _ _ 6 (lt_of_not_ge warmer).le
        rw [← decidedFirst.score, ← decidedSecond.score] at rounded
        exact absurd colder rounded.not_gt
      case whole =>
        intro some_page
        exact averages_add_up f decisions some_page (by omega) policy sound
      case band =>
        intro some_page
        exact average_in_band f decisions some_page (by omega) policy positive ordered most sound

-- At a tie the share and what is left of one are both rounded down.
example : ((XemZramColdMet.mk (nearest 0.0102) (nearest 0.12)).classify binary64 "tie"
    ⟨[⟨8, "", [0.375], [0.375], 0⟩], [.number 0.375], [.number 0.375], [.number 0.375]⟩).map
      (fun page => (page.retainedRatio, page.reductionRatio)) =
    some (binary64.decimal 71413 6, binary64.decimal 928586 6) := by decide +kernel

/-- Two pages of an engine that tells them apart by one number only. -/
def twoPages (key : String) : EngineReport :=
  ⟨[⟨if key = "warm" then 0 else 1439, key, [0.5], [0.5], 3⟩], [], [], []⟩

theorem two_pages_manifest : ∃ manifest,
    (XemZramColdMet.mk (nearest 0.0102) (nearest 0.12)).classifyMany binary64 twoPages
        ["warm", "cold"] = some manifest ∧
      ManifestSound binary64 ⟨nearest 0.0102, nearest 0.12⟩ manifest := by
  have classified : ((XemZramColdMet.mk (nearest 0.0102) (nearest 0.12)).classifyMany binary64
      twoPages ["warm", "cold"]).isSome = true := by decide +kernel
  obtain ⟨manifest, made⟩ := Option.isSome_iff_exists.mp classified
  exact ⟨manifest, made, manifest_sound binary64 _ (by decide +kernel) (by decide +kernel)
    (by decide +kernel) twoPages _ (by decide) manifest made⟩

end RyzenBuild.Xem
