import RyzenBuild.Ladder.SimplexBoost

/-!
The limits under which a report is valid. Gains up to the whole only take from a
node, so what it comes to before them bounds what it retains; the roundings of
the shaping are monotone, and a bit lost to 32 bits only makes a value smaller.
-/
namespace RyzenBuild.Ladder

open Kernel FixedPoint

/-- The most a node comes to before the gains take from it: the shaping in
unbounded integers, with the spread of the last slot. -/
def reach (cfg : SimplexAdalterCfg) (base : SimplexAdalterBase) : Nat :=
  let lo := cfg.minRetainedPpm.toNat
  let hi := cfg.maxRetainedPpm.toNat
  let scaled := mulRound 65536 (mulRound 65536 base.retainedPpm.toNat cfg.armQ16.toNat)
    cfg.uScalarQ16.toNat
  let spread := mulRound 65536 14025 cfg.adderQ16.toNat
  mulRound 65536 (clamp (clamp scaled lo hi + spread) lo hi) cfg.modifierQ16.toNat

/-- No gain takes more than the whole. -/
structure Taking (cfg : SimplexAdalterCfg) : Prop where
  level : cfg.levelGainPpm.toNat ≤ 1000000
  node : cfg.nodeGainPpm.toNat ≤ 1000000
  phase : (2 * cfg.recursionLevels.toNat + cfg.nodesPerLevel.toNat) * cfg.phaseGainPpm.toNat ≤
    200000000

/-- The upper limit is above the whole, but nothing reaches it. -/
structure Restrained (cfg : SimplexAdalterCfg) (base : SimplexAdalterBase) : Prop where
  least : cfg.minRetainedPpm.toNat ≤ 1000000
  taking : Taking cfg
  shaped : reach cfg base ≤ 1000000

section Scalars

variable (cfg : SimplexAdalterCfg) (accepted : Accepted cfg) (taking : Taking cfg)
include accepted taking

theorem level_scalar_le (i : Nat) (inside : i < cfg.recursionLevels.toNat) :
    (saLevelScalarPpm cfg (saFibWeightPpm cfg.recursionLevels i)).toNat ≤ 1000000 := by
  have weight := saFibWeightPpm_toNat cfg.recursionLevels accepted.levels_pos accepted.levels_le i
    inside
  have part := exactWeight_le cfg.recursionLevels.toNat i inside
  have product : mulRound 1000000 (saFibWeightPpm cfg.recursionLevels i).toNat
      cfg.levelGainPpm.toNat ≤ 1000000 := by
    apply mulRound_le _ _ _ _ (by decide)
    rw [weight]
    exact Nat.mul_le_mul part taking.level
  have taken : (saMulPpm (saFibWeightPpm cfg.recursionLevels i) cfg.levelGainPpm).toNat ≤
      1000000 := by
    rw [saMulPpm, mulPpm_toNat]
    exact (Nat.mod_le _ _).trans product
  rw [saLevelScalarPpm, ppm_sub_toNat _ taken]
  exact Nat.sub_le _ _

theorem node_scalar_le (n : Nat) (inside : n < cfg.nodesPerLevel.toNat) :
    (if cfg.nodesPerLevel > 1 then
        ppm - UInt32.ofNat n * cfg.nodeGainPpm / (cfg.nodesPerLevel - 1) else ppm).toNat ≤
      1000000 := by
  split
  · next several =>
      have several : 1 < cfg.nodesPerLevel.toNat := UInt32.lt_iff_toNat_lt.mp several
      have one : (1 : UInt32) ≤ cfg.nodesPerLevel := UInt32.le_iff_toNat_le.mpr (by
        simpa using Nat.le_of_lt several)
      have nodes := accepted.nodes_le
      have index := index_toNat n _ inside (nodes.trans (by decide))
      have last : n ≤ cfg.nodesPerLevel.toNat - 1 := by omega
      have product : n * cfg.nodeGainPpm.toNat ≤ (cfg.nodesPerLevel.toNat - 1) * 1000000 :=
        Nat.mul_le_mul last taking.node
      have narrow : n * cfg.nodeGainPpm.toNat < 2 ^ 32 := by omega
      have taken : (UInt32.ofNat n * cfg.nodeGainPpm / (cfg.nodesPerLevel - 1)).toNat ≤
          1000000 := by
        rw [UInt32.toNat_div, UInt32.toNat_mul, index, UInt32.toNat_sub_of_le _ _ one,
          Nat.mod_eq_of_lt narrow]
        exact Nat.div_le_of_le_mul product
      rw [ppm_sub_toNat _ taken]
      exact Nat.sub_le _ _
  · decide

theorem phase_scalar_le (i n : Nat) (level : i < cfg.recursionLevels.toNat)
    (inside : n < cfg.nodesPerLevel.toNat) :
    (ppm - (UInt32.ofNat i + 1) * cfg.phaseGainPpm / 100 -
      UInt32.ofNat n * cfg.phaseGainPpm / 200).toNat ≤ 1000000 := by
  have levels := accepted.levels_le
  have nodes := accepted.nodes_le
  have phase := taking.phase
  have deeper : 2 * (i + 1) + n ≤ 2 * cfg.recursionLevels.toNat + cfg.nodesPerLevel.toNat := by
    omega
  have both : (2 * (i + 1) + n) * cfg.phaseGainPpm.toNat ≤ 200000000 :=
    (Nat.mul_le_mul_right _ deeper).trans phase
  rw [Nat.add_mul, Nat.mul_assoc] at both
  have depth : (UInt32.ofNat i + 1).toNat = i + 1 := by
    simp only [UInt32.toNat_add, UInt32.toNat_ofNat', UInt32.reduceToNat]
    omega
  have index := index_toNat n _ inside (nodes.trans (by decide))
  have first : ((UInt32.ofNat i + 1) * cfg.phaseGainPpm / 100).toNat =
      (i + 1) * cfg.phaseGainPpm.toNat / 100 := by
    rw [UInt32.toNat_div, UInt32.toNat_mul, depth, Nat.mod_eq_of_lt (by omega)]
    rfl
  have second : (UInt32.ofNat n * cfg.phaseGainPpm / 200).toNat =
      n * cfg.phaseGainPpm.toNat / 200 := by
    rw [UInt32.toNat_div, UInt32.toNat_mul, index, Nat.mod_eq_of_lt (by omega)]
    rfl
  have left := ppm_sub_toNat ((UInt32.ofNat i + 1) * cfg.phaseGainPpm / 100) (by omega)
  rw [UInt32.toNat_sub_of_le _ _ (UInt32.le_iff_toNat_le.mpr (by omega)), left]
  omega

end Scalars

section Shaping

/-- A scalar up to the whole takes from what it scales. -/
theorem mulPpm_shrinks (v scalar : UInt32) (part : scalar.toNat ≤ 1000000) :
    (mulPpm v scalar).toNat ≤ v.toNat := by
  rw [mulPpm_toNat]
  exact (Nat.mod_le _ _).trans
    (mulRound_le _ _ _ _ (by decide) (Nat.mul_le_mul_left _ part))

theorem mulQ16_le (v q : UInt32) (most : Nat) (below : v.toNat ≤ most) :
    (mulQ16 v q).toNat ≤ mulRound 65536 most q.toNat := by
  rw [mulQ16_toNat]
  exact (Nat.mod_le _ _).trans (mulRound_mono _ _ _ _ _ below (Nat.le_refl _))

theorem slot_spread_le (n : UInt32) : (10200 + n % 4 * 1275).toNat ≤ 14025 := by
  have slot : n.toNat % 4 < 4 := Nat.mod_lt _ (by decide)
  simp only [UInt32.toNat_add, UInt32.toNat_mul, UInt32.toNat_mod, UInt32.reduceToNat]
  rw [Nat.mod_eq_of_lt (a := n.toNat % 4 * 1275) (by omega), Nat.mod_eq_of_lt (by omega)]
  omega

theorem node_shaped_le (cfg : SimplexAdalterCfg) (base : SimplexAdalterBase)
    (accepted : Accepted cfg) (ordered : cfg.minRetainedPpm.toNat ≤ cfg.maxRetainedPpm.toNat)
    (taking : Taking cfg) (i n : Nat) (deep : i < cfg.recursionLevels.toNat)
    (inside : n < cfg.nodesPerLevel.toNat) :
    (saNodeShaped cfg base cfg.nodesPerLevel
      (saLevelScalarPpm cfg (saFibWeightPpm cfg.recursionLevels i))
      (UInt32.ofNat i) (UInt32.ofNat n)).toNat ≤ reach cfg base := by
  have scaled := mulQ16_le (mulQ16 base.retainedPpm cfg.armQ16) cfg.uScalarQ16 _
    (mulQ16_le base.retainedPpm cfg.armQ16 _ (Nat.le_refl _))
  have limited := clamp_mono cfg.minRetainedPpm.toNat cfg.maxRetainedPpm.toNat _ _ ordered scaled
  rw [← clampU32_toNat] at limited
  have spread := mulQ16_le (10200 + UInt32.ofNat n % 4 * 1275) cfg.adderQ16 _
    (slot_spread_le (UInt32.ofNat n))
  have sum := Nat.add_le_add limited spread
  have added := (Nat.mod_le _ (2 ^ 32)).trans sum
  rw [← UInt32.toNat_add] at added
  have again := clamp_mono cfg.minRetainedPpm.toNat cfg.maxRetainedPpm.toNat _ _ ordered added
  rw [← clampU32_toNat] at again
  have modified := mulQ16_le _ cfg.modifierQ16 _ again
  -- From here on every scalar takes.
  have level := level_scalar_le cfg accepted taking i deep
  have node := node_scalar_le cfg accepted taking n inside
  have phase := phase_scalar_le cfg accepted taking i n deep inside
  have taken (v : UInt32) (below : v.toNat ≤ reach cfg base) (scalar : UInt32)
      (part : scalar.toNat ≤ 1000000) : (mulPpm v scalar).toNat ≤ reach cfg base :=
    (mulPpm_shrinks v scalar part).trans below
  simp only [saNodeShaped, saMulPpm, saMulQ16, saClampU32]
  have shaped := taken _ (taken _ (taken _ modified _ level) _ node) _ phase
  split
  · split
    · exact taken _ (taken _ shaped _ (by decide)) _ (by decide)
    · exact taken _ shaped _ (by decide)
  · split
    · exact taken _ shaped _ (by decide)
    · exact shaped

theorem nodes_within_of_restrained (cfg : SimplexAdalterCfg) (base : SimplexAdalterBase)
    (accepted : Accepted cfg) (ordered : cfg.minRetainedPpm.toNat ≤ cfg.maxRetainedPpm.toNat)
    (restrained : Restrained cfg base) : NodesWithinWhole cfg base := by
  intro i level n inside
  have shaped := (node_shaped_le cfg base accepted ordered restrained.taking i n level inside).trans
    restrained.shaped
  have least := restrained.least
  rw [saNodeRetained, saClampU32, clampU32_toNat]
  unfold clamp
  split
  · exact least
  · split <;> omega

end Shaping

section Untaken

/-- Nothing is taken from a node, its last slot occurs and no stage of the
shaping passes 32 bits. -/
structure Untaken (cfg : SimplexAdalterCfg) (base : SimplexAdalterBase) : Prop where
  level : cfg.levelGainPpm = 0
  node : cfg.nodeGainPpm = 0
  phase : cfg.phaseGainPpm = 0
  supercompute : cfg.flags &&& simplexFlagSupercompute = 0
  chipRelay : cfg.flags &&& simplexFlagChipRelay = 0
  lastSlot : 3 < cfg.nodesPerLevel.toNat
  arm : mulRound 65536 base.retainedPpm.toNat cfg.armQ16.toNat < 2 ^ 32
  scaled : mulRound 65536 (mulRound 65536 base.retainedPpm.toNat cfg.armQ16.toNat)
    cfg.uScalarQ16.toNat < 2 ^ 32
  spread : cfg.maxRetainedPpm.toNat + mulRound 65536 14025 cfg.adderQ16.toNat < 2 ^ 32
  modified : mulRound 65536 cfg.maxRetainedPpm.toNat cfg.modifierQ16.toNat < 2 ^ 32

theorem mulQ16_exact (v q : UInt32) (narrow : mulRound 65536 v.toNat q.toNat < 2 ^ 32) :
    (mulQ16 v q).toNat = mulRound 65536 v.toNat q.toNat := by
  rw [mulQ16_toNat, Nat.mod_eq_of_lt narrow]

/-- The fourth node of a level has the last slot and comes to the whole reach. -/
theorem fourth_node_reaches (cfg : SimplexAdalterCfg) (base : SimplexAdalterBase)
    (ordered : cfg.minRetainedPpm.toNat ≤ cfg.maxRetainedPpm.toNat) (untaken : Untaken cfg base)
    (i : Nat) :
    (saNodeShaped cfg base cfg.nodesPerLevel
      (saLevelScalarPpm cfg (saFibWeightPpm cfg.recursionLevels i))
      (UInt32.ofNat i) (UInt32.ofNat 3)).toNat = reach cfg base := by
  have level : saLevelScalarPpm cfg (saFibWeightPpm cfg.recursionLevels i) = ppm := by
    simp [saLevelScalarPpm, untaken.level, saMulPpm]
  have slot : (10200 + UInt32.ofNat 3 % 4 * 1275).toNat = 14025 := by decide
  have armed := mulQ16_exact base.retainedPpm cfg.armQ16 untaken.arm
  have scaled := mulQ16_exact (mulQ16 base.retainedPpm cfg.armQ16) cfg.uScalarQ16
    (armed ▸ untaken.scaled)
  rw [armed] at scaled
  have spread := mulQ16_exact (10200 + UInt32.ofNat 3 % 4 * 1275) cfg.adderQ16
    (by rw [slot]; exact (Nat.le_add_left _ _).trans_lt untaken.spread)
  rw [slot] at spread
  have limited := (clamp_between (mulRound 65536 (mulRound 65536 base.retainedPpm.toNat
    cfg.armQ16.toNat) cfg.uScalarQ16.toNat) _ _ ordered).2
  have sum := (Nat.add_le_add_right limited _).trans_lt untaken.spread
  have whole := (clamp_between (clamp (mulRound 65536 (mulRound 65536 base.retainedPpm.toNat
    cfg.armQ16.toNat) cfg.uScalarQ16.toNat) cfg.minRetainedPpm.toNat cfg.maxRetainedPpm.toNat +
      mulRound 65536 14025 cfg.adderQ16.toNat) _ _ ordered).2
  have modified := (mulRound_mono 65536 _ _ _ _ whole (Nat.le_refl cfg.modifierQ16.toNat)).trans_lt
    untaken.modified
  simp only [saNodeShaped, level, untaken.node, untaken.phase, untaken.supercompute,
    untaken.chipRelay, UInt32.mul_zero, UInt32.zero_div, UInt32.sub_zero, ite_self, saMulPpm,
    mulPpm_ppm, ne_eq, not_true_eq_false, if_false, saMulQ16, saClampU32]
  rw [mulQ16_toNat, clampU32_toNat, UInt32.toNat_add, clampU32_toNat, scaled, spread,
    Nat.mod_eq_of_lt sum, Nat.mod_eq_of_lt modified, reach]

theorem restrained_of_within (cfg : SimplexAdalterCfg) (base : SimplexAdalterBase)
    (accepted : Accepted cfg) (ordered : cfg.minRetainedPpm.toNat ≤ cfg.maxRetainedPpm.toNat)
    (above : 1000000 < cfg.maxRetainedPpm.toNat) (untaken : Untaken cfg base)
    (within : NodesWithinWhole cfg base) : Restrained cfg base := by
  have node := within 0 accepted.levels_pos 3 untaken.lastSlot
  have lower := (clampU32_between (saNodeShaped cfg base cfg.nodesPerLevel
    (saLevelScalarPpm cfg (saFibWeightPpm cfg.recursionLevels 0)) (UInt32.ofNat 0)
    (UInt32.ofNat 3)) _ _ ordered).1
  refine ⟨lower.trans node, ⟨?_, ?_, ?_⟩, ?_⟩
  · rw [untaken.level]
    decide
  · rw [untaken.node]
    decide
  · rw [untaken.phase]
    exact Nat.zero_le _
  · rw [saNodeRetained, saClampU32, clampU32_toNat, fourth_node_reaches cfg base ordered untaken 0,
      clamp] at node
    split at node
    · omega
    · split at node <;> omega

end Untaken

end RyzenBuild.Ladder
