import RyzenBuild.Ladder.Simplex

/-!
What the checks of `SET_CFG` buy. The clamps of the ladder keep a level
between the two configured limits only if the limits are ordered, and the
subtraction from one million stays below one only if no node exceeds it;
neither is checked.
-/
namespace RyzenBuild.Ladder

open Kernel FixedPoint

structure Accepted (cfg : SimplexAdalterCfg) : Prop where
  version : cfg.version = 1
  levels_pos : 0 < cfg.recursionLevels.toNat
  levels_le : cfg.recursionLevels.toNat ≤ 22
  nodes_pos : 0 < cfg.nodesPerLevel.toNat
  nodes_le : cfg.nodesPerLevel.toNat ≤ 12

theorem set_cfg_accepted (st configured : SimplexAdalterState) (cfg : SimplexAdalterCfg) :
    simplexIoctlSetCfg st cfg = .ok configured ↔
      Accepted cfg ∧ configured = { st with cfg := cfg } := by
  have zero (v : UInt32) : v = 0 ↔ v.toNat = 0 := UInt32.toNat_inj.symm
  have levels : simplexAdalterMaxLevels.toNat = 22 := by decide
  have nodes : simplexAdalterNodesPerLevel.toNat = 12 := by decide
  unfold simplexIoctlSetCfg
  simp only [zero, gt_iff_lt, UInt32.lt_iff_toNat_lt, levels, nodes]
  constructor
  · intro accepted
    split at accepted
    · cases accepted
    · split at accepted
      · cases accepted
      · split at accepted
        · cases accepted
        · refine ⟨⟨?_, ?_, ?_, ?_, ?_⟩, (Except.ok.inj accepted).symm⟩ <;> grind
  · rintro ⟨⟨version, levelsPos, levelsLe, nodesPos, nodesLe⟩, rfl⟩
    rw [if_neg (by simpa using version), if_neg (by omega), if_neg (by omega)]

/-- An accepted configuration is used with its own counts. -/
theorem accepted_counts (cfg : SimplexAdalterCfg) (accepted : Accepted cfg) :
    saLevelCount cfg = cfg.recursionLevels ∧ saNodeCount cfg = cfg.nodesPerLevel := by
  have levels : simplexAdalterMaxLevels.toNat = 22 := by decide
  have nodes : simplexAdalterNodesPerLevel.toNat = 12 := by decide
  have someLevels : cfg.recursionLevels ≠ 0 := fun none => by
    have positive := accepted.levels_pos
    simp [none] at positive
  have someNodes : cfg.nodesPerLevel ≠ 0 := fun none => by
    have positive := accepted.nodes_pos
    simp [none] at positive
  have fewLevels := accepted.levels_le
  have fewNodes := accepted.nodes_le
  simp only [saLevelCount, saNodeCount, someLevels, someNodes, if_false, gt_iff_lt,
    UInt32.lt_iff_toNat_lt, levels, nodes]
  exact ⟨if_neg (by omega), if_neg (by omega)⟩

/-- The report of the work item after `SET_CFG` and `RUN_BASE`. -/
def reportAfter (st : SimplexAdalterState) (cfg : SimplexAdalterCfg)
    (base : SimplexAdalterBase) : Except Errno SimplexAdalterReport :=
  (simplexIoctlSetCfg st cfg).map fun configured =>
    (saRecomputeLocked (simplexIoctlRunBase configured base)).report

structure LevelValid (cfg : SimplexAdalterCfg) (level : SimplexAdalterLevel) : Prop where
  lower : cfg.minRetainedPpm.toNat ≤ level.retainedPpm.toNat
  upper : level.retainedPpm.toNat ≤ cfg.maxRetainedPpm.toNat
  complement : level.retainedPpm.toNat + level.reductionPpm.toNat = 1000000 ∨
    level.retainedPpm.toNat + level.reductionPpm.toNat = 999999
  crosshatch : level.crosshatchPpm.toNat ≤ 1000000
  coldness : level.coldnessPpm.toNat ≤ 1000000

def ReportValid (cfg : SimplexAdalterCfg) (report : SimplexAdalterReport) : Prop :=
  ∀ level ∈ report.levels, LevelValid cfg level

/-- No node of any level reaches the subtraction from one million with more
than one million. -/
def NodesWithinWhole (cfg : SimplexAdalterCfg) (base : SimplexAdalterBase) : Prop :=
  ∀ i, i < cfg.recursionLevels.toNat → ∀ n, n < cfg.nodesPerLevel.toNat →
    (saNodeRetained cfg base cfg.nodesPerLevel
      (saLevelScalarPpm cfg (saFibWeightPpm cfg.recursionLevels i))
      (UInt32.ofNat i) (UInt32.ofNat n)).toNat ≤ 1000000

theorem report_levels (st : SimplexAdalterState) (cfg : SimplexAdalterCfg)
    (base : SimplexAdalterBase) (report : SimplexAdalterReport)
    (produced : reportAfter st cfg base = .ok report) :
    Accepted cfg ∧ report.levels = (List.range cfg.recursionLevels.toNat).map
      (saLevel cfg (simplexIoctlRunBase st base).base cfg.recursionLevels cfg.nodesPerLevel) := by
  unfold reportAfter at produced
  cases set : simplexIoctlSetCfg st cfg with
  | error e =>
      rw [set] at produced
      contradiction
  | ok configured =>
      obtain ⟨accepted, rfl⟩ := (set_cfg_accepted st configured cfg).mp set
      rw [set] at produced
      have counts := accepted_counts cfg accepted
      refine ⟨accepted, ?_⟩
      rw [← Except.ok.inj produced]
      simp only [saRecomputeLocked, simplexIoctlRunBase, counts.1, counts.2]

/-- A level is valid exactly if the limits are ordered and no node's ratio
makes the reduction wrap. -/
theorem level_valid_iff (cfg : SimplexAdalterCfg) (base : SimplexAdalterBase)
    (accepted : Accepted cfg) (i : Nat) :
    LevelValid cfg (saLevel cfg base cfg.recursionLevels cfg.nodesPerLevel i) ↔
      cfg.minRetainedPpm.toNat ≤ cfg.maxRetainedPpm.toNat ∧
      ∀ n, n < cfg.nodesPerLevel.toNat →
        (saNodeRetained cfg base cfg.nodesPerLevel
          (saLevelScalarPpm cfg (saFibWeightPpm cfg.recursionLevels i))
          (UInt32.ofNat i) (UInt32.ofNat n)).toNat ≤ 1000000 := by
  have positive := accepted.nodes_pos
  have few := accepted.nodes_le
  constructor
  · intro valid
    refine ⟨valid.lower.trans valid.upper, ?_⟩
    intro n inside
    by_contra exceeds
    have wrapped := retained_reduction_wraps cfg.nodesPerLevel
      (fun n => saNodeRetained cfg base cfg.nodesPerLevel
        (saLevelScalarPpm cfg (saFibWeightPpm cfg.recursionLevels i))
        (UInt32.ofNat i) (UInt32.ofNat n)) positive (by omega) n inside (Nat.lt_of_not_le exceeds)
    have split := valid.complement
    simp only [saLevel, levelSums_eq, saNode] at split
    omega
  · rintro ⟨ordered, within⟩
    have between (n : UInt32) := clampU32_between
      (saNodeShaped cfg base cfg.nodesPerLevel
        (saLevelScalarPpm cfg (saFibWeightPpm cfg.recursionLevels i)) (UInt32.ofNat i) n)
      cfg.minRetainedPpm cfg.maxRetainedPpm ordered
    simp only [saLevel, levelSums_eq, saNode]
    exact
      { lower := le_averageU32 _ _ _ positive fun n => (between (UInt32.ofNat n)).1
        upper := averageU32_le _ _ _ positive fun n => (between (UInt32.ofNat n)).2
        complement := retained_reduction _ _ positive within
        crosshatch := averageU32_le _ _ _ positive fun n => clampU32_le_ppm _
        coldness := averageU32_le _ _ _ positive fun n => clampU32_le_ppm _ }

theorem report_valid_of_produced (st : SimplexAdalterState) (cfg : SimplexAdalterCfg)
    (base : SimplexAdalterBase) (report : SimplexAdalterReport)
    (produced : reportAfter st cfg base = .ok report) :
    ReportValid cfg report ↔
      cfg.minRetainedPpm.toNat ≤ cfg.maxRetainedPpm.toNat ∧ NodesWithinWhole cfg base := by
  obtain ⟨accepted, levels⟩ := report_levels st cfg base report produced
  have level := level_valid_iff cfg (simplexIoctlRunBase st base).base accepted
  unfold ReportValid NodesWithinWhole
  rw [levels]
  simp only [List.mem_map, List.mem_range, forall_exists_index, and_imp,
    forall_apply_eq_imp_iff₂, level]
  constructor
  · intro valid
    exact ⟨(valid 0 accepted.levels_pos).1, fun i inside => (valid i inside).2⟩
  · rintro ⟨ordered, within⟩ i inside
    exact ⟨ordered, within i inside⟩

end RyzenBuild.Ladder
