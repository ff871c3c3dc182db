import RyzenBuild.Ladder.Direction

/-!
The ladder of `dawnhex_kmod.c` beside the ladder of `simplex_adalter_kmod.c`.
The duo ladder has three stages more: two gains of the pair, which are neutral
at one million, and a factor for crossed pairs.
-/
namespace RyzenBuild.Ladder

theorem init_counts : saLevelCount simplexInitCfg = 22 ∧ saNodeCount simplexInitCfg = 12 := by
  decide

theorem fib_tables_agree : saFib 22 = dhFillFib22 := by
  have filled : dhFillFib22.2 ≠ 0 := (fib_part 0 (by omega)).2
  have filling : saFillFib 22 = dhFillFib22 := rfl
  simp only [saFib, filling, if_neg filled]

/-- A pair whose two gains are neutral and which is not crossed. -/
structure PlainPair (p : DuoPair) : Prop where
  quotient : p.quotientPpm = 1000000
  refraction : p.refractionPpm = 1000000
  mode : p.mode ≠ dawnhexDuoCrossed

theorem node_agrees (p : DuoPair) (plain : PlainPair p) (base : SimplexAdalterBase)
    (levelScalarPpm i n : UInt32) :
    duoNodeRetained p base.retainedPpm duoFlags levelScalarPpm i n =
      saNodeRetained simplexInitCfg base 12 levelScalarPpm i n := by
  have refraction : dhClampU32 p.refractionPpm 900000 1200000 = ppm := by
    rw [plain.refraction]
    decide
  have quotient : dhClampU32 p.quotientPpm 800000 1250000 = ppm := by
    rw [plain.quotient]
    decide
  simp only [duoNodeRetained, refraction, quotient, dhMulPpm, mulPpm_ppm, if_neg plain.mode]
  rfl

/-- What the two modules both report about a level. -/
structure SameLevel (duo : DuoSimplexLevel) (sa : SimplexAdalterLevel) : Prop where
  fibValue : duo.fibValue = sa.fibValue
  fibWeight : duo.fibWeightPpm = sa.fibWeightPpm
  retained : duo.retainedPpm = sa.retainedPpm
  reduction : duo.reductionPpm = sa.reductionPpm
  energy : duo.energyPpm = sa.energyPpm
  mips : duo.mipRetainedPpm = sa.mipRetainedPpm

theorem level_agrees (p : DuoPair) (plain : PlainPair p) (base : SimplexAdalterBase) (i : Nat) :
    SameLevel (duoLevel p base.retainedPpm duoFlags dhFillFib22.1 dhFillFib22.2 i)
      (saLevel simplexInitCfg base 22 12 i) := by
  have nodes := node_agrees p plain base
  constructor <;>
    simp only [duoLevel, saLevel, saFibWeightPpm, saLevelScalarPpm, fib_tables_agree,
      levelSums_eq, duoNode, saNode, nodes] <;>
    rfl

/-- Sums that agree in the three totals the two modules both average. -/
structure SameSums (duo sa : Sums) : Prop where
  ret : duo.ret = sa.ret
  red : duo.red = sa.red
  energy : duo.energy = sa.energy

theorem sums_agree (duos : List DuoSimplexLevel) (sas : List SimplexAdalterLevel)
    (levels : List.Forall₂ SameLevel duos sas) (duo sa : Sums) (start : SameSums duo sa) :
    SameSums (duos.foldl Sums.addDuoLevel duo) (sas.foldl Sums.addSimplexLevel sa) := by
  induction levels generalizing duo sa with
  | nil => exact start
  | cons level _ ih =>
      apply ih
      exact
        { ret := by simp only [Sums.addDuoLevel, Sums.addSimplexLevel, start.ret, level.retained]
          red := by simp only [Sums.addDuoLevel, Sums.addSimplexLevel, start.red, level.reduction]
          energy := by
            simp only [Sums.addDuoLevel, Sums.addSimplexLevel, start.energy, level.energy] }

theorem sa_averages (st : SimplexAdalterState) (defaults : st.cfg = simplexInitCfg) (acc : Sums)
    (total : acc = (saRecomputeLocked st).report.levels.foldl Sums.addSimplexLevel Sums.zero) :
    (saRecomputeLocked st).report.averageRetainedPpm = averageU32 acc.ret 22 ∧
      (saRecomputeLocked st).report.averageReductionPpm = averageU32 acc.red 22 ∧
      (saRecomputeLocked st).report.recursiveEnergyPpm = averageU32 acc.energy 22 := by
  have count : saLevelCount st.cfg = 22 := by
    rw [defaults]
    exact init_counts.1
  subst total
  rw [← count]
  exact ⟨rfl, rfl, rfl⟩

/-- With neutral gains and the same base ratio the duo ladder is the ladder of
the other module under its default configuration. -/
theorem ladders_agree (p : DuoPair) (plain : PlainPair p) (st : SimplexAdalterState)
    (defaults : st.cfg = simplexInitCfg)
    (base : st.base.retainedPpm = (dhDuoRecomputeSimplexLocked p).simplex.baseRetainedPpm) :
    (dhDuoRecomputeSimplexLocked p).simplex.levels.length = 22 ∧
      List.Forall₂ SameLevel (dhDuoRecomputeSimplexLocked p).simplex.levels
        (saRecomputeLocked st).report.levels ∧
      (dhDuoRecomputeSimplexLocked p).simplex.recursiveRetainedPpm =
        (saRecomputeLocked st).report.averageRetainedPpm ∧
      (dhDuoRecomputeSimplexLocked p).simplex.recursiveReductionPpm =
        (saRecomputeLocked st).report.averageReductionPpm ∧
      (dhDuoRecomputeSimplexLocked p).simplex.recursiveEnergyPpm =
        (saRecomputeLocked st).report.recursiveEnergyPpm := by
  have ratio : dhDuoBaseRetainedPpmLocked p = st.base.retainedPpm := base.symm
  have report : (saRecomputeLocked st).report.levels =
      (List.range 22).map (saLevel simplexInitCfg st.base 22 12) := by
    simp only [saRecomputeLocked, defaults, init_counts]
    rfl
  have levels : List.Forall₂ SameLevel (dhDuoRecomputeSimplexLocked p).simplex.levels
      (saRecomputeLocked st).report.levels := by
    rw [recompute_ladder, report, ratio, List.forall₂_map_left_iff, List.forall₂_map_right_iff,
      dawnhexSimplexLevels, List.forall₂_same]
    exact fun i _ => level_agrees p plain st.base i
  have sums := sums_agree _ _ levels Sums.zero Sums.zero ⟨rfl, rfl, rfl⟩
  obtain ⟨duoRet, duoRed, duoEnergy⟩ := duo_averages p _ rfl
  obtain ⟨saRet, saRed, saEnergy⟩ := sa_averages st defaults _ rfl
  refine ⟨recompute_levels p, levels, ?_, ?_, ?_⟩
  · rw [duoRet, saRet, sums.ret]
  · rw [duoRed, saRed, sums.red]
  · rw [duoEnergy, saEnergy, sums.energy]

/-- A pulsed pair with neutral gains, and the other module loaded with the
pair's base ratio. -/
theorem neutral_pair_agrees :
    let p := { DuoPair.zero with
      mode := 1, quotientPpm := 1000000, refractionPpm := 1000000, energyPpm := 400000 }
    let base := { simplexInitBase with
      retainedPpm := (dhDuoRecomputeSimplexLocked p).simplex.baseRetainedPpm }
    (dhDuoRecomputeSimplexLocked p).simplex.recursiveEnergyPpm =
      (saRecomputeLocked { simplexInit with base := base }).report.recursiveEnergyPpm :=
  (ladders_agree { DuoPair.zero with
      mode := 1, quotientPpm := 1000000, refractionPpm := 1000000, energyPpm := 400000 }
    ⟨rfl, rfl, by decide⟩ _ rfl rfl).2.2.2.2

end RyzenBuild.Ladder
