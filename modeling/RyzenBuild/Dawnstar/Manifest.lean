import RyzenBuild.Dawnstar.Regions

/-!
One rendering of a manifest. The ratios it prints and the ratios of its pyramid
come from two calls of the profile builder, and each call ticks the metronome.
-/
namespace RyzenBuild.Dawnstar

open Rounding RyzenStack

namespace MetronomeConfig

theorem mPi_positive : 0 < 2 * mPi := by
  norm_num [mPi]

/-- The second tick is lost on a metronome that stands still, or that moves by
whole periods. -/
theorem tick_tick_iff (m : MetronomeConfig) (dt : ℚ) :
    (m.tick dt).tick dt = m.tick dt ↔ m.enabled = false ∨ ∃ k : ℤ, dt * m.hz * m.adder = k := by
  obtain ⟨hz, adder, phase, enabled⟩ := m
  cases enabled with
  | false => simp [tick]
  | true =>
      have periods := wrap_again (phase + dt * hz * adder * 2 * mPi) (2 * mPi) mPi_positive
        (dt * hz * adder)
      have step : dt * hz * adder * (2 * mPi) = dt * hz * adder * 2 * mPi := by ring
      rw [step] at periods
      simp [tick, periods]

end MetronomeConfig

section Rendering

variable (sin : ℚ → ℚ) (frame : DawnstarFrame) (health : DawnstarHealthReport)
variable (stack : RyzenStack) (dt : ℚ)

/-- The ratios the pyramid of a rendering is computed with. -/
def pyramidRatios : List ℚ :=
  let (_, stack) := buildMipRetainedRatios sin frame health stack dt
  (buildMipRetainedRatios sin frame health stack dt).1

theorem pyramid_eq :
    (renderManifestJSON sin frame health stack dt).1.pyramid =
      pyramidOf (renderManifestJSON sin frame health stack dt).2.cfg
        (pyramidRatios sin frame health stack dt) := rfl

theorem mipRetainedRatios_eq :
    (renderManifestJSON sin frame health stack dt).1.mipRetainedRatios =
      ratios sin frame health (stack.tick dt).cfg := rfl

theorem pyramidRatios_eq :
    pyramidRatios sin frame health stack dt =
      ratios sin frame health ((stack.tick dt).tick dt).cfg := rfl

/-- A manifest of one profile, after one tick. -/
structure Consistent : Prop where
  profile :
    (renderManifestJSON sin frame health stack dt).1.mipRetainedRatios =
      pyramidRatios sin frame health stack dt
  bytes : ∀ (i : Nat) (m : MipLevelDesc) (ratio : ℚ),
    (renderManifestJSON sin frame health stack dt).1.pyramid.mip[i]? = some m →
    (renderManifestJSON sin frame health stack dt).1.mipRetainedRatios[i]? = some ratio →
    m.bytesOut = UInt64.ofNat (max 1 (roundAway (m.bytesIn.toNat * ratio))).toNat
  metronome : (renderManifestJSON sin frame health stack dt).2 = stack.tick dt

theorem bytes_of_profile (cfg : StackConfig) (retained : List ℚ) (i : Nat) (m : MipLevelDesc)
    (ratio : ℚ) (level : (pyramidOf cfg retained).mip[i]? = some m)
    (here : retained[i]? = some ratio) :
    m.bytesOut = UInt64.ofNat (max 1 (roundAway (m.bytesIn.toNat * ratio))).toNat := by
  have built := mipLevels_getElem? cfg 0 retained cfg.width cfg.height i
  rw [here, Option.map_some] at built
  cases built.symm.trans level
  rfl

theorem tick_eq_iff (stack : RyzenStack) (dt : ℚ) :
    (stack.tick dt).tick dt = stack.tick dt ↔
      (stack.cfg.metronome.tick dt).tick dt = stack.cfg.metronome.tick dt := by
  constructor
  · intro same
    exact congrArg (fun s => s.cfg.metronome) same
  · intro same
    simp only [RyzenStack.tick, same]

/-- A manifest is consistent where the second tick of its rendering is lost. -/
theorem manifest_consistent_iff :
    Consistent sin frame health stack dt ↔
      stack.cfg.metronome.enabled = false ∨
        ∃ k : ℤ, dt * stack.cfg.metronome.hz * stack.cfg.metronome.adder = k := by
  rw [← MetronomeConfig.tick_tick_iff, ← tick_eq_iff]
  constructor
  · intro consistent
    exact consistent.metronome
  · intro lost
    have profile : (renderManifestJSON sin frame health stack dt).1.mipRetainedRatios =
        pyramidRatios sin frame health stack dt := by
      rw [mipRetainedRatios_eq, pyramidRatios_eq, lost]
    refine ⟨profile, ?_, lost⟩
    intro i m ratio level here
    rw [pyramid_eq] at level
    rw [profile] at here
    exact bytes_of_profile _ _ i m ratio level here

end Rendering

section SquareWave

/-- A sine that knows only its sign. -/
def squareWave (phase : ℚ) : ℚ := if phase < mPi then 1 else -1

def quietFrame : DawnstarFrame := ⟨0, [], [], ⟨false, 0⟩, "idle", 0, 0⟩

def quietHealth : DawnstarHealthReport := ⟨70, 0, 0⟩

/-- With the configuration of `main` the first level is printed at a ratio of
0.113 and sized at one of 0.161. -/
theorem main_manifest_inconsistent :
    (renderManifestJSON squareWave quietFrame quietHealth (RyzenStack.new (squareConfig 4096))
        0.25).1.mipRetainedRatios[0]? = some (27634707 / 244140625) ∧
      (pyramidRatios squareWave quietFrame quietHealth (RyzenStack.new (squareConfig 4096))
        0.25)[0]? = some (4902722136 / 30517578125) ∧
      ¬Consistent squareWave quietFrame quietHealth (RyzenStack.new (squareConfig 4096)) 0.25 := by
  have printed : (renderManifestJSON squareWave quietFrame quietHealth
      (RyzenStack.new (squareConfig 4096)) 0.25).1.mipRetainedRatios[0]? =
        some (27634707 / 244140625) := by decide +kernel
  have used : (pyramidRatios squareWave quietFrame quietHealth
      (RyzenStack.new (squareConfig 4096)) 0.25)[0]? = some (4902722136 / 30517578125) := by
    decide +kernel
  refine ⟨printed, used, ?_⟩
  intro consistent
  rw [consistent.profile, used] at printed
  norm_num at printed

end SquareWave

end RyzenBuild.Dawnstar
