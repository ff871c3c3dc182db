import RyzenBuild.DawnHex.Pairs
import RyzenBuild.Ladder.DuoChecked

/-!
Every ratio of the two tables stays at most one million, and under that
invariant no operation of the tick, the pulse and the ladder wraps. The
checked functions repeat those of the module over operations that fail on a
wrap; `generation` and `pulses` count modulo 2^32 and stay unchecked.
-/
namespace RyzenBuild.DawnHex

open Kernel Ladder Memory Bitmask Checked

structure RatioNode (n : Node) : Prop where
  energy : n.energyPpm.toNat ≤ 1000000
  health : n.healthPpm.toNat ≤ 1000000

/-- A live pair: the inputs of its ladder and the last value pulsed into it. -/
structure BoundedPair (p : DuoPair) : Prop extends RatioPair p where
  lastValue : p.lastValuePpm.toNat ≤ 1000000

structure Bounded (s : State) : Prop where
  nodes : ∀ k, k < dawnhexMaxNodes → RatioNode (s.nodes k)
  pairs : ∀ p ∈ livePairs s, BoundedPair p

def checkedTickedNode (n : Node) : Option Node := do
  let linkFactor ← mul32 (hweight64 n.linksMask) 5000
  let energy ← add32 n.energyPpm 1000
  let energy ← add32 energy linkFactor
  let n := { n with energyPpm := dhClampU32 energy 10000 1000000 }
  if n.healthPpm > 250000 then do
    let health ← sub32 n.healthPpm 250
    pure { n with healthPpm := health }
  else pure n

def checkedTickNode (s : State) (i : Nat) : Option State := do
  let n := s.nodes i
  if !n.present || !n.online then pure s
  else do
    let n ← checkedTickedNode n
    pure (dhEmitEventLocked (s.setNode i n)
      (field "tick id=" n.id.toNat ++ field " energy=" n.energyPpm.toNat ++
        field " health=" n.healthPpm.toNat ++ field " links=" (hweight64 n.linksMask).toNat))

def checkedTickOnceLocked (s : State) : Option State :=
  (List.range dawnhexMaxNodes).foldlM checkedTickNode s.bumpGeneration

def checkedPulsedPair (p : DuoPair) (na nb : Node) (valuePpm : UInt32) : Option DuoPair := do
  let energySum ← add32 na.energyPpm nb.energyPpm
  let healthSum ← add32 na.healthPpm nb.healthPpm
  let inflow ← add32 (energySum / 2) valuePpm
  let rest ← sub32 1000000 valuePpm
  let outflow ← add32 (healthSum / 2) rest
  checkedRecomputeSimplex
    { p with
      lastValuePpm := valuePpm
      pulses := p.pulses + 1
      energyPpm := dhClampU32 (inflow / 2) 0 1000000
      pressurePpm := dhClampU32 (outflow / 2) 0 1000000 }

def checkedPulsedNode (n : Node) (pairEnergyPpm : UInt32) : Option Node := do
  let sum ← add32 n.energyPpm pairEnergyPpm
  pure { n with energyPpm := dhClampU32 (sum / 2) 0 1000000 }

def checkedDuoPulseLocked (s : State) (pairId valuePpm : UInt32) :
    Option (State × Option Errno) :=
  match dhDuoLookupPairLocked s pairId with
  | none => some (s, some .enoent)
  | some i =>
      let p := s.duo.pairs i
      if !p.active then some (s, some .enoent)
      else
        match dhLookupNodeLocked s p.a, dhLookupNodeLocked s p.b with
        | some na, some nb => do
            let valuePpm := dhClampU32 valuePpm 0 1000000
            let p ← checkedPulsedPair p (s.nodes na) (s.nodes nb) valuePpm
            let first ← checkedPulsedNode (s.nodes na) p.energyPpm
            let s := s.setNode na first
            let second ← checkedPulsedNode (s.nodes nb) p.energyPpm
            let s := s.setNode nb second
            let s := dhDuoEmitHooksLocked (s.setPair i p) (duoHookCtx p)
            pure (dhEmitEventLocked s
              (field "duo_pulse pair=" p.pairId.toNat ++ field " value=" p.lastValuePpm.toNat ++
                field " energy=" p.energyPpm.toNat ++ field " pressure=" p.pressurePpm.toNat), none)
        | _, _ => some (s, some .enoent)

theorem hweight64_le (mask : UInt64) : (hweight64 mask).toNat ≤ 64 := by
  rw [hweight64_toNat]
  simpa using Finset.card_filter_le Finset.univ fun j : Fin 64 => bit mask j = true

/-- A node after its turn of the tick. -/
def tickedNode (n : Node) : Node :=
  let n := { n with
    energyPpm := dhClampU32 (n.energyPpm + 1000 + hweight64 n.linksMask * 5000) 10000 1000000 }
  if n.healthPpm > 250000 then { n with healthPpm := n.healthPpm - 250 } else n

theorem ratio_ticked (n : Node) (ratio : RatioNode n) :
    checkedTickedNode n = some (tickedNode n) ∧ RatioNode (tickedNode n) := by
  have energy := ratio.energy
  have health := ratio.health
  obtain ⟨factorRuns, factorBelow⟩ := mul32_within (hweight64 n.linksMask) 5000 64 5000
    (hweight64_le n.linksMask) (by decide) (by omega)
  obtain ⟨firstRuns, firstBelow⟩ := add32_within n.energyPpm 1000 1000000 1000 energy (by decide)
    (by omega)
  obtain ⟨sumRuns, _⟩ := add32_within _ _ 1001000 320000 firstBelow factorBelow (by omega)
  have clamped : (dhClampU32 (n.energyPpm + 1000 + hweight64 n.linksMask * 5000) 10000
      1000000).toNat ≤ 1000000 := clampU32_le _ 10000 1000000 (by decide)
  unfold checkedTickedNode tickedNode
  simp only [Option.bind_eq_bind]
  rw [factorRuns, Option.bind_some, firstRuns, Option.bind_some, sumRuns, Option.bind_some]
  by_cases worn : n.healthPpm > 250000
  · have enough : (250 : UInt32).toNat ≤ n.healthPpm.toNat := by
      have above := UInt32.lt_iff_toNat_lt.mp worn
      simp at above ⊢
      omega
    obtain ⟨healthRuns, healthBelow⟩ := sub32_within n.healthPpm 250 1000000 health enough
    rw [if_pos worn, if_pos worn, healthRuns, Option.bind_some]
    exact ⟨rfl, clamped, healthBelow⟩
  · rw [if_neg worn, if_neg worn]
    exact ⟨rfl, clamped, health⟩

def RatioNodes (s : State) : Prop := ∀ k, k < dawnhexMaxNodes → RatioNode (s.nodes k)

theorem ratio_set (s : State) (i : Nat) (n : Node) (nodes : RatioNodes s) (ratio : RatioNode n) :
    RatioNodes (s.setNode i n) := by
  intro k inside
  by_cases here : k = i
  · simpa [here] using ratio
  · simpa [here] using nodes k inside

theorem ratio_tick_node (s : State) (i : Nat) (inside : i < dawnhexMaxNodes)
    (nodes : RatioNodes s) :
    checkedTickNode s i = some (tickNode s i) ∧ RatioNodes (tickNode s i) := by
  obtain ⟨runs, ratio⟩ := ratio_ticked (s.nodes i) (nodes i inside)
  have walked : tickNode s i =
      if !(s.nodes i).present || !(s.nodes i).online then s
      else dhEmitEventLocked (s.setNode i (tickedNode (s.nodes i)))
        (field "tick id=" (tickedNode (s.nodes i)).id.toNat ++
          field " energy=" (tickedNode (s.nodes i)).energyPpm.toNat ++
          field " health=" (tickedNode (s.nodes i)).healthPpm.toNat ++
          field " links=" (hweight64 (tickedNode (s.nodes i)).linksMask).toNat) := rfl
  rw [walked]
  unfold checkedTickNode
  by_cases idle : !(s.nodes i).present || !(s.nodes i).online
  · rw [if_pos idle, if_pos idle]
    exact ⟨rfl, nodes⟩
  · rw [if_neg idle, if_neg idle]
    simp only [Option.bind_eq_bind]
    rw [runs, Option.bind_some]
    exact ⟨rfl, ratio_set s i _ nodes ratio⟩

theorem ratio_tick (s : State) (nodes : RatioNodes s) :
    checkedTickOnceLocked s = some (dhTickOnceLocked s) ∧ RatioNodes (dhTickOnceLocked s) := by
  have turns := foldlM_checked checkedTickNode tickNode (fun _ t => RatioNodes t) dawnhexMaxNodes
    (List.range dawnhexMaxNodes) 0 s.bumpGeneration (by simp) nodes
    fun _ t i member _ ratio => ratio_tick_node t i (List.mem_range.mp member) ratio
  exact turns

/-- A pulse of bounded nodes runs without a wrap and leaves bounded values. -/
theorem ratio_pulsed_pair (p : DuoPair) (na nb : Node) (valuePpm : UInt32) (left : RatioNode na)
    (right : RatioNode nb) (value : valuePpm.toNat ≤ 1000000) :
    checkedPulsedPair p na nb valuePpm = some (pulsedPair p na nb valuePpm) ∧
      BoundedPair (pulsedPair p na nb valuePpm) := by
  obtain ⟨energyRuns, energyBelow⟩ := add32_within na.energyPpm nb.energyPpm 1000000 1000000
    left.energy right.energy (by omega)
  obtain ⟨healthRuns, healthBelow⟩ := add32_within na.healthPpm nb.healthPpm 1000000 1000000
    left.health right.health (by omega)
  obtain ⟨inflowRuns, _⟩ := add32_within ((na.energyPpm + nb.energyPpm) / 2) valuePpm 1000000
    1000000 (by simp at energyBelow ⊢; omega) value (by omega)
  obtain ⟨restRuns, restBelow⟩ := sub32_within 1000000 valuePpm 1000000 (by decide)
    (by simpa using value)
  obtain ⟨outflowRuns, _⟩ := add32_within ((na.healthPpm + nb.healthPpm) / 2)
    (1000000 - valuePpm) 1000000 1000000 (by simp at healthBelow ⊢; omega) restBelow (by omega)
  have bounded : BoundedPair (pulsedPair p na nb valuePpm) :=
    { energy := clampU32_le _ 0 1000000 (by decide)
      pressure := clampU32_le _ 0 1000000 (by decide)
      lastValue := value }
  refine ⟨?_, bounded⟩
  unfold checkedPulsedPair
  simp only [Option.bind_eq_bind]
  rw [energyRuns, Option.bind_some, healthRuns, Option.bind_some, inflowRuns, Option.bind_some,
    restRuns, Option.bind_some, outflowRuns, Option.bind_some]
  exact checkedRecompute_runs _ ⟨bounded.energy, bounded.pressure⟩

theorem ratio_pulsed_node (n : Node) (pairEnergyPpm : UInt32) (ratio : RatioNode n)
    (small : pairEnergyPpm.toNat ≤ 1000000) :
    checkedPulsedNode n pairEnergyPpm = some (pulsedNode n pairEnergyPpm) ∧
      RatioNode (pulsedNode n pairEnergyPpm) := by
  obtain ⟨sumRuns, _⟩ := add32_within n.energyPpm pairEnergyPpm 1000000 1000000 ratio.energy small
    (by omega)
  refine ⟨?_, clampU32_le _ 0 1000000 (by decide), ratio.health⟩
  unfold checkedPulsedNode
  simp only [Option.bind_eq_bind]
  rw [sumRuns, Option.bind_some]
  rfl

theorem lookup_inside (s : State) (id : UInt32) (i : Nat)
    (found : dhLookupNodeLocked s id = some i) : i < dawnhexMaxNodes := by
  obtain ⟨rfl, inside, _⟩ := (lookup_some s id i).mp found
  exact inside

theorem ratio_pulse (s : State) (pairId value : UInt32) (nodes : RatioNodes s) :
    checkedDuoPulseLocked s pairId value = some (dhDuoPulseLocked s pairId value) ∧
      RatioNodes (dhDuoPulseLocked s pairId value).1 := by
  unfold checkedDuoPulseLocked dhDuoPulseLocked
  cases found : dhDuoLookupPairLocked s pairId with
  | none => exact ⟨rfl, nodes⟩
  | some i =>
      by_cases dead : !(s.duo.pairs i).active
      · simp only [dead, ↓reduceIte]
        exact ⟨trivial, nodes⟩
      · simp only [dead]
        cases foundA : dhLookupNodeLocked s (s.duo.pairs i).a with
        | none => exact ⟨rfl, nodes⟩
        | some na =>
            cases foundB : dhLookupNodeLocked s (s.duo.pairs i).b with
            | none => exact ⟨rfl, nodes⟩
            | some nb =>
                have clamped : (dhClampU32 value 0 1000000).toNat ≤ 1000000 :=
                  clampU32_le value 0 1000000 (by decide)
                obtain ⟨pairRuns, bounded⟩ := ratio_pulsed_pair (s.duo.pairs i) (s.nodes na)
                  (s.nodes nb) (dhClampU32 value 0 1000000) (nodes na (lookup_inside s _ na foundA))
                  (nodes nb (lookup_inside s _ nb foundB)) clamped
                obtain ⟨firstRuns, first⟩ := ratio_pulsed_node (s.nodes na) _
                  (nodes na (lookup_inside s _ na foundA)) bounded.energy
                have between := ratio_set s na _ nodes first
                -- The second endpoint is read after the first one is written.
                obtain ⟨secondRuns, second⟩ := ratio_pulsed_node
                  ((s.setNode na (pulsedNode (s.nodes na) _)).nodes nb) _
                  (between nb (lookup_inside s _ nb foundB)) bounded.energy
                simp only [Option.bind_eq_bind]
                rw [pairRuns, Option.bind_some, firstRuns, Option.bind_some, secondRuns,
                  Option.bind_some]
                exact ⟨rfl, ratio_set _ nb _ between second⟩

theorem ratio_set_field (s : State) (id : UInt32) (change : Node → Node)
    (message : Node → List UInt8) (keeps : ∀ n, RatioNode n → RatioNode (change n))
    (nodes : RatioNodes s) : RatioNodes (setNodeField s id change message).1 := by
  unfold setNodeField
  cases found : dhLookupNodeLocked s id with
  | none => exact nodes
  | some i => exact ratio_set s i _ nodes (keeps _ (nodes i (lookup_inside s id i found)))

theorem ratio_add (s : State) (id : UInt32) (name : List UInt8) (nodes : RatioNodes s) :
    RatioNodes (dhAddNodeLocked s id name).1 := by
  rcases add_node_cases s id name with ⟨_, failed⟩ | ⟨_, _, _, _, after⟩
  · rwa [failed]
  · intro k inside
    rw [after]
    exact ratio_set s id.toNat _ nodes ⟨by simp, by simp⟩ k inside

theorem ratio_del (s : State) (id : UInt32) (nodes : RatioNodes s) :
    RatioNodes (dhDelNodeLocked s id).1 := by
  rcases del_node_cases s id with ⟨_, failed⟩ | ⟨_, _, _, _, after⟩
  · rwa [failed]
  · intro k inside
    rw [after k inside]
    split
    · exact ⟨by decide, by decide⟩
    · exact ⟨(nodes k inside).energy, (nodes k inside).health⟩

theorem ratio_link (s : State) (a b : UInt32) (enable : Bool) (nodes : RatioNodes s) :
    RatioNodes (dhLinkLocked s a b enable).1 := by
  rcases link_cases s a b enable with failed | ⟨_, _, _, _, after⟩
  · rwa [failed]
  · intro k inside
    rw [after]
    dsimp only
    split
    · exact ⟨(nodes k inside).energy, (nodes k inside).health⟩
    · split
      · exact ⟨(nodes k inside).energy, (nodes k inside).health⟩
      · exact nodes k inside

theorem ratio_step (s : State) (command : Command) (nodes : RatioNodes s) :
    RatioNodes (step s command) := by
  cases command with
  | add id name => exact ratio_add s id name nodes
  | del id => exact ratio_del s id nodes
  | link a b => exact ratio_link s a b true nodes
  | unlink a b => exact ratio_link s a b false nodes
  | online id value =>
      exact ratio_set_field s id _ _ (fun _ ratio => ⟨ratio.energy, ratio.health⟩) nodes
  | energy id value =>
      exact ratio_set_field s id _ _
        (fun _ ratio => ⟨clampU32_le value 0 1000000 (by decide), ratio.health⟩) nodes
  | health id value =>
      exact ratio_set_field s id _ _
        (fun _ ratio => ⟨ratio.energy, clampU32_le value 0 1000000 (by decide)⟩) nodes
  | tick =>
      rw [step_tick]
      exact (ratio_tick s nodes).2
  | duoAdd a b mode =>
      rw [step_duo_add]
      rcases duo_add_cases s a b mode with ⟨_, failed⟩ | ⟨_, _, _, _, _, same, _⟩
      · rwa [failed]
      · intro k inside
        rw [same]
        exact nodes k inside
  | duoDel pairId =>
      rcases duo_del_cases s pairId with ⟨_, failed⟩ | ⟨_, _, same, _⟩
      · intro k inside
        rw [step, execute, failed]
        exact nodes k inside
      · intro k inside
        rw [step, execute, same]
        exact nodes k inside
  | duoPulse pairId value => exact (ratio_pulse s pairId value nodes).2
  | interactive | tickMs | snapshot | help | duoSnapshot => exact nodes

theorem ratio_fresh (pairId a b mode : UInt32) : RatioPair (freshPair pairId a b mode) where
  energy := by simp [freshPair]
  pressure := by simp [freshPair]

theorem bounded_fresh (pairId a b mode : UInt32) :
    BoundedPair (dhDuoRecomputeSimplexLocked (freshPair pairId a b mode)) where
  energy := (ratio_fresh pairId a b mode).energy
  pressure := (ratio_fresh pairId a b mode).pressure
  lastValue := Nat.zero_le _

theorem bounded_pairs_step (s : State) (command : Command) (nodes : RatioNodes s)
    (pairs : ∀ p ∈ livePairs s, BoundedPair p) :
    ∀ p ∈ livePairs (step s command), BoundedPair p := by
  apply live_pairs_step BoundedPair s command
  · intro pairId a b mode _
    exact bounded_fresh pairId a b mode
  · intro i value _ foundA foundB
    exact (ratio_pulsed_pair _ _ _ _ (nodes _ (lookup_inside s _ _ foundA))
      (nodes _ (lookup_inside s _ _ foundB)) (clampU32_le value 0 1000000 (by decide))).2
  · exact pairs

theorem bounded_registered : Bounded registered where
  nodes := fun _ _ => ⟨Nat.zero_le _, Nat.zero_le _⟩
  pairs := by simp [livePairs, registered]

theorem bounded_step (s : State) (command : Command) (bounded : Bounded s) :
    Bounded (step s command) where
  nodes := ratio_step s command bounded.nodes
  pairs := bounded_pairs_step s command bounded.nodes bounded.pairs

/-- In every reachable state all ratios are at most one million, and no
operation of a tick, of a pulse with any arguments, or of the ladder of a live
or a new pair wraps. -/
theorem reachable_bounded_no_wrap (s : State) (reachable : Reachable s) :
    (∀ k, k < dawnhexMaxNodes →
        (s.nodes k).energyPpm.toNat ≤ 1000000 ∧ (s.nodes k).healthPpm.toNat ≤ 1000000) ∧
      (∀ i, i < s.duo.pairCount.toNat →
        (s.duo.pairs i).energyPpm.toNat ≤ 1000000 ∧
          (s.duo.pairs i).pressurePpm.toNat ≤ 1000000 ∧
          (s.duo.pairs i).lastValuePpm.toNat ≤ 1000000) ∧
      (∀ pairId value,
        checkedDuoPulseLocked s pairId value = some (dhDuoPulseLocked s pairId value)) ∧
      checkedTickOnceLocked s = some (dhTickOnceLocked s) ∧
      (∀ i, i < s.duo.pairCount.toNat →
        checkedBaseRetained (s.duo.pairs i) =
            some (dhDuoBaseRetainedPpmLocked (s.duo.pairs i)) ∧
          checkedRecomputeSimplex (s.duo.pairs i) =
            some (dhDuoRecomputeSimplexLocked (s.duo.pairs i))) ∧
      (∀ pairId a b mode,
        checkedBaseRetained (freshPair pairId a b mode) =
            some (dhDuoBaseRetainedPpmLocked (freshPair pairId a b mode)) ∧
          checkedRecomputeSimplex (freshPair pairId a b mode) =
            some (dhDuoRecomputeSimplexLocked (freshPair pairId a b mode))) := by
  have bounded := reachable_invariant Bounded bounded_registered bounded_step s reachable
  have live : ∀ i, i < s.duo.pairCount.toNat → BoundedPair (s.duo.pairs i) := fun i inside =>
    bounded.pairs _ ((mem_live_pairs s _).mpr ⟨i, inside, rfl⟩)
  refine ⟨?_, ?_, ?_, ?_, ?_, ?_⟩
  · intro k inside
    exact ⟨(bounded.nodes k inside).energy, (bounded.nodes k inside).health⟩
  · intro i inside
    exact ⟨(live i inside).energy, (live i inside).pressure, (live i inside).lastValue⟩
  · intro pairId value
    exact (ratio_pulse s pairId value bounded.nodes).1
  · exact (ratio_tick s bounded.nodes).1
  · intro i inside
    have ratio := (live i inside).toRatioPair
    exact ⟨checkedBaseRetained_runs _ ratio, checkedRecompute_runs _ ratio⟩
  · intro pairId a b mode
    have ratio := ratio_fresh pairId a b mode
    exact ⟨checkedBaseRetained_runs _ ratio, checkedRecompute_runs _ ratio⟩

/-- A pulse with the largest argument, on the first pair a client creates. -/
def pulsedToTheTop : State := Trace.run step dawnhexInit [.duoAdd 0 1 3, .duoPulse 1 4294967295]

theorem no_wrap_after_pulse :
    (pulsedToTheTop.duo.pairs 0).lastValuePpm.toNat ≤ 1000000 ∧
      checkedTickOnceLocked pulsedToTheTop = some (dhTickOnceLocked pulsedToTheTop) := by
  have live : 0 < pulsedToTheTop.duo.pairCount.toNat := by decide +kernel
  have shown := reachable_bounded_no_wrap pulsedToTheTop ⟨_, rfl⟩
  exact ⟨(shown.2.1 0 live).2.2, shown.2.2.2.1⟩

end RyzenBuild.DawnHex
