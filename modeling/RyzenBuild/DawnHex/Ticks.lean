import RyzenBuild.Lib.Saturating
import RyzenBuild.DawnHex.Generation

/-!
What ticks alone make of the cluster. A tick moves the energy of an online node
up and its health down, each to a bound, and touches nothing else, so the node
table after any number of ticks has a closed form and comes to rest.
-/
namespace RyzenBuild.DawnHex

open Kernel Ladder Bitmask Saturating

def awake (s : State) (i : Nat) : Bool := (s.nodes i).present && (s.nodes i).online

def gain (n : Node) : Nat := 1000 + 5000 * (hweight64 n.linksMask).toNat

def tickLine (n : Node) : List UInt8 :=
  field "tick id=" n.id.toNat ++ field " energy=" n.energyPpm.toNat ++
    field " health=" n.healthPpm.toNat ++ field " links=" (hweight64 n.linksMask).toNat

theorem tick_node_walk (s : State) (i : Nat) :
    tickNode s i =
      if awake s i then
        dhEmitEventLocked (s.setNode i (tickedNode (s.nodes i))) (tickLine (tickedNode (s.nodes i)))
      else s := by
  have turn : tickNode s i =
      if !(s.nodes i).present || !(s.nodes i).online then s
      else dhEmitEventLocked (s.setNode i (tickedNode (s.nodes i)))
        (tickLine (tickedNode (s.nodes i))) := rfl
  rw [turn, awake]
  cases (s.nodes i).present <;> cases (s.nodes i).online <;> rfl

theorem ticked_frame (n : Node) :
    tickedNode n =
      { n with
        energyPpm := (tickedNode n).energyPpm
        healthPpm := (tickedNode n).healthPpm } := by
  by_cases worn : n.healthPpm > 250000 <;> simp [tickedNode, worn]

theorem ticked_energy (n : Node) (ratio : RatioNode n) :
    (tickedNode n).energyPpm.toNat = rise 10000 1000000 (gain n) n.energyPpm.toNat := by
  have energy := ratio.energy
  have links := hweight64_le n.linksMask
  have clamped : (tickedNode n).energyPpm =
      dhClampU32 (n.energyPpm + 1000 + hweight64 n.linksMask * 5000) 10000 1000000 := by
    by_cases worn : n.healthPpm > 250000 <;> simp [tickedNode, worn]
  have sum : (n.energyPpm + 1000 + hweight64 n.linksMask * 5000).toNat =
      n.energyPpm.toNat + gain n := by
    simp only [gain, UInt32.toNat_add, UInt32.toNat_mul, UInt32.reduceToNat]
    omega
  rw [clamped, dhClampU32, clampU32_toNat, sum, rise, FixedPoint.clamp]
  simp only [UInt32.reduceToNat]
  split
  · omega
  · split <;> omega

theorem ticked_health (n : Node) (ratio : RatioNode n) :
    (tickedNode n).healthPpm.toNat = drain 250000 250 n.healthPpm.toNat := by
  have health := ratio.health
  by_cases worn : n.healthPpm > 250000
  · have above : 250000 < n.healthPpm.toNat := UInt32.lt_iff_toNat_lt.mp worn
    have dropped : (tickedNode n).healthPpm = n.healthPpm - 250 := by simp [tickedNode, worn]
    have enough : (250 : UInt32) ≤ n.healthPpm := UInt32.le_iff_toNat_le.mpr (by
      simp only [UInt32.reduceToNat]
      omega)
    rw [dropped, UInt32.toNat_sub_of_le _ _ enough, drain, if_pos above]
    rfl
  · have below : ¬250000 < n.healthPpm.toNat := fun above => worn (UInt32.lt_iff_toNat_lt.mpr above)
    have kept : (tickedNode n).healthPpm = n.healthPpm := by simp [tickedNode, worn]
    rw [kept, drain, if_neg below]

section Walk

variable (s : State)

theorem tick_node_nodes (i k : Nat) :
    (tickNode s i).nodes k =
      if k = i ∧ awake s i = true then tickedNode (s.nodes k) else s.nodes k := by
  rw [tick_node_walk]
  cases here : awake s i with
  | true =>
      by_cases same : k = i
      · simp [same]
      · simp [same]
  | false => simp

/-- A turn at another slot does not change whether this one is awake. -/
theorem walk_nodes (slots : List Nat) (distinct : slots.Nodup) (k : Nat) :
    (slots.foldl tickNode s).nodes k =
      if k ∈ slots ∧ awake s k = true then tickedNode (s.nodes k) else s.nodes k := by
  induction slots generalizing s with
  | nil => simp
  | cons i rest ih =>
      obtain ⟨fresh, later⟩ := List.nodup_cons.mp distinct
      rw [List.foldl_cons, ih (tickNode s i) later, awake, tick_node_nodes]
      by_cases same : k = i
      · subst same
        simp [fresh]
      · simp [same, awake]

theorem tick_nodes (k : Nat) :
    (dhTickOnceLocked s).nodes k =
      if k < dawnhexMaxNodes ∧ awake s k = true then tickedNode (s.nodes k) else s.nodes k := by
  have walk : dhTickOnceLocked s =
      (List.range dawnhexMaxNodes).foldl tickNode s.bumpGeneration := rfl
  rw [walk, walk_nodes _ _ List.nodup_range]
  simp only [List.mem_range]
  rfl

theorem awake_tick (k : Nat) : awake (dhTickOnceLocked s) k = awake s k := by
  rw [awake, awake, tick_nodes]
  split
  · rw [ticked_frame (s.nodes k)]
  · rfl

end Walk

section Rounds

variable (s : State) (rounds : Nat)

def ticks : State := Trace.run step s (List.replicate rounds .tick)

theorem ticks_succ : ticks s (rounds + 1) = dhTickOnceLocked (ticks s rounds) := by
  rw [ticks, List.replicate_succ', Trace.run_append, Trace.run_cons, Trace.run_nil, step_tick]
  rfl

theorem awake_ticks (k : Nat) : awake (ticks s rounds) k = awake s k := by
  induction rounds with
  | zero => rfl
  | succ rounds ih => rw [ticks_succ, awake_tick, ih]

/-- A node sleeps through all ticks or takes part in each. -/
theorem ticks_nodes (k : Nat) :
    (ticks s rounds).nodes k =
      if k < dawnhexMaxNodes ∧ awake s k = true then tickedNode^[rounds] (s.nodes k)
      else s.nodes k := by
  induction rounds with
  | zero => simp [ticks]
  | succ rounds ih =>
      rw [ticks_succ, tick_nodes, awake_ticks, ih]
      by_cases here : k < dawnhexMaxNodes ∧ awake s k = true
      · rw [if_pos here, if_pos here, if_pos here, Function.iterate_succ_apply']
      · rw [if_neg here, if_neg here, if_neg here]

theorem ticks_duo : (ticks s rounds).duo = s.duo := by
  induction rounds with
  | zero => rfl
  | succ rounds ih => rw [ticks_succ, tick_duo, ih]

theorem ticks_generation :
    (ticks s rounds).generation = s.generation + UInt32.ofNat rounds := by
  induction rounds with
  | zero => simp [ticks]
  | succ rounds ih => rw [ticks_succ, tick_generation, ih, UInt32.ofNat_add, UInt32.add_assoc]; rfl

theorem tick_settings :
    (dhTickOnceLocked s).tickMs = s.tickMs ∧ (dhTickOnceLocked s).interactive = s.interactive := by
  apply Trace.run_invariant tickNode
    (fun t => t.tickMs = s.tickMs ∧ t.interactive = s.interactive)
  · intro t i same
    rw [tick_node_walk]
    split <;> exact same
  · exact ⟨rfl, rfl⟩

theorem ticks_settings :
    (ticks s rounds).tickMs = s.tickMs ∧ (ticks s rounds).interactive = s.interactive := by
  induction rounds with
  | zero => exact ⟨rfl, rfl⟩
  | succ rounds ih =>
      obtain ⟨period, enabled⟩ := tick_settings (ticks s rounds)
      rw [ticks_succ]
      exact ⟨period.trans ih.1, enabled.trans ih.2⟩

end Rounds

section Levels

/-- The energy of an online node after so many ticks. -/
def energyAfter (n : Node) (rounds : Nat) : Nat :=
  if rounds = 0 then n.energyPpm.toNat
  else min 1000000 (max 10000 (n.energyPpm.toNat + gain n) + (rounds - 1) * gain n)

def healthAfter (n : Node) (rounds : Nat) : Nat :=
  n.healthPpm.toNat - 250 * min rounds (drops 250000 250 n.healthPpm.toNat)

variable (n : Node) (rounds : Nat)

theorem ratio_iterate (ratio : RatioNode n) : RatioNode (tickedNode^[rounds] n) := by
  induction rounds with
  | zero => exact ratio
  | succ rounds ih =>
      rw [Function.iterate_succ_apply']
      exact (ratio_ticked _ ih).2

theorem iterate_frame :
    tickedNode^[rounds] n =
      { n with
        energyPpm := (tickedNode^[rounds] n).energyPpm
        healthPpm := (tickedNode^[rounds] n).healthPpm } := by
  induction rounds with
  | zero => rfl
  | succ rounds ih =>
      rw [Function.iterate_succ_apply', ticked_frame, ih]

theorem iterate_levels (ratio : RatioNode n) :
    (tickedNode^[rounds] n).energyPpm.toNat =
        (rise 10000 1000000 (gain n))^[rounds] n.energyPpm.toNat ∧
      (tickedNode^[rounds] n).healthPpm.toNat =
        (drain 250000 250)^[rounds] n.healthPpm.toNat := by
  induction rounds with
  | zero => exact ⟨rfl, rfl⟩
  | succ rounds ih =>
      have between := ratio_iterate n rounds ratio
      have same : gain (tickedNode^[rounds] n) = gain n := by
        rw [iterate_frame n rounds]
        rfl
      simp only [Function.iterate_succ_apply']
      rw [ticked_energy _ between, ticked_health _ between, same, ih.1, ih.2]
      exact ⟨rfl, rfl⟩

theorem iterate_after (ratio : RatioNode n) :
    tickedNode^[rounds] n =
      { n with
        energyPpm := UInt32.ofNat (energyAfter n rounds)
        healthPpm := UInt32.ofNat (healthAfter n rounds) } := by
  obtain ⟨energy, health⟩ := iterate_levels n rounds ratio
  have risen : (tickedNode^[rounds] n).energyPpm.toNat = energyAfter n rounds := by
    rw [energy, energyAfter]
    cases rounds with
    | zero => rfl
    | succ rounds => rw [rise_iterate]; rfl
  have drained : (tickedNode^[rounds] n).healthPpm.toNat = healthAfter n rounds := by
    rw [health, drain_iterate _ _ _ _ (by decide)]
    rfl
  rw [iterate_frame, ← risen, ← drained, UInt32.ofNat_toNat, UInt32.ofNat_toNat]

/-- From the three thousandth tick on a node is at rest. -/
theorem iterate_rests (ratio : RatioNode n) (enough : 3000 ≤ rounds) :
    tickedNode (tickedNode^[rounds] n) = tickedNode^[rounds] n := by
  rw [← Function.iterate_succ_apply' tickedNode, iterate_after n _ ratio, iterate_after n _ ratio]
  have health := ratio.health
  have settled : drops 250000 250 n.healthPpm.toNat ≤ 3000 := by
    rw [drops]
    omega
  have energy (k : Nat) (late : 3000 ≤ k) : energyAfter n k = 1000000 := by
    have speed : 1000 ≤ gain n := Nat.le_add_right _ _
    have climbed := Nat.mul_le_mul (show 2999 ≤ k - 1 by omega) speed
    rw [energyAfter, if_neg (by omega)]
    omega
  have drained (k : Nat) (late : 3000 ≤ k) :
      healthAfter n k = n.healthPpm.toNat - 250 * drops 250000 250 n.healthPpm.toNat := by
    rw [healthAfter, Nat.min_eq_right (settled.trans late)]
  rw [energy _ enough, energy _ (Nat.le_succ_of_le enough), drained _ enough,
    drained _ (Nat.le_succ_of_le enough)]

end Levels

/-- The state after so many ticks, field by field. -/
structure TickedFrom (s t : State) (rounds : Nat) : Prop where
  duo : t.duo = s.duo
  settings : t.tickMs = s.tickMs ∧ t.interactive = s.interactive
  generation : t.generation = s.generation + UInt32.ofNat rounds
  asleep : ∀ i, i < dawnhexMaxNodes → awake s i = false → t.nodes i = s.nodes i
  awake : ∀ i, i < dawnhexMaxNodes → awake s i = true → t.nodes i =
    { s.nodes i with
      energyPpm := UInt32.ofNat (energyAfter (s.nodes i) rounds)
      healthPpm := UInt32.ofNat (healthAfter (s.nodes i) rounds) }

/-- Ticks alone: the state after any number of them in closed form, and from the
three thousandth on another tick leaves the node table as it is. -/
theorem ticks_come_to_rest (s : State) (reachable : Reachable s) (rounds : Nat) :
    TickedFrom s (ticks s rounds) rounds ∧
      (3000 ≤ rounds →
        ∀ i, i < dawnhexMaxNodes → (ticks s (rounds + 1)).nodes i = (ticks s rounds).nodes i) := by
  have ratio := (reachable_invariant Bounded bounded_registered bounded_step s reachable).nodes
  constructor
  · constructor
    · exact ticks_duo s rounds
    · exact ticks_settings s rounds
    · exact ticks_generation s rounds
    · intro i inside asleep
      rw [ticks_nodes, if_neg]
      rintro ⟨_, here⟩
      rw [asleep] at here
      cases here
    · intro i inside here
      rw [ticks_nodes, if_pos ⟨inside, here⟩, iterate_after _ _ (ratio i inside)]
  · intro enough i inside
    rw [ticks_nodes, ticks_nodes]
    split
    · rw [Function.iterate_succ_apply', iterate_rests _ _ (ratio i inside) enough]
    · rfl

theorem core_at_rest :
    (ticks dawnhexInit 4000).nodes 0 = ⟨0, text "core", true, true, 1000000, 250000, 6⟩ := by
  have rested := (ticks_come_to_rest dawnhexInit ⟨[], rfl⟩ 4000).1.awake 0 (by decide)
    (by decide +kernel)
  rw [rested]
  decide +kernel

end RyzenBuild.DawnHex
