import RyzenBuild.DawnHex.Bounds

/-!
`generation` as a change counter of the node table, and what two
`GET_CLUSTER` results of equal generation say about each other. Every writer
of the table advances the counter but the pulse, which feeds energy back into
both endpoints and leaves the counter alone.
-/
namespace RyzenBuild.DawnHex

open Kernel Ladder Memory

structure NodeUapi where
  id : UInt32
  name : List UInt8
  present : UInt32
  online : UInt32
  energyPpm : UInt32
  healthPpm : UInt32
  linksMask : UInt64
  deriving DecidableEq, Repr

structure ClusterUapi where
  nodeCount : UInt32
  linkCount : UInt32
  generation : UInt32
  interactive : UInt32
  tickMs : UInt32
  nodes : List NodeUapi
  deriving DecidableEq, Repr

def nodeUapi (n : Node) : NodeUapi :=
  { id := n.id
    name := strscpy dawnhexNameLen n.name
    present := if n.present then 1 else 0
    online := if n.online then 1 else 0
    energyPpm := n.energyPpm
    healthPpm := n.healthPpm
    linksMask := n.linksMask }

/-- What `DAWNHEX_IOC_GET_CLUSTER` copies out. -/
def getCluster (s : State) : ClusterUapi :=
  { nodeCount := dhCountNodesLocked s
    linkCount := dhCountLinksLocked s
    generation := s.generation
    interactive := if s.interactive then 1 else 0
    tickMs := s.tickMs
    nodes := (List.range dawnhexMaxNodes).map fun i => nodeUapi (s.nodes i) }

def SameNodes (s s' : State) : Prop := ∀ k, k < dawnhexMaxNodes → s'.nodes k = s.nodes k

/-- A step that changes the node table advances the counter by one. -/
def Counted (s : State) (command : Command) : Prop :=
  ¬ SameNodes s (step s command) → (step s command).generation = s.generation + 1

/-- The energy a pulse gives a pair, from the energies of its endpoints. -/
def pairEnergy (first second value : Nat) : Nat :=
  ((first + second) / 2 + min value 1000000) / 2

/-- The pulse leaves an endpoint of this energy as it is. -/
def Settled (energy pairEnergy : Nat) : Prop := pairEnergy = energy ∨ pairEnergy = energy + 1

/-- A pulse of this pair finds no pair with two present endpoints, or moves
the energy of neither. -/
def PulseSettles (s : State) (pairId value : UInt32) : Prop :=
  ∀ i, dhDuoLookupPairLocked s pairId = some i →
    ∀ na nb, dhLookupNodeLocked s (s.duo.pairs i).a = some na →
      dhLookupNodeLocked s (s.duo.pairs i).b = some nb →
      Settled (s.nodes na).energyPpm.toNat
          (pairEnergy (s.nodes na).energyPpm.toNat (s.nodes nb).energyPpm.toNat value.toNat) ∧
        Settled (s.nodes nb).energyPpm.toNat
          (pairEnergy (s.nodes na).energyPpm.toNat (s.nodes nb).energyPpm.toNat value.toNat)

/-- The step is not a pulse that moves the energy of an endpoint. -/
def SettledPulse (s : State) (command : Command) : Prop :=
  ∀ pairId value, command = .duoPulse pairId value → PulseSettles s pairId value

/-- The steps of a run that advance the counter. -/
def advances (s : State) : List Command → Nat
  | [] => 0
  | command :: rest =>
      (if (step s command).generation = s.generation then 0 else 1) +
        advances (step s command) rest

/-- A step either leaves table and counter alone or advances the counter. -/
def Advancing (s s' : State) : Prop :=
  SameNodes s s' ∧ s'.generation = s.generation ∨ s'.generation = s.generation + 1

theorem add_advancing (s : State) (id : UInt32) (name : List UInt8) :
    Advancing s (dhAddNodeLocked s id name).1 := by
  unfold dhAddNodeLocked
  split
  · exact Or.inl ⟨fun _ _ => rfl, rfl⟩
  · split
    · exact Or.inl ⟨fun _ _ => rfl, rfl⟩
    · exact Or.inr rfl

theorem del_advancing (s : State) (id : UInt32) : Advancing s (dhDelNodeLocked s id).1 := by
  unfold dhDelNodeLocked
  split
  · exact Or.inl ⟨fun _ _ => rfl, rfl⟩
  · split
    · exact Or.inl ⟨fun _ _ => rfl, rfl⟩
    · exact Or.inr rfl

theorem link_advancing (s : State) (a b : UInt32) (enable : Bool) :
    Advancing s (dhLinkLocked s a b enable).1 := by
  unfold dhLinkLocked
  split
  · exact Or.inl ⟨fun _ _ => rfl, rfl⟩
  · split
    · exact Or.inr rfl
    · exact Or.inl ⟨fun _ _ => rfl, rfl⟩

theorem set_field_advancing (s : State) (id : UInt32) (change : Node → Node)
    (message : Node → List UInt8) : Advancing s (setNodeField s id change message).1 := by
  unfold setNodeField
  split
  · exact Or.inl ⟨fun _ _ => rfl, rfl⟩
  · exact Or.inr rfl

theorem tick_node_generation (s : State) (i : Nat) :
    (tickNode s i).generation = s.generation := by
  unfold tickNode
  dsimp only
  split <;> rfl

theorem tick_generation (s : State) : (dhTickOnceLocked s).generation = s.generation + 1 := by
  -- The counter is advanced once, before the walk.
  apply Trace.run_invariant tickNode (fun t => t.generation = s.generation + 1)
  · intro t i same
    exact (tick_node_generation t i).trans same
  · rfl

theorem duo_add_advancing (s : State) (a b mode : UInt32) :
    Advancing s (dhDuoAddPairLocked s a b mode).1 := by
  unfold dhDuoAddPairLocked
  split
  · exact Or.inl ⟨fun _ _ => rfl, rfl⟩
  · split
    · exact Or.inl ⟨fun _ _ => rfl, rfl⟩
    · split <;> exact Or.inl ⟨fun _ _ => rfl, rfl⟩

theorem duo_del_advancing (s : State) (pairId : UInt32) :
    Advancing s (dhDuoDelPairLocked s pairId).1 := by
  unfold dhDuoDelPairLocked
  split <;> exact Or.inl ⟨fun _ _ => rfl, rfl⟩

/-- Every operation but the pulse obeys the law in every state. -/
theorem step_advancing (s : State) (command : Command)
    (other : ∀ pairId value, command ≠ .duoPulse pairId value) :
    Advancing s (step s command) := by
  cases command with
  | add id name => exact add_advancing s id name
  | del id => exact del_advancing s id
  | link a b => exact link_advancing s a b true
  | unlink a b => exact link_advancing s a b false
  | online id value => exact set_field_advancing s id _ _
  | energy id value => exact set_field_advancing s id _ _
  | health id value => exact set_field_advancing s id _ _
  | tick =>
      rw [step_tick]
      exact Or.inr (tick_generation s)
  | duoAdd a b mode =>
      rw [step_duo_add]
      exact duo_add_advancing s a b mode
  | duoDel pairId => exact duo_del_advancing s pairId
  | duoPulse pairId value => exact absurd rfl (other pairId value)
  | interactive | tickMs | snapshot | help | duoSnapshot => exact Or.inl ⟨fun _ _ => rfl, rfl⟩

theorem pulse_generation (s : State) (pairId value : UInt32) :
    (dhDuoPulseLocked s pairId value).1.generation = s.generation := by
  unfold dhDuoPulseLocked
  split
  · rfl
  · dsimp only
    split
    · rfl
    · split <;> rfl

theorem succ_ne (generation : UInt32) : generation + 1 ≠ generation := by
  intro same
  have wrapped := congrArg UInt32.toNat same
  have limit := generation.toNat_lt
  rw [UInt32.toNat_add] at wrapped
  simp at wrapped
  omega

/-- A pair as an add leaves it and as pulses keep it. -/
structure Joined (p : DuoPair) : Prop where
  distinct : p.a ≠ p.b
  active : p.active = true

theorem reachable_joined (s : State) (reachable : Reachable s) :
    ∀ p ∈ livePairs s, Joined p := by
  apply reachable_invariant (fun s => ∀ p ∈ livePairs s, Joined p) ?_ ?_ s reachable
  · simp [livePairs, registered]
  · intro s command holds
    apply live_pairs_step Joined s command
    · intro pairId a b mode apart
      exact ⟨apart, rfl⟩
    · intro i value live _ _
      exact ⟨(holds _ live).distinct, (holds _ live).active⟩
    · exact holds

theorem clamp_min (value : UInt32) :
    (dhClampU32 value 0 1000000).toNat = min value.toNat 1000000 := by
  simp only [dhClampU32, clampU32_toNat, FixedPoint.clamp, UInt32.reduceToNat]
  split
  · omega
  · split <;> omega

/-- With ratios at the endpoints the pulse computes the energy in unbounded integers. -/
theorem pulsed_energy (p : DuoPair) (na nb : Node) (value : UInt32) (left : RatioNode na)
    (right : RatioNode nb) :
    (pulsedPair p na nb (dhClampU32 value 0 1000000)).energyPpm.toNat =
      pairEnergy na.energyPpm.toNat nb.energyPpm.toNat value.toNat := by
  have first := left.energy
  have second := right.energy
  change (dhClampU32 (((na.energyPpm + nb.energyPpm) / 2 + dhClampU32 value 0 1000000) / 2) 0
    1000000).toNat = _
  rw [clamp_min, UInt32.toNat_div, UInt32.toNat_add, UInt32.toNat_div, UInt32.toNat_add, clamp_min,
    pairEnergy]
  simp only [UInt32.reduceToNat]
  omega

theorem pulsed_node_settled (n : Node) (energy : UInt32) (ratio : RatioNode n)
    (small : energy.toNat ≤ 1000000) :
    pulsedNode n energy = n ↔ Settled n.energyPpm.toNat energy.toNat := by
  have own := ratio.energy
  have value : (pulsedNode n energy).energyPpm.toNat =
      (n.energyPpm.toNat + energy.toNat) / 2 := by
    rw [pulsedNode, clamp_min, UInt32.toNat_div, UInt32.toNat_add]
    simp only [UInt32.reduceToNat]
    omega
  constructor
  · intro same
    rw [same] at value
    unfold Settled
    omega
  · intro settled
    have kept : (pulsedNode n energy).energyPpm = n.energyPpm := by
      apply UInt32.toNat_inj.mp
      rw [value]
      unfold Settled at settled
      omega
    cases n
    simp only [pulsedNode, Node.mk.injEq, true_and, and_true] at kept ⊢
    exact kept

/-- The table after a pulse that finds its pair and both endpoints. -/
theorem pulse_same (s : State) (pairId value : UInt32) (i na nb : Nat)
    (found : dhDuoLookupPairLocked s pairId = some i) (active : (s.duo.pairs i).active = true)
    (foundA : dhLookupNodeLocked s (s.duo.pairs i).a = some na)
    (foundB : dhLookupNodeLocked s (s.duo.pairs i).b = some nb) (apart : nb ≠ na)
    (energy : UInt32) (computed : energy =
      (pulsedPair (s.duo.pairs i) (s.nodes na) (s.nodes nb)
        (dhClampU32 value 0 1000000)).energyPpm) :
    SameNodes s (dhDuoPulseLocked s pairId value).1 ↔
      pulsedNode (s.nodes na) energy = s.nodes na ∧
        pulsedNode (s.nodes nb) energy = s.nodes nb := by
  have after : ∀ k, (dhDuoPulseLocked s pairId value).1.nodes k =
      if k = nb then pulsedNode (s.nodes nb) energy
      else if k = na then pulsedNode (s.nodes na) energy else s.nodes k := by
    intro k
    simp [dhDuoPulseLocked, found, active, foundA, foundB, apart, computed]
  constructor
  · intro same
    constructor
    · have kept := same na (lookup_inside s _ na foundA)
      rw [after] at kept
      simpa [Ne.symm apart] using kept
    · have kept := same nb (lookup_inside s _ nb foundB)
      rw [after] at kept
      simpa using kept
  · rintro ⟨first, second⟩ k _
    rw [after]
    by_cases atB : k = nb
    · rw [if_pos atB, second, atB]
    · by_cases atA : k = na
      · rw [if_neg atB, if_pos atA, first, atA]
      · rw [if_neg atB, if_neg atA]

/-- The pulse leaves the node table alone exactly when both endpoints are settled. -/
theorem pulse_same_iff (s : State) (pairId value : UInt32) (nodes : RatioNodes s)
    (joined : ∀ p ∈ livePairs s, Joined p) :
    SameNodes s (dhDuoPulseLocked s pairId value).1 ↔ PulseSettles s pairId value := by
  cases found : dhDuoLookupPairLocked s pairId with
  | none =>
      have still : (dhDuoPulseLocked s pairId value).1 = s := by simp [dhDuoPulseLocked, found]
      simp [still, SameNodes, PulseSettles, found]
  | some i =>
      have live := (mem_live_pairs s _).mpr ⟨i, (pair_lookup_some s pairId i found).1, rfl⟩
      obtain ⟨distinct, active⟩ := joined _ live
      cases foundA : dhLookupNodeLocked s (s.duo.pairs i).a with
      | none =>
          have still : (dhDuoPulseLocked s pairId value).1 = s := by
            simp [dhDuoPulseLocked, found, foundA]
          simp [still, SameNodes, PulseSettles, found, foundA]
      | some na =>
          cases foundB : dhLookupNodeLocked s (s.duo.pairs i).b with
          | none =>
              have still : (dhDuoPulseLocked s pairId value).1 = s := by
                simp [dhDuoPulseLocked, found, foundA, foundB]
              simp [still, SameNodes, PulseSettles, found, foundA, foundB]
          | some nb =>
              have apart : nb ≠ na := by
                rintro rfl
                have left := ((lookup_some s _ nb).mp foundA).1
                have right := ((lookup_some s _ nb).mp foundB).1
                exact distinct (UInt32.toNat_inj.mp (left.symm.trans right))
              have left := nodes na (lookup_inside s _ na foundA)
              have right := nodes nb (lookup_inside s _ nb foundB)
              have energy := pulsed_energy (s.duo.pairs i) (s.nodes na) (s.nodes nb) value left
                right
              have bounded := (ratio_pulsed_pair (s.duo.pairs i) (s.nodes na) (s.nodes nb)
                (dhClampU32 value 0 1000000) left right (clampU32_le value 0 1000000 (by decide))).2
              rw [pulse_same s pairId value i na nb found active foundA foundB apart _ rfl,
                pulsed_node_settled _ _ left bounded.energy,
                pulsed_node_settled _ _ right bounded.energy, energy]
              simp [PulseSettles, found, foundA, foundB]

theorem reachable_step (s : State) (command : Command) (reachable : Reachable s) :
    Reachable (step s command) := by
  obtain ⟨commands, rfl⟩ := reachable
  exact ⟨commands ++ [command], Trace.run_append step dawnhexInit commands [command]⟩

theorem reachable_pulse_iff (s : State) (reachable : Reachable s) (pairId value : UInt32) :
    SameNodes s (dhDuoPulseLocked s pairId value).1 ↔ PulseSettles s pairId value := by
  have bounded := reachable_invariant Bounded bounded_registered bounded_step s reachable
  exact pulse_same_iff s pairId value bounded.nodes (reachable_joined s reachable)

/-- A settled step keeps table and counter in step. -/
theorem settled_advancing (s : State) (reachable : Reachable s) (command : Command)
    (settled : SettledPulse s command) : Advancing s (step s command) := by
  by_cases pulse : ∃ pairId value, command = .duoPulse pairId value
  · obtain ⟨pairId, value, rfl⟩ := pulse
    have same := (reachable_pulse_iff s reachable pairId value).mpr (settled pairId value rfl)
    exact Or.inl ⟨same, pulse_generation s pairId value⟩
  · apply step_advancing
    intro pairId value here
    exact pulse ⟨pairId, value, here⟩

theorem counted_iff (s : State) (reachable : Reachable s) (command : Command) :
    Counted s command ↔ SettledPulse s command := by
  constructor
  · rintro counted pairId value rfl
    apply (reachable_pulse_iff s reachable pairId value).mp
    by_contra changed
    have advanced := counted changed
    rw [step, execute, pulse_generation] at advanced
    exact succ_ne s.generation advanced.symm
  · intro settled changed
    rcases settled_advancing s reachable command settled with ⟨same, _⟩ | advanced
    · exact absurd same changed
    · exact advanced

theorem advancing_counts (s : State) (command : Command) (rest : List Command)
    (advancing : Advancing s (step s command)) :
    (s.generation.toNat + advances s (command :: rest)) % 2 ^ 32 =
        ((step s command).generation.toNat + advances (step s command) rest) % 2 ^ 32 ∧
      (advances s (command :: rest) = 0 →
        SameNodes s (step s command) ∧ advances (step s command) rest = 0) := by
  rcases advancing with ⟨same, still⟩ | advanced
  · simp [advances, still, same]
  · have moved : (step s command).generation ≠ s.generation := by
      rw [advanced]
      exact succ_ne s.generation
    constructor
    · rw [advances, if_neg moved, advanced, UInt32.toNat_add]
      simp only [UInt32.reduceToNat]
      omega
    · intro none
      simp [advances, moved] at none

theorem settled_run (s : State) (reachable : Reachable s) (commands : List Command)
    (settled : Trace.Steps step SettledPulse s commands) :
    (Trace.run step s commands).generation.toNat =
        (s.generation.toNat + advances s commands) % 2 ^ 32 ∧
      (advances s commands = 0 → SameNodes s (Trace.run step s commands)) := by
  induction commands generalizing s with
  | nil =>
      have limit := s.generation.toNat_lt
      refine ⟨?_, fun _ _ _ => rfl⟩
      simp only [Trace.run_nil, advances]
      omega
  | cons command rest ih =>
      obtain ⟨count, kept⟩ := ih (step s command) (reachable_step s command reachable) settled.2
      obtain ⟨shift, quiet⟩ := advancing_counts s command rest
        (settled_advancing s reachable command settled.1)
      constructor
      · rw [Trace.run_cons, count, shift]
      · intro none k inside
        obtain ⟨same, later⟩ := quiet none
        rw [Trace.run_cons, kept later k inside, same k inside]

/-- In a reachable state an operation obeys the change law exactly when it is
not a pulse that moves the energy of an endpoint; and after any run of such
operations that advances the counter fewer than 2^32 times, equal generations
in two `GET_CLUSTER` results mean identical node tables. -/
theorem generation_counts_changes_iff (s : State) (reachable : Reachable s) :
    (∀ command, Counted s command ↔ SettledPulse s command) ∧
      ∀ commands, Trace.Steps step SettledPulse s commands → advances s commands < 2 ^ 32 →
        (getCluster (Trace.run step s commands)).generation = (getCluster s).generation →
        (getCluster (Trace.run step s commands)).nodes = (getCluster s).nodes := by
  refine ⟨counted_iff s reachable, ?_⟩
  intro commands settled few equal
  obtain ⟨count, kept⟩ := settled_run s reachable commands settled
  have limit := s.generation.toNat_lt
  have none : advances s commands = 0 := by
    have same := congrArg UInt32.toNat equal
    simp only [getCluster] at same
    omega
  simp only [getCluster]
  apply List.map_congr_left
  intro k member
  rw [kept none k (List.mem_range.mp member)]

/-- The first two nodes, joined by a pair. -/
def joinedPair : State := Trace.run step dawnhexInit [.duoAdd 0 1 1]

theorem generation_counts_energy_command :
    Counted joinedPair (.energy 0 1) ∧
      (getCluster (Trace.run step joinedPair [.duoSnapshot])).nodes =
        (getCluster joinedPair).nodes := by
  have counted := generation_counts_changes_iff joinedPair ⟨[.duoAdd 0 1 1], rfl⟩
  constructor
  · apply (counted.1 (.energy 0 1)).mpr
    intro pairId value here
    cases here
  · apply counted.2 [.duoSnapshot]
    · exact ⟨fun pairId value here => (by cases here), trivial⟩
    · decide +kernel
    · decide +kernel

/-- One pulse raises the energy of both endpoints under an unchanged generation. -/
theorem generation_misses_pulse :
    Reachable joinedPair ∧ ¬ Counted joinedPair (.duoPulse 1 1000000) ∧
      (getCluster (step joinedPair (.duoPulse 1 1000000))).generation =
        (getCluster joinedPair).generation ∧
      (getCluster (step joinedPair (.duoPulse 1 1000000))).nodes ≠
        (getCluster joinedPair).nodes := by
  refine ⟨⟨[.duoAdd 0 1 1], rfl⟩, ?_, by decide +kernel, by decide +kernel⟩
  intro counted
  have raised : ((step joinedPair (.duoPulse 1 1000000)).nodes 0).energyPpm ≠
      (joinedPair.nodes 0).energyPpm := by decide +kernel
  have advanced := counted fun same =>
    raised (congrArg Node.energyPpm (same 0 (by decide)))
  exact absurd advanced (by decide +kernel)

end RyzenBuild.DawnHex
