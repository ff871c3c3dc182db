import RyzenBuild.Lib.Settling
import RyzenBuild.DawnHex.Generation
import RyzenBuild.DawnHex.Incarnation

/-!
What pulses do to the energies of a group of nodes in the long run. Each pulse takes
both ends of its pair a fourth of the way to its own value, so a group whose nodes are
all pulsed again and again forgets the energies it started from and ends up between
the values it is fed, whatever else the module is asked meanwhile. Ticks are left
out: they raise every energy to the top in the end.
-/
namespace RyzenBuild.DawnHex

open Ladder Settling

/-- The ends that a pulse for this pair feeds; none, if a check of it fails. -/
def struck (s : State) (pairId : UInt32) : List UInt32 :=
  match dhDuoLookupPairLocked s pairId with
  | none => []
  | some i =>
      let p := s.duo.pairs i
      if p.active && (dhLookupNodeLocked s p.a).isSome && (dhLookupNodeLocked s p.b).isSome then
        [p.a, p.b]
      else []

/-- The command feeds energy to this node. -/
def feeds (s : State) : Command → UInt32 → Prop
  | .energy target _, id => target = id
  | .duoPulse pairId _, id => id ∈ struck s pairId
  | _, _ => False

instance (s : State) (command : Command) (id : UInt32) : Decidable (feeds s command id) := by
  cases command <;> unfold feeds <;> infer_instance

/-- What the operations make of a value lies between the two. -/
def Between (low high : Nat) (value : UInt32) : Prop :=
  low ≤ min value.toNat 1000000 ∧ min value.toNat 1000000 ≤ high

/-- The command does not delete a node of the group or feed it from outside. -/
def KeepsTo (group : List UInt32) (low high : Nat) (s : State) : Command → Prop
  | .tick => False
  | .del id => id ∉ group
  | .energy id value => id ∈ group → Between low high value
  | .duoPulse pairId value => ∀ id ∈ struck s pairId, id ∈ group →
      Between low high value ∧ ∀ other ∈ struck s pairId, other ∈ group
  | _ => True

instance (low high : Nat) (value : UInt32) : Decidable (Between low high value) :=
  inferInstanceAs (Decidable (_ ∧ _))

-- Over the list only: the type of the identifiers is finite, but not small.
instance (group : List UInt32) (low high : Nat) (s : State) (pairId value : UInt32) :
    Decidable (KeepsTo group low high s (.duoPulse pairId value)) :=
  have _inner : Decidable (∀ other ∈ struck s pairId, other ∈ group) :=
    List.decidableBAll (· ∈ group) _
  List.decidableBAll (fun id => id ∈ group → Between low high value ∧
    ∀ other ∈ struck s pairId, other ∈ group) _

instance (group : List UInt32) (low high : Nat) (s : State) (command : Command) :
    Decidable (KeepsTo group low high s command) := by
  cases command
  case duoPulse => infer_instance
  all_goals
    unfold KeepsTo
    infer_instance

/-- The node is there and its energy lies between the two. -/
structure Within (low high : Nat) (s : State) (id : UInt32) : Prop where
  inside : id.toNat < dawnhexMaxNodes
  present : (s.nodes id.toNat).present = true
  above : low ≤ (s.nodes id.toNat).energyPpm.toNat
  below : (s.nodes id.toNat).energyPpm.toNat ≤ high

theorem within_same (s t : State) (low high : Nat) (id : UInt32) (within : Within low high s id)
    (present : (t.nodes id.toNat).present = (s.nodes id.toNat).present)
    (energy : (t.nodes id.toNat).energyPpm = (s.nodes id.toNat).energyPpm) :
    Within low high t id where
  inside := within.inside
  present := present.trans within.present
  above := energy ▸ within.above
  below := energy ▸ within.below

/-- A pulse either fails, or feeds both ends, the first before the second. -/
theorem struck_cases (s : State) (pairId value : UInt32) :
    (dhDuoPulseLocked s pairId value).1 = s ∧ struck s pairId = [] ∨
      ∃ p : DuoPair, struck s pairId = [p.a, p.b] ∧
        ∃ energy, energy = (pulsedPair p (s.nodes p.a.toNat) (s.nodes p.b.toNat)
            (dhClampU32 value 0 1000000)).energyPpm ∧
          ∃ t, t = s.setNode p.a.toNat (pulsedNode (s.nodes p.a.toNat) energy) ∧
            (dhDuoPulseLocked s pairId value).1.nodes =
              (t.setNode p.b.toNat (pulsedNode (t.nodes p.b.toNat) energy)).nodes := by
  cases found : dhDuoLookupPairLocked s pairId with
  | none => exact Or.inl (by simp [dhDuoPulseLocked, struck, found])
  | some i =>
      cases active : (s.duo.pairs i).active with
      | false => exact Or.inl (by simp [dhDuoPulseLocked, struck, found, active])
      | true =>
          cases foundA : dhLookupNodeLocked s (s.duo.pairs i).a with
          | none => exact Or.inl (by simp [dhDuoPulseLocked, struck, found, foundA])
          | some na =>
              cases foundB : dhLookupNodeLocked s (s.duo.pairs i).b with
              | none => exact Or.inl (by simp [dhDuoPulseLocked, struck, found, foundB])
              | some nb =>
                  obtain ⟨rfl, _, _⟩ := (lookup_some s _ na).mp foundA
                  obtain ⟨rfl, _, _⟩ := (lookup_some s _ nb).mp foundB
                  refine Or.inr ⟨s.duo.pairs i, ?_, _, rfl, _, rfl, ?_⟩
                  · simp [struck, found, active, foundA, foundB]
                  · simp [dhDuoPulseLocked, found, active, foundA, foundB]

/-- A command that does not feed the node leaves its energy as it is. -/
theorem within_spared (group : List UInt32) (low high least most : Nat) (s : State)
    (command : Command) (id : UInt32) (keeps : KeepsTo group low high s command)
    (member : id ∈ group) (spared : ¬feeds s command id) (within : Within least most s id) :
    Within least most (step s command) id := by
  have field (target : UInt32) (change : Node → Node) (message : Node → List UInt8)
      (same : ∀ n, (change n).present = n.present)
      (energy : target = id → ∀ n, (change n).energyPpm = n.energyPpm) :
      Within least most (setNodeField s target change message).1 id := by
    unfold setNodeField
    cases found : dhLookupNodeLocked s target with
    | none => exact within
    | some i =>
        obtain ⟨rfl, _, _⟩ := (lookup_some s target i).mp found
        by_cases here : id.toNat = target.toNat
        · apply within_same s _ _ _ id within
          · simp [here, same]
          · simp [here, energy (UInt32.toNat_inj.mp here).symm]
        · exact within_same s _ _ _ id within (by simp [here]) (by simp [here])
  have linked (a b : UInt32) (enable : Bool) :
      Within least most (dhLinkLocked s a b enable).1 id := by
    rcases link_cases s a b enable with failed | ⟨_, _, _, _, nodes⟩
    · exact failed.symm ▸ within
    · apply within_same s _ _ _ id within (link_presence s a b enable id.toNat)
      simp only [nodes]
      split
      · rfl
      · split <;> rfl
  have kept (t : State) (nodes : t.nodes = s.nodes) : Within least most t id :=
    within_same s t _ _ id within (by rw [nodes]) (by rw [nodes])
  cases command with
  | add target name =>
      rcases add_node_cases s target name with ⟨_, failed⟩ | ⟨_, _, absent, _, nodes⟩
      · exact (congrArg (Within least most · id) failed).mpr within
      · have other : id.toNat ≠ target.toNat := fun here => by
          rw [← here, within.present] at absent
          cases absent
        apply within_same s _ _ _ id within
        · simp only [step, execute, nodes, setNode_nodes, if_neg other]
        · simp only [step, execute, nodes, setNode_nodes, if_neg other]
  | del target =>
      rcases del_node_cases s target with ⟨_, failed⟩ | ⟨_, _, _, _, nodes⟩
      · exact (congrArg (Within least most · id) failed).mpr within
      · have other : id.toNat ≠ target.toNat := fun here =>
          keeps (UInt32.toNat_inj.mp here ▸ member)
        apply within_same s _ _ _ id within
        · simp only [step, execute, nodes _ within.inside, if_neg other]
        · simp only [step, execute, nodes _ within.inside, if_neg other]
  | link a b => exact linked a b true
  | unlink a b => exact linked a b false
  | online target value => exact field target _ _ (fun _ => rfl) (fun _ _ => rfl)
  | energy target value => exact field target _ _ (fun _ => rfl) (fun here => absurd here spared)
  | health target value => exact field target _ _ (fun _ => rfl) (fun _ _ => rfl)
  | tick => exact keeps.elim
  | interactive value => exact kept _ rfl
  | tickMs value => exact kept _ rfl
  | snapshot => exact kept _ rfl
  | help => exact kept _ rfl
  | duoAdd a b mode =>
      rw [step_duo_add]
      rcases duo_add_cases s a b mode with ⟨_, failed⟩ | ⟨_, _, _, _, _, nodes, _⟩
      · exact failed.symm ▸ within
      · exact kept _ nodes
  | duoDel pairId =>
      rcases duo_del_cases s pairId with ⟨_, failed⟩ | ⟨_, _, nodes, _⟩
      · exact kept _ (congrArg State.nodes failed)
      · exact kept _ nodes
  | duoPulse pairId value =>
      rcases struck_cases s pairId value with ⟨failed, _⟩ | ⟨p, ends, energy, _, t, rfl, nodes⟩
      · exact kept _ (congrArg State.nodes failed)
      · rw [feeds, ends] at spared
        have notA : id.toNat ≠ p.a.toNat := fun here =>
          spared (UInt32.toNat_inj.mp here ▸ List.mem_cons_self)
        have notB : id.toNat ≠ p.b.toNat := fun here =>
          spared (UInt32.toNat_inj.mp here ▸ List.mem_cons_of_mem _ List.mem_cons_self)
        apply within_same s _ _ _ id within
        · simp only [step, execute, nodes, setNode_nodes, if_neg notA, if_neg notB]
        · simp only [step, execute, nodes, setNode_nodes, if_neg notA, if_neg notB]
  | duoSnapshot => exact kept _ rfl

theorem pulsed_pair_energy (p : DuoPair) (na nb : Node) (valuePpm : UInt32) :
    (pulsedPair p na nb valuePpm).energyPpm =
      dhClampU32 (((na.energyPpm + nb.energyPpm) / 2 + valuePpm) / 2) 0 1000000 := rfl

section Fed

variable (low high least most : Nat) (top : most ≤ 1000000)

include top

/-- The pair's energy is drawn half the way from the nodes to the value. -/
theorem energy_between (p : DuoPair) (na nb : Node) (value : UInt32)
    (first : least ≤ na.energyPpm.toNat ∧ na.energyPpm.toNat ≤ most)
    (second : least ≤ nb.energyPpm.toNat ∧ nb.energyPpm.toNat ≤ most)
    (between : Between low high value) (above : high ≤ most) :
    (least + low) / 2 ≤ (pulsedPair p na nb (dhClampU32 value 0 1000000)).energyPpm.toNat ∧
      (pulsedPair p na nb (dhClampU32 value 0 1000000)).energyPpm.toNat ≤ (most + high) / 2 := by
  obtain ⟨lower, upper⟩ := between
  rw [pulsed_pair_energy, clamp_min, UInt32.toNat_div, UInt32.toNat_add, UInt32.toNat_div,
    UInt32.toNat_add, clamp_min]
  simp only [UInt32.reduceToNat]
  omega

/-- A node is drawn half the way to the pair's energy. -/
theorem node_between (n : Node) (energy : UInt32)
    (own : least ≤ n.energyPpm.toNat ∧ n.energyPpm.toNat ≤ most)
    (between : (least + low) / 2 ≤ energy.toNat ∧ energy.toNat ≤ (most + high) / 2)
    (above : high ≤ most) :
    pull low least ≤ (pulsedNode n energy).energyPpm.toNat ∧
      (pulsedNode n energy).energyPpm.toNat ≤ pull high most := by
  rw [pulsedNode, clamp_min, UInt32.toNat_div, UInt32.toNat_add, pull, pull]
  simp only [UInt32.reduceToNat]
  omega

theorem within_fed (group : List UInt32) (s : State) (command : Command) (id : UInt32)
    (keeps : KeepsTo group low high s command) (held : ∀ other ∈ group, Within least most s other)
    (member : id ∈ group) (fed : feeds s command id) (below : least ≤ low) (above : high ≤ most) :
    Within (pull low least) (pull high most) (step s command) id := by
  have here := held id member
  have closer : least ≤ pull low least ∧ pull high most ≤ most := by
    rw [pull, pull]
    omega
  cases command with
  | energy target value =>
      obtain rfl : target = id := fed
      obtain ⟨lower, upper⟩ := keeps member
      have found := (lookup_some s target target.toNat).mpr ⟨rfl, here.inside, here.present⟩
      have written : (step s (.energy target value)).nodes target.toNat =
          { s.nodes target.toNat with energyPpm := dhClampU32 value 0 1000000 } := by
        simp [step, execute, setNodeField, found]
      constructor
      · exact here.inside
      · rw [written]
        exact here.present
      · rw [written, clamp_min, pull]
        omega
      · rw [written, clamp_min, pull]
        omega
  | duoPulse pairId value =>
      rcases struck_cases s pairId value with ⟨_, none⟩ | ⟨p, ends, energy, pulsed, t, rfl, nodes⟩
      · rw [feeds, none] at fed
        cases fed
      · obtain ⟨between, inside⟩ := keeps id fed member
        rw [ends] at inside
        have first := held p.a (inside _ List.mem_cons_self)
        have second := held p.b (inside _ (List.mem_cons_of_mem _ List.mem_cons_self))
        have drawn := energy_between low high least most top p (s.nodes p.a.toNat)
          (s.nodes p.b.toNat) value ⟨first.above, first.below⟩ ⟨second.above, second.below⟩ between
          above
        rw [← pulsed] at drawn
        have feed (n : Node) (own : least ≤ n.energyPpm.toNat ∧ n.energyPpm.toNat ≤ most) :=
          node_between low high least most top n energy own drawn above
        have once := feed (s.nodes id.toNat) ⟨here.above, here.below⟩
        -- At a node that is both ends the second feedback finds the first.
        have last : ∃ n, (step s (.duoPulse pairId value)).nodes id.toNat = pulsedNode n energy ∧
            n.present = true ∧ least ≤ n.energyPpm.toNat ∧ n.energyPpm.toNat ≤ most := by
          rw [feeds, ends] at fed
          simp only [step, execute, nodes, setNode_nodes]
          by_cases second : id.toNat = p.b.toNat
          · rw [if_pos second, ← second]
            by_cases first : id.toNat = p.a.toNat
            · rw [if_pos first, ← first]
              exact ⟨_, rfl, here.present, closer.1.trans once.1, once.2.trans closer.2⟩
            · rw [if_neg first]
              exact ⟨_, rfl, here.present, here.above, here.below⟩
          · have first : id = p.a := by
              rcases List.mem_cons.mp fed with first | other
              · exact first
              · exact absurd (congrArg UInt32.toNat (List.mem_singleton.mp other)) second
            rw [if_neg second, if_pos (congrArg UInt32.toNat first), ← first]
            exact ⟨_, rfl, here.present, here.above, here.below⟩
        obtain ⟨n, after, present, own⟩ := last
        have drawn := feed n own
        exact ⟨here.inside, after ▸ present, after ▸ drawn.1, after ▸ drawn.2⟩
  | _ => exact fed.elim

end Fed

/-- Where the energies lie after so many rounds. -/
def Drawn (low high rounds : Nat) : State → UInt32 → Prop :=
  Within ((pull low)^[rounds] 0) ((pull high)^[rounds] 1000000)

theorem drawn_bounds (low high rounds : Nat) (top : high ≤ 1000000) :
    (pull low)^[rounds] 0 ≤ low ∧ high ≤ (pull high)^[rounds] 1000000 ∧
      (pull high)^[rounds] 1000000 ≤ 1000000 := by
  have lower := pull_below low 0 low rounds (Nat.zero_add low)
  have upper := pull_above high (1000000 - high) rounds
  have once : (fun d => 3 * d / 4) ≤ id := fun d => by
    change 3 * d / 4 ≤ d
    omega
  have shrinks : (fun d => 3 * d / 4)^[rounds] (1000000 - high) ≤ 1000000 - high :=
    Function.iterate_le_id_of_le_id once rounds (1000000 - high)
  rw [Nat.add_sub_cancel' top] at upper
  omega

/-- After 46 rounds nothing is left of where the energies were. -/
theorem drawn_close (low high : Nat) (ordered : low ≤ high) (top : high ≤ 1000000) :
    low - 3 ≤ (pull low)^[46] 0 ∧ (pull high)^[46] 1000000 ≤ high := by
  have lower := pull_below low 0 low 46 (Nat.zero_add low)
  have upper := pull_above high (1000000 - high) 46
  rw [Nat.add_sub_cancel' top] at upper
  have rounded : Monotone fun d => (3 * d + 3) / 4 := fun _ _ le =>
    Nat.div_le_div_right (Nat.add_le_add_right (Nat.mul_le_mul_left 3 le) 3)
  have cut : Monotone fun d => 3 * d / 4 := fun _ _ le =>
    Nat.div_le_div_right (Nat.mul_le_mul_left 3 le)
  have want := rounded.iterate 46 (ordered.trans top)
  have excess := cut.iterate 46 (Nat.sub_le 1000000 high)
  rw [million_worn.1] at want
  rw [million_worn.2] at excess
  omega

theorem group_drawn (group : List UInt32) (low high : Nat) (top : high ≤ 1000000) :
    Settling.Drawn step (KeepsTo group low high) feeds group (Drawn low high) where
  nested k s id further := by
    obtain ⟨below, above, _⟩ := drawn_bounds low high k top
    rw [Drawn, Function.iterate_succ_apply', Function.iterate_succ_apply'] at further
    refine ⟨further.inside, further.present, le_trans ?_ further.above, further.below.trans ?_⟩
    · rw [pull]
      omega
    · rw [pull]
      omega
  touched k s command id keeps held member fed := by
    obtain ⟨below, above, small⟩ := drawn_bounds low high k top
    rw [Drawn, Function.iterate_succ_apply', Function.iterate_succ_apply']
    exact within_fed low high _ _ small group s command id keeps held member fed below above
  spared _ s command id keeps member spared here :=
    within_spared group low high _ _ s command id keeps member spared here

/-- Whatever energies a group of nodes starts from: once every one of them has been fed
in each of 46 rounds, in any order and beside anything else that leaves the group alone,
all of them lie between the values that were fed, but for the rounding, and stay there. -/
theorem energies_settle (s : State) (reachable : Reachable s) (group : List UInt32)
    (low high : Nat) (ordered : low ≤ high) (top : high ≤ 1000000)
    (members : ∀ id ∈ group, dhLookupNodeLocked s id = some id.toNat)
    (rounds : List (List Command)) (enough : 46 ≤ rounds.length)
    (every : Rounds step (KeepsTo group low high) feeds group s rounds) (later : List Command)
    (keeps : Trace.Steps step (KeepsTo group low high) (Trace.run step s rounds.flatten) later) :
    Trace.Always step (fun t => ∀ id ∈ group, Within (low - 3) high t id)
      (Trace.run step s rounds.flatten) later := by
  have drawn := group_drawn group low high top
  have ratio := (reachable_invariant Bounded bounded_registered bounded_step s reachable).nodes
  have start : ∀ id ∈ group, Drawn low high 0 s id := by
    intro id member
    obtain ⟨_, inside, present⟩ := (lookup_some s id _).mp (members id member)
    exact ⟨inside, present, Nat.zero_le _, (ratio id.toNat inside).energy⟩
  have close := drawn_close low high ordered top
  have settled := inside_rounds step drawn 0 s rounds start every
  have held : ∀ id ∈ group, Drawn low high 46 (Trace.run step s rounds.flatten) id := by
    intro id member
    apply inside_outer step drawn 46 (rounds.length - 46)
    have here := settled id member
    rwa [show 0 + rounds.length = 46 + (rounds.length - 46) by omega] at here
  refine Trace.always_mono step _ _ ?_ _ later (inside_run step drawn 46 _ later held keeps)
  intro t inside id member
  have here := inside id member
  exact ⟨here.inside, here.present, close.1.trans here.above, here.below.trans close.2⟩

/-- The three initial nodes on two pairs. -/
def chained : State := Trace.run step dawnhexInit [.duoAdd 0 1 1, .duoAdd 1 2 3]

def chainRounds : List (List Command) :=
  List.replicate 46 [.duoPulse 2 700000, .snapshot, .duoPulse 1 600000]

theorem chain_members : ∀ id ∈ [0, 1, 2], dhLookupNodeLocked chained id = some id.toNat := by
  simp only [List.mem_cons, List.not_mem_nil, or_false, forall_eq_or_imp, forall_eq]
  decide +kernel

theorem chain_settles :
    Trace.Always step (fun t => ∀ id ∈ [0, 1, 2], Within 599997 700000 t id)
      (Trace.run step chained chainRounds.flatten) [.snapshot] :=
  energies_settle chained ⟨_, rfl⟩ [0, 1, 2] 600000 700000 (by decide) (by decide)
    chain_members chainRounds (by decide) (by decide +kernel) [.snapshot] (by decide +kernel)

end RyzenBuild.DawnHex
