import RyzenBuild.DawnHex.Command
import RyzenBuild.Lib.NodeGraph
import Mathlib.Algebra.BigOperators.Fin

/-!
The link masks as one undirected graph. `TopologyStep` says once what an
operation can do to the present flags and the link masks; a state represents
a `NodeGraph`, and every operation simulates a step of it.
-/
namespace RyzenBuild.DawnHex

open Kernel Memory Bitmask NodeGraph

def present (s : State) (i : Nat) : Bool := (s.nodes i).present

def linksMask (s : State) (i : Nat) : UInt64 := (s.nodes i).linksMask

def linkBit (s : State) (i j : Nat) : Bool := bit (linksMask s i) j

structure SameTopology (s s' : State) : Prop where
  present : ∀ i, present s' i = present s i
  masks : ∀ i, linksMask s' i = linksMask s i

/-- What one operation can do to the present flags and the link masks. -/
inductive TopologyStep (s s' : State) : Prop
  | kept (same : SameTopology s s')
  | added (id : UInt32) (inside : id.toNat < dawnhexMaxNodes) (absent : present s id.toNat = false)
      (flags : ∀ i, present s' i = (present s i || decide (i = id.toNat)))
      (masks : ∀ i, linksMask s' i = if i = id.toNat then 0 else linksMask s i)
  | deleted (id : UInt32) (inside : id.toNat < dawnhexMaxNodes) (member : present s id.toNat = true)
      (flags : ∀ i, i < dawnhexMaxNodes → present s' i = (present s i && !decide (i = id.toNat)))
      (masks : ∀ i, i < dawnhexMaxNodes → linksMask s' i =
        if i = id.toNat then 0 else linksMask s i &&& ~~~single id)
  | linked (a b : UInt32) (enable : Bool) (distinct : a.toNat ≠ b.toNat)
      (insideA : a.toNat < dawnhexMaxNodes) (insideB : b.toNat < dawnhexMaxNodes)
      (memberA : present s a.toNat = true) (memberB : present s b.toNat = true)
      (flags : ∀ i, present s' i = present s i)
      (bits : ∀ i j, linkBit s' i j =
        if i = a.toNat ∧ j = b.toNat ∨ i = b.toNat ∧ j = a.toNat then enable else linkBit s i j)

theorem same_topology_refl (s : State) : SameTopology s s :=
  ⟨fun _ => rfl, fun _ => rfl⟩

theorem same_topology_trans (first second third : State)
    (before : SameTopology first second) (after : SameTopology second third) :
    SameTopology first third :=
  ⟨fun i => (after.present i).trans (before.present i),
    fun i => (after.masks i).trans (before.masks i)⟩

theorem same_topology_of_nodes (s s' : State) (same : s'.nodes = s.nodes) :
    SameTopology s s' := by
  constructor
  · intro i
    simp [present, same]
  · intro i
    simp [linksMask, same]

/-- Rewriting a node without touching its flag and mask keeps the topology. -/
theorem same_topology_set (s : State) (i : Nat) (n : Node)
    (flag : n.present = (s.nodes i).present) (mask : n.linksMask = (s.nodes i).linksMask) :
    SameTopology s (s.setNode i n) := by
  constructor
  · intro k
    by_cases same : k = i
    · simp [present, same, flag]
    · simp [present, same]
  · intro k
    by_cases same : k = i
    · simp [linksMask, same, mask]
    · simp [linksMask, same]

theorem tick_node_topology (s : State) (i : Nat) : SameTopology s (tickNode s i) := by
  by_cases idle : !(s.nodes i).present || !(s.nodes i).online
  · simp only [tickNode, idle, if_true]
    exact same_topology_refl s
  · simp only [tickNode, idle]
    apply same_topology_trans s (s.setNode i _) _ _ (same_topology_of_nodes _ _ (by simp; rfl))
    apply same_topology_set
    · split <;> rfl
    · split <;> rfl

theorem tick_topology (s : State) : SameTopology s (dhTickOnceLocked s) := by
  have walked : SameTopology s.bumpGeneration (dhTickOnceLocked s) := by
    apply Trace.run_invariant tickNode (SameTopology s.bumpGeneration)
    · intro t i same
      exact same_topology_trans _ _ _ same (tick_node_topology t i)
    · exact same_topology_refl _
  exact same_topology_trans _ _ _ (same_topology_of_nodes _ _ (bump_nodes s)) walked

theorem set_field_topology (s : State) (id : UInt32) (change : Node → Node)
    (message : Node → List UInt8) (flag : ∀ n, (change n).present = n.present)
    (mask : ∀ n, (change n).linksMask = n.linksMask) :
    SameTopology s (setNodeField s id change message).1 := by
  unfold setNodeField
  cases found : dhLookupNodeLocked s id with
  | none => exact same_topology_refl s
  | some i =>
      exact same_topology_trans _ _ _ (same_topology_set s i _ (flag _) (mask _))
        (same_topology_of_nodes _ _ rfl)

theorem pulse_topology (s : State) (pairId value : UInt32) :
    SameTopology s (dhDuoPulseLocked s pairId value).1 := by
  rcases duo_pulse_cases s pairId value with failed | ⟨i, _, _, _, p, _, _, t, atA, after⟩
  · rw [failed]
    exact same_topology_refl s
  · -- Two feedback writes, each to the energy of one endpoint.
    refine same_topology_trans _ t _ ?_
      (same_topology_trans _ _ _ ?_ (same_topology_of_nodes _ _ after))
    · rw [atA]
      exact same_topology_set s _ _ rfl rfl
    · exact same_topology_set t _ _ rfl rfl

theorem duo_del_topology (s : State) (pairId : UInt32) :
    SameTopology s (dhDuoDelPairLocked s pairId).1 := by
  rcases duo_del_cases s pairId with ⟨_, failed⟩ | ⟨_, _, nodes, _⟩
  · rw [failed]
    exact same_topology_refl s
  · exact same_topology_of_nodes _ _ nodes

theorem duo_add_topology (s : State) (a b mode : UInt32) :
    SameTopology s (dhDuoAddPairLocked s a b mode).1 := by
  rcases duo_add_cases s a b mode with ⟨_, failed⟩ | ⟨_, _, _, _, _, nodes, _⟩
  · rw [failed]
    exact same_topology_refl s
  · exact same_topology_of_nodes _ _ nodes

theorem add_topology (s : State) (id : UInt32) (name : List UInt8) :
    TopologyStep s (dhAddNodeLocked s id name).1 := by
  rcases add_node_cases s id name with ⟨_, failed⟩ | ⟨_, inside, absent, _, nodes⟩
  · rw [failed]
    exact .kept (same_topology_refl s)
  · refine .added id inside absent ?_ ?_
    · intro i
      by_cases same : i = id.toNat <;> simp [present, nodes, same]
    · intro i
      by_cases same : i = id.toNat <;> simp [linksMask, nodes, same]

theorem del_topology (s : State) (id : UInt32) :
    TopologyStep s (dhDelNodeLocked s id).1 := by
  rcases del_node_cases s id with ⟨_, failed⟩ | ⟨_, inside, member, _, nodes⟩
  · rw [failed]
    exact .kept (same_topology_refl s)
  · refine .deleted id inside member ?_ ?_
    · intro i within
      by_cases same : i = id.toNat
      · simp only [present, nodes i within]
        simp [same, Node.zero]
      · simp [present, nodes i within, same]
    · intro i within
      by_cases same : i = id.toNat
      · simp only [linksMask, nodes i within]
        simp [same, Node.zero]
      · simp [linksMask, nodes i within, same]

theorem link_topology (s : State) (a b : UInt32) (enable : Bool) :
    TopologyStep s (dhLinkLocked s a b enable).1 := by
  rcases link_cases s a b enable with failed | ⟨different, foundA, foundB, _, nodes⟩
  · rw [failed]
    exact .kept (same_topology_refl s)
  · obtain ⟨_, insideA, memberA⟩ := (lookup_some s a _).mp foundA
    obtain ⟨_, insideB, memberB⟩ := (lookup_some s b _).mp foundB
    have distinct : a.toNat ≠ b.toNat := fun equal => different (UInt32.toNat_inj.mp equal)
    refine .linked a b enable distinct insideA insideB memberA memberB ?_ ?_
    · intro i
      simp only [present, nodes i]
      split
      · rfl
      · split <;> rfl
    · intro i j
      simp only [linkBit, linksMask, nodes i]
      by_cases atB : i = b.toNat
      · subst atB
        cases enable
        · simp [bit_remove _ a insideA, distinct.symm]
          grind
        · simp [bit_insert _ a insideA, distinct.symm]
          grind
      · by_cases atA : i = a.toNat
        · subst atA
          cases enable
          · simp [bit_remove _ b insideB, distinct]
            grind
          · simp [bit_insert _ b insideB, distinct]
            grind
        · simp [atA, atB]

def Command.changesTopology : Command → Bool
  | .add _ _ | .del _ | .link _ _ | .unlink _ _ => true
  | _ => false

/-- All but the node and link operations keep the topology. -/
theorem quiet_topology (s : State) (command : Command)
    (quiet : command.changesTopology = false) : SameTopology s (step s command) := by
  cases command with
  | online id value => exact set_field_topology s id _ _ (fun _ => rfl) fun _ => rfl
  | energy id value => exact set_field_topology s id _ _ (fun _ => rfl) fun _ => rfl
  | health id value => exact set_field_topology s id _ _ (fun _ => rfl) fun _ => rfl
  | tick =>
      rw [step_tick]
      exact tick_topology s
  | duoAdd a b mode =>
      rw [step_duo_add]
      exact duo_add_topology s a b mode
  | duoDel pairId => exact duo_del_topology s pairId
  | duoPulse pairId value => exact pulse_topology s pairId value
  | interactive | tickMs | snapshot | help | duoSnapshot => exact same_topology_of_nodes _ _ rfl
  | add | del | link | unlink => cases quiet

theorem topology_step (s : State) (command : Command) : TopologyStep s (step s command) := by
  cases command with
  | add id name => exact add_topology s id name
  | del id => exact del_topology s id
  | link a b => exact link_topology s a b true
  | unlink a b => exact link_topology s a b false
  | _ => exact .kept (quiet_topology s _ rfl)

/-- The bits of the 64 masks are the links of the graph, in both directions. -/
structure Represents (s : State) (g : Graph (Fin dawnhexMaxNodes)) : Prop where
  flags : ∀ i : Fin dawnhexMaxNodes, present s i = true ↔ i ∈ g.present
  bits : ∀ i j : Fin dawnhexMaxNodes, linkBit s i j = true ↔ g.links.Adj i j

theorem represents_kept (s s' : State) (g : Graph (Fin dawnhexMaxNodes))
    (represents : Represents s g) (same : SameTopology s s') : Represents s' g := by
  constructor
  · intro i
    rw [same.present, represents.flags]
  · intro i j
    rw [linkBit, same.masks]
    exact represents.bits i j

theorem represents_registered : Represents registered Graph.empty := by
  constructor
  · intro i
    simp [present, registered, Node.zero, Graph.empty]
  · intro i j
    simp [linkBit, linksMask, registered, Node.zero, Graph.empty]

/-- The operations of the module simulate the steps of the abstract graph. -/
theorem step_simulates (s s' : State) (g : Graph (Fin dawnhexMaxNodes))
    (represents : Represents s g) (moved : TopologyStep s s') :
    ∃ g', Step g g' ∧ Represents s' g' := by
  cases moved with
  | kept same => exact ⟨g, .keep, represents_kept s s' g represents same⟩
  | added id inside absent flags masks =>
      have fresh : (⟨id.toNat, inside⟩ : Fin dawnhexMaxNodes) ∉ g.present := by
        rw [← represents.flags]
        simp [absent]
      refine ⟨g.insert ⟨id.toNat, inside⟩, .insert _ fresh, ?_, ?_⟩
      · intro i
        simp [flags, represents.flags i, Graph.insert, Fin.ext_iff, or_comm]
      · intro i j
        simp only [linkBit, masks, Graph.insert]
        by_cases same : i.val = id.toNat
        · -- An absent slot has no link, and a fresh node starts with none.
          have atSlot : i = ⟨id.toNat, inside⟩ := Fin.ext same
          simp only [same, if_true, bit_zero, Bool.false_eq_true, false_iff]
          intro joined
          exact fresh (atSlot ▸ g.supported i j joined)
        · simp only [same, if_false]
          exact represents.bits i j
  | deleted id inside member flags masks =>
      refine ⟨g.remove ⟨id.toNat, inside⟩, .remove _ ((represents.flags _).mp member), ?_, ?_⟩
      · intro i
        simp [flags i i.isLt, represents.flags i, Graph.remove, Fin.ext_iff]
      · intro i j
        rw [remove_adj, ← represents.bits i j]
        simp only [linkBit, masks i i.isLt, Fin.ext_iff, ne_eq]
        -- The removed node has no mask; every other mask loses the bit of its id.
        by_cases same : i.val = id.toNat
        · simp [same]
        · simp [same, bit_remove _ id inside]
  | linked a b enable distinct insideA insideB memberA memberB flags bits =>
      have first := (represents.flags ⟨a.toNat, insideA⟩).mp memberA
      have second := (represents.flags ⟨b.toNat, insideB⟩).mp memberB
      have different : (⟨a.toNat, insideA⟩ : Fin dawnhexMaxNodes) ≠ ⟨b.toNat, insideB⟩ := by
        simpa [Fin.ext_iff] using distinct
      cases enable with
      | true =>
          refine ⟨g.connect _ _ first second, .connect _ _ different first second, ?_, ?_⟩
          · intro i
            rw [flags]
            exact represents.flags i
          · intro i j
            rw [connect_adj, bits, ← represents.bits i j]
            simp only [Fin.ext_iff, ne_eq]
            split
            · rename_i ends
              have apart : ¬ i.val = j.val := by omega
              simp [ends, apart]
            · rename_i other
              simp [other]
      | false =>
          refine ⟨g.disconnect ⟨a.toNat, insideA⟩ ⟨b.toNat, insideB⟩,
            .disconnect _ _ different first second, ?_, ?_⟩
          · intro i
            rw [flags]
            exact represents.flags i
          · intro i j
            rw [disconnect_adj, bits, ← represents.bits i j]
            simp only [Fin.ext_iff]
            split
            · rename_i ends
              simp [ends]
            · rename_i other
              simp [other]

theorem reachable_represented (s : State) (reachable : Reachable s) :
    ∃ g, Represents s g := by
  apply reachable_invariant (fun s => ∃ g, Represents s g) ⟨_, represents_registered⟩ ?_ s reachable
  rintro s command ⟨g, represents⟩
  obtain ⟨g', _, after⟩ := step_simulates s _ g represents (topology_step s command)
  exact ⟨g', after⟩

/-- The undirected links of a state: two distinct nodes are joined when
either mask has the bit of the other. -/
def linkGraph (s : State) : SimpleGraph (Fin dawnhexMaxNodes) :=
  SimpleGraph.fromRel fun i j => linkBit s i j = true

instance (s : State) : DecidableRel (linkGraph s).Adj := fun i j =>
  inferInstanceAs (Decidable (i ≠ j ∧ (linkBit s i j = true ∨ linkBit s j i = true)))

theorem represented_links (s : State) (g : Graph (Fin dawnhexMaxNodes))
    (represents : Represents s g) : linkGraph s = g.links := by
  ext i j
  rw [linkGraph, SimpleGraph.fromRel_adj, represents.bits, represents.bits]
  constructor
  · rintro ⟨_, forward | backward⟩
    · exact forward
    · exact backward.symm
  · intro joined
    exact ⟨joined.ne, Or.inl joined⟩

theorem absent_mask (s : State) (g : Graph (Fin dawnhexMaxNodes)) (represents : Represents s g)
    (i : Fin dawnhexMaxNodes) (absent : present s i = false) : linksMask s i = 0 := by
  apply eq_zero_of_bits
  intro j inside
  by_contra set
  have joined := (represents.bits i ⟨j, inside⟩).mp (by simpa [linkBit] using set)
  have member := (represents.flags i).mpr (g.supported i _ joined)
  simp [absent] at member

/-- A popcount is the degree of its node. -/
theorem hweight_degree (s : State) (g : Graph (Fin dawnhexMaxNodes)) [DecidableRel g.links.Adj]
    (represents : Represents s g) (i : Fin dawnhexMaxNodes) :
    (hweight64 (linksMask s i)).toNat = g.links.degree i := by
  have counted : (hweight64 (linksMask s i)).toNat =
      (Finset.univ.filter fun j : Fin dawnhexMaxNodes => linkBit s i j).card :=
    hweight64_toNat (linksMask s i)
  rw [counted, SimpleGraph.degree, SimpleGraph.neighborFinset_eq_filter]
  simp only [represents.bits i]

theorem list_sum_range (n : Nat) (f : Nat → Nat) :
    ((List.range n).map f).sum = ∑ i : Fin n, f i :=
  Finset.sum_range f

theorem sum_links_walk (s : State) (slots : List Nat) (start : UInt32)
    (room : start.toNat + 64 * slots.length < 2 ^ 32) :
    (slots.foldl (fun links i =>
        if (s.nodes i).present then links + hweight64 (s.nodes i).linksMask else links)
      start).toNat =
      start.toNat +
        (slots.map fun i => if present s i then (hweight64 (linksMask s i)).toNat else 0).sum := by
  induction slots generalizing start with
  | nil => simp
  | cons i rest ih =>
      -- 64 masks of 64 bits stay far below the width of the sum.
      have small : (hweight64 (s.nodes i).linksMask).toNat ≤ 64 := by
        rw [hweight64_toNat]
        exact (Finset.card_le_univ _).trans (by simp)
      simp only [List.length_cons] at room
      simp only [List.foldl_cons, List.map_cons, List.sum_cons, present, linksMask]
      by_cases member : (s.nodes i).present = true
      · have added : (start + hweight64 (s.nodes i).linksMask).toNat =
            start.toNat + (hweight64 (s.nodes i).linksMask).toNat := by
          rw [UInt32.toNat_add, Nat.mod_eq_of_lt (by omega)]
        simp only [member, if_true]
        rw [ih _ (by omega), added, Nat.add_assoc]
        rfl
      · simp only [member]
        rw [if_neg (by simp), if_neg (by simp), ih start (by omega), Nat.zero_add]
        rfl

/-- The sum counts every link from both ends. -/
theorem sum_links (s : State) (g : Graph (Fin dawnhexMaxNodes)) (represents : Represents s g)
    (links : SimpleGraph (Fin dawnhexMaxNodes)) [DecidableRel links.Adj]
    (same : links = g.links) : (dhSumLinksLocked s).toNat = 2 * links.edgeFinset.card := by
  subst same
  have walked := sum_links_walk s (List.range dawnhexMaxNodes) 0 (by decide)
  rw [dhSumLinksLocked, walked, list_sum_range, ← Finset.sum_filter]
  simp only [hweight_degree s g represents, UInt32.toNat_zero, Nat.zero_add]
  apply sum_degrees_of_supported
  intro v member
  simpa using (represents.flags v).mpr member

/-- The link masks of every reachable state are symmetric, free of loops and
supported by the present nodes, and the link count is the number of
undirected links: the sum it halves is even. -/
theorem reachable_link_graph (s : State) (reachable : Reachable s) :
    (∀ i j : Fin dawnhexMaxNodes, linkBit s i j = linkBit s j i) ∧
      (∀ i : Fin dawnhexMaxNodes, linkBit s i i = false) ∧
      (∀ i j : Fin dawnhexMaxNodes, linkBit s i j = true → present s j = true) ∧
      (∀ i : Fin dawnhexMaxNodes, present s i = false → linksMask s i = 0) ∧
      (dhSumLinksLocked s).toNat = 2 * (linkGraph s).edgeFinset.card ∧
      (dhCountLinksLocked s).toNat = (linkGraph s).edgeFinset.card := by
  obtain ⟨g, represents⟩ := reachable_represented s reachable
  have counted := sum_links s g represents (linkGraph s) (represented_links s g represents)
  refine ⟨?_, ?_, ?_, absent_mask s g represents, counted, ?_⟩
  · intro i j
    rw [Bool.eq_iff_iff, represents.bits, represents.bits]
    exact g.links.adj_comm i j
  · intro i
    rw [Bool.eq_false_iff, ne_eq, represents.bits]
    exact g.links.irrefl
  · intro i j set
    exact (represents.flags j).mpr (supported_right g i j ((represents.bits i j).mp set))
  · rw [dhCountLinksLocked, UInt32.toNat_div, counted]
    exact Nat.mul_div_cancel_left _ (by decide)

/-- Deleting `mesh-a` takes its link along: one of the two initial links is left. -/
theorem link_graph_after_del :
    dhCountLinksLocked (step dawnhexInit (.del 1)) = 1 ∧
      (linkGraph (step dawnhexInit (.del 1))).edgeFinset.card = 1 := by
  have counted : dhCountLinksLocked (step dawnhexInit (.del 1)) = 1 := by decide +kernel
  have reachable : Reachable (step dawnhexInit (.del 1)) := ⟨[.del 1], rfl⟩
  obtain ⟨_, _, _, _, _, links⟩ := reachable_link_graph _ reachable
  exact ⟨counted, by rw [← links, counted]; rfl⟩

end RyzenBuild.DawnHex
