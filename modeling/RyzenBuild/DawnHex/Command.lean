import RyzenBuild.DawnHex.State

/-!
The operations a client, the tick worker or another module can run under the
lock, one constructor for each, and the state `dawnhex_init` leaves behind.
The ioctls and the exported pulse run the same operations; ioctls that only
copy state out change nothing and have no constructor.
-/
namespace RyzenBuild.DawnHex

open Kernel Ladder Memory Bitmask

inductive Command where
  | add (id : UInt32) (name : List UInt8)
  | del (id : UInt32)
  | link (a b : UInt32)
  | unlink (a b : UInt32)
  | online (id value : UInt32)
  | energy (id value : UInt32)
  | health (id value : UInt32)
  | tick
  | interactive (value : UInt32)
  | tickMs (value : UInt32)
  | snapshot
  | help
  | duoAdd (a b mode : UInt32)
  | duoDel (pairId : UInt32)
  | duoPulse (pairId value : UInt32)
  | duoSnapshot
  deriving DecidableEq, Repr

/-- `online`, `energy` and `health`: one field of a present node, by lookup. -/
def setNodeField (s : State) (id : UInt32) (change : Node → Node)
    (message : Node → List UInt8) : State × Option Errno :=
  match dhLookupNodeLocked s id with
  | none => (s, some .enoent)
  | some i =>
      let n := change (s.nodes i)
      (dhEmitEventLocked (s.setNode i n).bumpGeneration (message n), none)

def truth (value : UInt32) : Bool := value ≠ 0

def execute (s : State) : Command → State × Option Errno
  | .add id name => dhAddNodeLocked s id name
  | .del id => dhDelNodeLocked s id
  | .link a b => dhLinkLocked s a b true
  | .unlink a b => dhLinkLocked s a b false
  | .online id value =>
      setNodeField s id (fun n => { n with online := truth value })
        (fun _ => field "online id=" id.toNat ++ field " value=" (truth value).toNat)
  | .energy id value =>
      setNodeField s id (fun n => { n with energyPpm := dhClampU32 value 0 1000000 })
        (fun n => field "energy id=" id.toNat ++ field " value=" n.energyPpm.toNat)
  | .health id value =>
      setNodeField s id (fun n => { n with healthPpm := dhClampU32 value 0 1000000 })
        (fun n => field "health id=" id.toNat ++ field " value=" n.healthPpm.toNat)
  -- The tick worker runs the same body while `interactive` is set.
  | .tick => (dhTickOnceLocked s, none)
  | .interactive value =>
      (dhEmitEventLocked { s with interactive := truth value }
        (field "interactive value=" (truth value).toNat), none)
  | .tickMs value =>
      let tickMs := dhClampU32 value 10 60000
      (dhEmitEventLocked { s with tickMs := tickMs } (field "tick_ms value=" tickMs.toNat), none)
  | .snapshot =>
      (dhEmitEventLocked s
        (field "snapshot generation=" s.generation.toNat ++
          field " nodes=" (dhCountNodesLocked s).toNat ++
          field " links=" (dhCountLinksLocked s).toNat), none)
  | .help =>
      (dhEmitEventLocked s
        (text "cmds: add del link unlink online energy health tick interactive tick_ms snapshot"),
        none)
  | .duoAdd a b mode =>
      match dhDuoAddPairLocked s a b mode with
      | (s, .ok _) => (s, none)
      | (s, .error e) => (s, some e)
  | .duoDel pairId => dhDuoDelPairLocked s pairId
  | .duoPulse pairId value => dhDuoPulseLocked s pairId value
  | .duoSnapshot =>
      (dhEmitEventLocked s (field "duo_snapshot pairs=" s.duo.pairCount.toNat), none)

def step (s : State) (command : Command) : State := (execute s command).1

theorem step_tick (s : State) : step s .tick = dhTickOnceLocked s := by
  simp only [step, execute]

theorem step_duo_add (s : State) (a b mode : UInt32) :
    step s (.duoAdd a b mode) = (dhDuoAddPairLocked s a b mode).1 := by
  simp only [step, execute]
  split <;> simp_all

/-- The state in which `misc_register` publishes the device. -/
def registered : State :=
  { events := fun _ => []
    evHead := 0
    evTail := 0
    tickMs := dawnhexDefaultTickMs
    interactive := true
    generation := 0
    nodes := fun _ => Node.zero
    duo := { pairs := fun _ => DuoPair.zero, pairCount := 0, nextPairId := 0 }
    hookCalls := [] }

/-- The nodes and links `dawnhex_init` adds after registration. -/
def initCommands : List Command :=
  [.add 0 (text "core"), .add 1 (text "mesh-a"), .add 2 (text "mesh-b"), .link 0 1, .link 0 2]

def dawnhexInit : State := Trace.run step registered initCommands

def Reachable : State → Prop := Trace.Reachable step dawnhexInit

/-- Runs from `dawnhexInit` are runs from `registered`, so an invariant of
the latter covers a client that acts before the initial nodes are added. -/
theorem reachable_of_init (s : State) (reachable : Reachable s) :
    Trace.Reachable step registered s := by
  obtain ⟨commands, rfl⟩ := reachable
  exact ⟨initCommands ++ commands, Trace.run_append step registered initCommands commands⟩

theorem reachable_invariant (invariant : State → Prop) (init : invariant registered)
    (preserved : ∀ s command, invariant s → invariant (step s command))
    (s : State) (reachable : Reachable s) : invariant s :=
  Trace.reachable_invariant step invariant preserved registered s init
    (reachable_of_init s reachable)

section Frame

variable (s : State) (message : List UInt8)

@[simp] theorem emit_nodes : (dhEmitEventLocked s message).nodes = s.nodes := rfl
@[simp] theorem emit_duo : (dhEmitEventLocked s message).duo = s.duo := rfl
@[simp] theorem bump_nodes : s.bumpGeneration.nodes = s.nodes := rfl
@[simp] theorem bump_duo : s.bumpGeneration.duo = s.duo := rfl
@[simp] theorem setNode_duo (i : Nat) (n : Node) : (s.setNode i n).duo = s.duo := rfl
@[simp] theorem setPair_nodes (i : Nat) (p : DuoPair) : (s.setPair i p).nodes = s.nodes := rfl
@[simp] theorem setNode_nodes (i k : Nat) (n : Node) :
    (s.setNode i n).nodes k = if k = i then n else s.nodes k := rfl

@[simp] theorem hooks_nodes (ctx : DuoHookCtx) : (dhDuoEmitHooksLocked s ctx).nodes = s.nodes := rfl
@[simp] theorem hooks_duo (ctx : DuoHookCtx) : (dhDuoEmitHooksLocked s ctx).duo = s.duo := rfl

end Frame

/-- A lookup finds exactly the slot of a present node. -/
theorem lookup_some (s : State) (id : UInt32) (i : Nat) :
    dhLookupNodeLocked s id = some i ↔
      i = id.toNat ∧ id.toNat < dawnhexMaxNodes ∧ (s.nodes id.toNat).present = true := by
  unfold dhLookupNodeLocked
  split
  · simp only [reduceCtorEq, false_iff]
    omega
  · split
    · rename_i inside absent
      simp only [reduceCtorEq, false_iff]
      rintro ⟨_, _, present⟩
      simp [present] at absent
    · rename_i inside present
      simp only [Option.some.injEq]
      constructor
      · rintro rfl
        exact ⟨rfl, by omega, by simpa using present⟩
      · rintro ⟨rfl, _, _⟩
        rfl

theorem pair_lookup_some (s : State) (pairId : UInt32) (i : Nat)
    (found : dhDuoLookupPairLocked s pairId = some i) :
    i < s.duo.pairCount.toNat ∧ (s.duo.pairs i).pairId = pairId := by
  have member := List.mem_of_find?_eq_some found
  have matched := List.find?_some found
  exact ⟨List.mem_range.mp member, by simpa using matched⟩

theorem found_nonempty (s : State) (pairId : UInt32) (i : Nat)
    (found : dhDuoLookupPairLocked s pairId = some i) : 1 ≤ s.duo.pairCount := by
  have inside := (pair_lookup_some s pairId i found).1
  exact UInt32.le_iff_toNat_le.mpr (Nat.lt_of_le_of_lt (Nat.zero_le i) inside)

/-- An operation either fails and changes nothing, or succeeds; the case
lemmas below say what each success does to the two tables. -/
theorem add_node_cases (s : State) (id : UInt32) (name : List UInt8) :
    (dhAddNodeLocked s id name).2 ≠ none ∧ (dhAddNodeLocked s id name).1 = s ∨
      (dhAddNodeLocked s id name).2 = none ∧
        id.toNat < dawnhexMaxNodes ∧ (s.nodes id.toNat).present = false ∧
        (dhAddNodeLocked s id name).1.duo = s.duo ∧
        (dhAddNodeLocked s id name).1.nodes =
          (s.setNode id.toNat
            ⟨id, strscpy dawnhexNameLen name, true, true, 500000, 1000000, 0⟩).nodes := by
  by_cases outside : id.toNat ≥ dawnhexMaxNodes
  · exact Or.inl (by simp [dhAddNodeLocked, outside])
  · cases member : (s.nodes id.toNat).present with
    | true => exact Or.inl (by simp [dhAddNodeLocked, outside, member])
    | false =>
        refine Or.inr ⟨?_, Nat.lt_of_not_le outside, rfl, ?_, ?_⟩
        · simp [dhAddNodeLocked, outside, member]
        · simp [dhAddNodeLocked, outside, member]
        · simp [dhAddNodeLocked, outside, member, Node.zero]

theorem del_node_cases (s : State) (id : UInt32) :
    (dhDelNodeLocked s id).2 ≠ none ∧ (dhDelNodeLocked s id).1 = s ∨
      (dhDelNodeLocked s id).2 = none ∧
        id.toNat < dawnhexMaxNodes ∧ (s.nodes id.toNat).present = true ∧
        (dhDelNodeLocked s id).1.duo = s.duo ∧
        ∀ k, k < dawnhexMaxNodes → (dhDelNodeLocked s id).1.nodes k =
          if k = id.toNat then Node.zero
          else { s.nodes k with linksMask := (s.nodes k).linksMask &&& ~~~single id } := by
  by_cases outside : id.toNat ≥ dawnhexMaxNodes
  · exact Or.inl (by simp [dhDelNodeLocked, outside])
  · cases member : (s.nodes id.toNat).present with
    | false => exact Or.inl (by simp [dhDelNodeLocked, outside, member])
    | true =>
        refine Or.inr ⟨?_, Nat.lt_of_not_le outside, rfl, ?_, ?_⟩
        · simp [dhDelNodeLocked, outside, member]
        · simp [dhDelNodeLocked, outside, member]
        · intro k inside
          simp [dhDelNodeLocked, outside, member, inside]

theorem link_cases (s : State) (a b : UInt32) (enable : Bool) :
    (dhLinkLocked s a b enable).1 = s ∨
      a ≠ b ∧ dhLookupNodeLocked s a = some a.toNat ∧ dhLookupNodeLocked s b = some b.toNat ∧
        (dhLinkLocked s a b enable).1.duo = s.duo ∧
        ∀ k, (dhLinkLocked s a b enable).1.nodes k =
          let update (mask : UInt64) (id : UInt32) : UInt64 :=
            if enable then mask ||| single id else mask &&& ~~~single id
          if k = b.toNat then { s.nodes k with linksMask := update (s.nodes k).linksMask a }
          else if k = a.toNat then { s.nodes k with linksMask := update (s.nodes k).linksMask b }
          else s.nodes k := by
  by_cases same : a = b
  · exact Or.inl (by simp [dhLinkLocked, same])
  · -- The second write meets another slot than the first.
    have distinct : b.toNat ≠ a.toNat := fun equal => same (UInt32.toNat_inj.mp equal).symm
    cases foundA : dhLookupNodeLocked s a with
    | none => exact Or.inl (by simp [dhLinkLocked, same, foundA])
    | some na =>
        cases foundB : dhLookupNodeLocked s b with
        | none => exact Or.inl (by simp [dhLinkLocked, same, foundA, foundB])
        | some nb =>
            obtain ⟨rfl, _, _⟩ := (lookup_some s a na).mp foundA
            obtain ⟨rfl, _, _⟩ := (lookup_some s b nb).mp foundB
            refine Or.inr ⟨same, rfl, rfl, ?_, ?_⟩
            · simp [dhLinkLocked, same, foundA, foundB]
            · intro k
              by_cases atB : k = b.toNat
              · simp [dhLinkLocked, same, foundA, foundB, atB, distinct]
              · by_cases atA : k = a.toNat
                · simp [dhLinkLocked, same, foundA, foundB, atA, distinct.symm]
                · simp [dhLinkLocked, same, foundA, foundB, atA, atB]

theorem duo_add_cases (s : State) (a b mode : UInt32) :
    (∃ e, (dhDuoAddPairLocked s a b mode).2 = .error e) ∧
        (dhDuoAddPairLocked s a b mode).1 = s ∨
      (dhDuoAddPairLocked s a b mode).2 = .ok (s.duo.nextPairId + 1) ∧
        s.duo.pairCount < dawnhexDuoMaxPairs ∧ a ≠ b ∧
        dhLookupNodeLocked s a = some a.toNat ∧ dhLookupNodeLocked s b = some b.toNat ∧
        (dhDuoAddPairLocked s a b mode).1.nodes = s.nodes ∧
        (dhDuoAddPairLocked s a b mode).1.duo.pairCount = s.duo.pairCount + 1 ∧
        ∀ k, (dhDuoAddPairLocked s a b mode).1.duo.pairs k =
          if k = s.duo.pairCount.toNat then
            dhDuoRecomputeSimplexLocked (freshPair (s.duo.nextPairId + 1) a b mode)
          else s.duo.pairs k := by
  by_cases full : s.duo.pairCount ≥ dawnhexDuoMaxPairs
  · exact Or.inl (by simp [dhDuoAddPairLocked, full])
  · by_cases same : a = b
    · exact Or.inl (by simp [dhDuoAddPairLocked, full, same])
    · cases foundA : dhLookupNodeLocked s a with
      | none => exact Or.inl (by simp [dhDuoAddPairLocked, full, same, foundA])
      | some na =>
          cases foundB : dhLookupNodeLocked s b with
          | none => exact Or.inl (by simp [dhDuoAddPairLocked, full, same, foundA, foundB])
          | some nb =>
              obtain ⟨rfl, _, _⟩ := (lookup_some s a na).mp foundA
              obtain ⟨rfl, _, _⟩ := (lookup_some s b nb).mp foundB
              refine Or.inr ⟨?_, by simpa using full, same, rfl, rfl, ?_, ?_, ?_⟩
              · simp [dhDuoAddPairLocked, full, same, foundA, foundB]
              · simp [dhDuoAddPairLocked, full, same, foundA, foundB]
              · simp [dhDuoAddPairLocked, full, same, foundA, foundB, State.setPair]
              · intro k
                simp [dhDuoAddPairLocked, full, same, foundA, foundB, State.setPair]

theorem duo_add_failed_same (s : State) (e : Errno) (a b mode : UInt32)
    (failed : (dhDuoAddPairLocked s a b mode).2 = .error e) :
    (dhDuoAddPairLocked s a b mode).1 = s := by
  rcases duo_add_cases s a b mode with ⟨_, same⟩ | ⟨done, _⟩
  · exact same
  · rw [done] at failed
    cases failed

theorem duo_del_cases (s : State) (pairId : UInt32) :
    dhDuoLookupPairLocked s pairId = none ∧ (dhDuoDelPairLocked s pairId).1 = s ∨
      ∃ i, dhDuoLookupPairLocked s pairId = some i ∧
        (dhDuoDelPairLocked s pairId).1.nodes = s.nodes ∧
        (dhDuoDelPairLocked s pairId).1.duo.pairCount = s.duo.pairCount - 1 ∧
        (dhDuoDelPairLocked s pairId).1.duo.pairs =
          memmove s.duo.pairs i (i + 1) (s.duo.pairCount.toNat - i - 1) := by
  cases found : dhDuoLookupPairLocked s pairId with
  | none => exact Or.inl (by simp [dhDuoDelPairLocked, found])
  | some i =>
      refine Or.inr ⟨i, rfl, ?_, ?_, ?_⟩ <;> simp [dhDuoDelPairLocked, found]

theorem duo_pulse_cases (s : State) (pairId value : UInt32) :
    (dhDuoPulseLocked s pairId value).1 = s ∨
      ∃ i, dhDuoLookupPairLocked s pairId = some i ∧
        dhLookupNodeLocked s (s.duo.pairs i).a = some (s.duo.pairs i).a.toNat ∧
        dhLookupNodeLocked s (s.duo.pairs i).b = some (s.duo.pairs i).b.toNat ∧
        ∃ p, p = pulsedPair (s.duo.pairs i) (s.nodes (s.duo.pairs i).a.toNat)
            (s.nodes (s.duo.pairs i).b.toNat) (dhClampU32 value 0 1000000) ∧
          (dhDuoPulseLocked s pairId value).1.duo = (s.setPair i p).duo ∧
          ∃ t, t = s.setNode (s.duo.pairs i).a.toNat
              (pulsedNode (s.nodes (s.duo.pairs i).a.toNat) p.energyPpm) ∧
            (dhDuoPulseLocked s pairId value).1.nodes =
              (t.setNode (s.duo.pairs i).b.toNat
                (pulsedNode (t.nodes (s.duo.pairs i).b.toNat) p.energyPpm)).nodes := by
  cases found : dhDuoLookupPairLocked s pairId with
  | none => exact Or.inl (by simp [dhDuoPulseLocked, found])
  | some i =>
      cases active : (s.duo.pairs i).active with
      | false => exact Or.inl (by simp [dhDuoPulseLocked, found, active])
      | true =>
          cases foundA : dhLookupNodeLocked s (s.duo.pairs i).a with
          | none => exact Or.inl (by simp [dhDuoPulseLocked, found, foundA])
          | some na =>
              cases foundB : dhLookupNodeLocked s (s.duo.pairs i).b with
              | none => exact Or.inl (by simp [dhDuoPulseLocked, found, foundA, foundB])
              | some nb =>
                  obtain ⟨rfl, _, _⟩ := (lookup_some s _ na).mp foundA
                  obtain ⟨rfl, _, _⟩ := (lookup_some s _ nb).mp foundB
                  refine Or.inr ⟨i, rfl, foundA, foundB, _, rfl, ?_, _, rfl, ?_⟩
                  · simp [dhDuoPulseLocked, found, active, foundA, foundB, State.setPair]
                  · simp [dhDuoPulseLocked, found, active, foundA, foundB]

end RyzenBuild.DawnHex
