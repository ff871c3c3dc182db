import RyzenBuild.DawnHex.Links

/-!
The duo table as the list of its live pairs, what one operation can do to
that list, and the coherence of the ladder cached in every live pair.
-/
namespace RyzenBuild.DawnHex

open Kernel Ladder Memory

def livePairs (s : State) : List DuoPair := slice s.duo.pairs 0 s.duo.pairCount.toNat

/-- What one operation can do to the live pairs. A deleted pair leaves no
hole behind, and a pulse rewrites one pair through the recomputation. -/
inductive PairStep (s s' : State) : Prop
  | kept (same : livePairs s' = livePairs s)
  | added (a b mode : UInt32)
      (after : livePairs s' = livePairs s ++
        [dhDuoRecomputeSimplexLocked (freshPair (s.duo.nextPairId + 1) a b mode)])
  | deleted (i : Nat) (inside : i < (livePairs s).length)
      (after : livePairs s' = (livePairs s).eraseIdx i)
  | pulsed (i : Nat) (p : DuoPair) (na nb : Node) (valuePpm : UInt32)
      (found : (livePairs s)[i]? = some p)
      (after : livePairs s' = (livePairs s).set i (pulsedPair p na nb valuePpm))

theorem live_pairs_length (s : State) : (livePairs s).length = s.duo.pairCount.toNat :=
  slice_length _ _ _

theorem live_pairs_get (s : State) (i : Nat) (inside : i < s.duo.pairCount.toNat) :
    (livePairs s)[i]? = some (s.duo.pairs i) := by
  rw [livePairs, slice_getElem? _ _ _ _ inside, Nat.zero_add]

theorem mem_live_pairs (s : State) (p : DuoPair) :
    p ∈ livePairs s ↔ ∃ i, i < s.duo.pairCount.toNat ∧ s.duo.pairs i = p := by
  simp [livePairs, mem_slice]

/-- The linear search finds the first live pair with the id. -/
theorem lookup_live (s : State) (pairId : UInt32) :
    (dhDuoLookupPairLocked s pairId).map s.duo.pairs =
      (livePairs s).find? fun p => p.pairId = pairId := by
  rw [livePairs, slice, List.find?_map, dhDuoLookupPairLocked]
  have placed : (fun k => s.duo.pairs (0 + k)) = s.duo.pairs := by
    funext k
    rw [Nat.zero_add]
  rw [placed]
  rfl

theorem live_pairs_of_duo (s s' : State) (same : s'.duo = s.duo) :
    livePairs s' = livePairs s := by
  rw [livePairs, livePairs, same]

theorem live_pairs_append (s s' : State) (p : DuoPair)
    (room : s.duo.pairCount < dawnhexDuoMaxPairs)
    (count : s'.duo.pairCount = s.duo.pairCount + 1)
    (pairs : ∀ k, s'.duo.pairs k = if k = s.duo.pairCount.toNat then p else s.duo.pairs k) :
    livePairs s' = livePairs s ++ [p] := by
  have small : s.duo.pairCount.toNat < 128 := UInt32.lt_iff_toNat_lt.mp room
  have next : s'.duo.pairCount.toNat = s.duo.pairCount.toNat + 1 := by
    rw [count, UInt32.toNat_add, Nat.mod_eq_of_lt (by simp; omega)]
    rfl
  -- The new record lies right behind the live ones.
  rw [livePairs, next, slice_add]
  congr 1
  · apply slice_shift
    intro k inside
    rw [pairs, if_neg (by omega)]
  · simp [slice, pairs]

theorem live_pairs_erase (s s' : State) (i : Nat) (inside : i < s.duo.pairCount.toNat)
    (count : s'.duo.pairCount = s.duo.pairCount - 1)
    (pairs : s'.duo.pairs =
      memmove s.duo.pairs i (i + 1) (s.duo.pairCount.toNat - i - 1)) :
    livePairs s' = (livePairs s).eraseIdx i := by
  have next : s'.duo.pairCount.toNat = s.duo.pairCount.toNat - 1 := by
    rw [count, UInt32.toNat_sub_of_le _ _ (UInt32.le_iff_toNat_le.mpr (by simp; omega))]
    rfl
  rw [livePairs, next, pairs]
  exact slice_close_gap s.duo.pairs i s.duo.pairCount.toNat inside

theorem live_pairs_set (s s' : State) (i : Nat) (p : DuoPair)
    (same : s'.duo = (s.setPair i p).duo) : livePairs s' = (livePairs s).set i p := by
  rw [live_pairs_of_duo _ _ same]
  apply List.ext_getElem?
  intro k
  by_cases inside : k < s.duo.pairCount.toNat
  · rw [live_pairs_get (s.setPair i p) k inside]
    by_cases here : i = k
    · subst here
      rw [List.getElem?_set_self (by rwa [live_pairs_length])]
      simp [State.setPair]
    · rw [List.getElem?_set_ne here, live_pairs_get s k inside]
      simp [State.setPair, Ne.symm here]
  · have outside : s.duo.pairCount.toNat ≤ k := Nat.le_of_not_lt inside
    rw [List.getElem?_eq_none (by rwa [live_pairs_length]),
      List.getElem?_eq_none (by rwa [List.length_set, live_pairs_length])]

theorem tick_node_duo (s : State) (i : Nat) : (tickNode s i).duo = s.duo := by
  by_cases idle : !(s.nodes i).present || !(s.nodes i).online
  · simp only [tickNode, idle, if_true]
  · simp only [tickNode, idle]
    simp

theorem tick_duo (s : State) : (dhTickOnceLocked s).duo = s.duo := by
  -- The walk writes nodes and events only.
  apply Trace.run_invariant tickNode (fun t => t.duo = s.duo)
  · intro t i same
    exact (tick_node_duo t i).trans same
  · exact bump_duo s

theorem set_field_duo (s : State) (id : UInt32) (change : Node → Node)
    (message : Node → List UInt8) : (setNodeField s id change message).1.duo = s.duo := by
  unfold setNodeField
  split <;> rfl

theorem duo_add_pairs (s : State) (a b mode : UInt32) :
    PairStep s (dhDuoAddPairLocked s a b mode).1 := by
  rcases duo_add_cases s a b mode with ⟨_, failed⟩ | ⟨_, room, _, _, _, _, count, pairs⟩
  · exact .kept (by rw [failed])
  · exact .added a b mode (live_pairs_append s _ _ room count pairs)

theorem duo_del_pairs (s : State) (pairId : UInt32) :
    PairStep s (dhDuoDelPairLocked s pairId).1 := by
  rcases duo_del_cases s pairId with ⟨_, failed⟩ | ⟨i, found, _, count, pairs⟩
  · exact .kept (by rw [failed])
  · have inside := (pair_lookup_some s pairId i found).1
    exact .deleted i (by rwa [live_pairs_length]) (live_pairs_erase s _ i inside count pairs)

theorem duo_pulse_pairs (s : State) (pairId value : UInt32) :
    PairStep s (dhDuoPulseLocked s pairId value).1 := by
  rcases duo_pulse_cases s pairId value with failed | ⟨i, found, _, _, p, pulsed, duo, _⟩
  · exact .kept (by rw [failed])
  · have inside := (pair_lookup_some s pairId i found).1
    exact .pulsed i _ _ _ _ (live_pairs_get s i inside) (pulsed ▸ live_pairs_set s _ i p duo)

/-- Only the three duo operations touch the duo table. -/
theorem step_duo (s : State) (command : Command) :
    (step s command).duo =
      match command with
      | .duoAdd a b mode => (dhDuoAddPairLocked s a b mode).1.duo
      | .duoDel pairId => (dhDuoDelPairLocked s pairId).1.duo
      | .duoPulse pairId value => (dhDuoPulseLocked s pairId value).1.duo
      | _ => s.duo := by
  cases command with
  | add id name =>
      rcases add_node_cases s id name with ⟨_, failed⟩ | ⟨_, _, _, duo, _⟩
      · exact congrArg State.duo failed
      · exact duo
  | del id =>
      rcases del_node_cases s id with ⟨_, failed⟩ | ⟨_, _, _, duo, _⟩
      · exact congrArg State.duo failed
      · exact duo
  | link a b =>
      rcases link_cases s a b true with failed | ⟨_, _, _, duo, _⟩
      · exact congrArg State.duo failed
      · exact duo
  | unlink a b =>
      rcases link_cases s a b false with failed | ⟨_, _, _, duo, _⟩
      · exact congrArg State.duo failed
      · exact duo
  | online id value => exact set_field_duo s id _ _
  | energy id value => exact set_field_duo s id _ _
  | health id value => exact set_field_duo s id _ _
  | tick => rw [step_tick, tick_duo]
  | duoAdd a b mode => rw [step_duo_add]
  | interactive | tickMs | snapshot | help | duoSnapshot | duoDel | duoPulse => rfl

theorem pair_step (s : State) (command : Command) : PairStep s (step s command) := by
  cases command with
  | duoAdd a b mode =>
      rw [step_duo_add]
      exact duo_add_pairs s a b mode
  | duoDel pairId => exact duo_del_pairs s pairId
  | duoPulse pairId value => exact duo_pulse_pairs s pairId value
  | _ => exact .kept (live_pairs_of_duo s _ (step_duo s _))

/-- A step keeps a property of all live pairs that new pairs start with and
that a pulse between two present endpoints keeps. -/
theorem live_pairs_step (property : DuoPair → Prop) (s : State) (command : Command)
    (fresh : ∀ pairId a b mode, a ≠ b →
      property (dhDuoRecomputeSimplexLocked (freshPair pairId a b mode)))
    (pulsed : ∀ i value, s.duo.pairs i ∈ livePairs s →
      dhLookupNodeLocked s (s.duo.pairs i).a = some (s.duo.pairs i).a.toNat →
      dhLookupNodeLocked s (s.duo.pairs i).b = some (s.duo.pairs i).b.toNat →
      property (pulsedPair (s.duo.pairs i) (s.nodes (s.duo.pairs i).a.toNat)
        (s.nodes (s.duo.pairs i).b.toNat) (dhClampU32 value 0 1000000)))
    (holds : ∀ p ∈ livePairs s, property p) : ∀ p ∈ livePairs (step s command), property p := by
  intro p member
  cases command with
  | duoPulse pairId value =>
      rcases duo_pulse_cases s pairId value with
        failed | ⟨i, found, foundA, foundB, q, after, duo, _⟩
      · rw [step, execute, failed] at member
        exact holds p member
      · have live := (mem_live_pairs s _).mpr ⟨i, (pair_lookup_some s pairId i found).1, rfl⟩
        rw [step, execute, live_pairs_set s _ i q duo] at member
        rcases List.mem_or_eq_of_mem_set member with old | here
        · exact holds p old
        · exact here ▸ after ▸ pulsed i value live foundA foundB
  | duoAdd a b mode =>
      rw [step_duo_add] at member
      rcases duo_add_cases s a b mode with ⟨_, failed⟩ | ⟨_, room, apart, _, _, _, count, after⟩
      · rw [failed] at member
        exact holds p member
      · rw [live_pairs_append s _ _ room count after, List.mem_append, List.mem_singleton]
          at member
        rcases member with old | here
        · exact holds p old
        · exact here ▸ fresh _ a b mode apart
  | duoDel pairId =>
      rcases duo_del_cases s pairId with ⟨_, failed⟩ | ⟨i, found, _, count, after⟩
      · rw [step, execute, failed] at member
        exact holds p member
      · rw [step, execute,
          live_pairs_erase s _ i (pair_lookup_some s pairId i found).1 count after] at member
        exact holds p (List.mem_of_mem_eraseIdx member)
  | _ =>
      rw [live_pairs_of_duo s _ (step_duo s _)] at member
      exact holds p member

/-- The cached ladder is the one the current inputs give. -/
def Coherent (p : DuoPair) : Prop := p.simplex = (dhDuoRecomputeSimplexLocked p).simplex

theorem recompute_coherent (p : DuoPair) : Coherent (dhDuoRecomputeSimplexLocked p) :=
  recompute_congr p _ rfl rfl rfl rfl rfl

/-- A property of every recomputed pair holds of all live pairs. -/
theorem live_pairs_recomputed (property : DuoPair → Prop)
    (recomputed : ∀ p, property (dhDuoRecomputeSimplexLocked p)) (s : State)
    (reachable : Reachable s) : ∀ p ∈ livePairs s, property p := by
  apply reachable_invariant (fun s => ∀ p ∈ livePairs s, property p) ?_ ?_ s reachable
  · intro p member
    simp [livePairs, registered] at member
  · -- Deletion moves records without changing them; all others are written by a recomputation.
    intro s command holds p member
    cases pair_step s command with
    | kept same => exact holds p (same ▸ member)
    | added a b mode after =>
        rw [after, List.mem_append, List.mem_singleton] at member
        rcases member with old | fresh
        · exact holds p old
        · exact fresh ▸ recomputed _
    | deleted i inside after =>
        rw [after] at member
        exact holds p (List.mem_of_mem_eraseIdx member)
    | pulsed i q na nb valuePpm found after =>
        rw [after] at member
        rcases List.mem_or_eq_of_mem_set member with old | fresh
        · exact holds p old
        · exact fresh ▸ recomputed _

/-- No live pair is stale: its ladder is the one recomputed from any pair with
the same mode, quotient, refraction, energy and pressure, and all 22 levels
of it lie in the band. -/
theorem reachable_ladder_coherent (s : State) (reachable : Reachable s) (i : Nat)
    (live : i < s.duo.pairCount.toNat) :
    (∀ q : DuoPair, q.mode = (s.duo.pairs i).mode →
        q.quotientPpm = (s.duo.pairs i).quotientPpm →
        q.refractionPpm = (s.duo.pairs i).refractionPpm →
        q.energyPpm = (s.duo.pairs i).energyPpm → q.pressurePpm = (s.duo.pairs i).pressurePpm →
        (s.duo.pairs i).simplex = (dhDuoRecomputeSimplexLocked q).simplex) ∧
      (s.duo.pairs i).simplex.levels.length = dawnhexSimplexLevels ∧
      ∀ level ∈ (s.duo.pairs i).simplex.levels, LevelBand level := by
  have member := (mem_live_pairs s (s.duo.pairs i)).mpr ⟨i, live, rfl⟩
  have coherent := live_pairs_recomputed Coherent recompute_coherent s reachable _ member
  refine ⟨?_, ?_, ?_⟩
  · intro q mode quotient refraction energy pressure
    rw [coherent]
    exact (recompute_congr q _ mode quotient refraction energy pressure).symm
  · rw [coherent]
    exact recompute_levels _
  · intro level inside
    rw [coherent] at inside
    exact recompute_band _ level inside

/-- The pair a client creates on the first link, after one pulse. -/
def pulsedOnce : State := Trace.run step dawnhexInit [.duoAdd 0 1 1, .duoPulse 1 750000]

theorem ladder_coherent_after_pulse :
    (pulsedOnce.duo.pairs 0).simplex =
        (dhDuoRecomputeSimplexLocked (pulsedOnce.duo.pairs 0)).simplex ∧
      (pulsedOnce.duo.pairs 0).simplex.levels.length = 22 := by
  have live : 0 < pulsedOnce.duo.pairCount.toNat := by decide +kernel
  have coherent := reachable_ladder_coherent pulsedOnce ⟨_, rfl⟩ 0 live
  exact ⟨coherent.1 _ rfl rfl rfl rfl rfl, coherent.2.1⟩

end RyzenBuild.DawnHex
