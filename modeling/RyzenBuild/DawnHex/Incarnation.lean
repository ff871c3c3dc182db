import RyzenBuild.DawnHex.Pairs

/-!
Referential integrity of the duo table. A pair holds node ids, and a slot can
be emptied and filled again; a ghost record numbers the nodes that lived in
each slot and remembers which of them every live pair was created on.
-/
namespace RyzenBuild.DawnHex

open Kernel Ladder Memory

/-- `incarnation i` counts the nodes added under id `i` so far, and `births`
has, in table order, the incarnations of the endpoints each pair was created on. -/
structure Tracked where
  state : State
  incarnation : Nat → Nat
  births : List (Nat × Nat)

def nextIncarnation (t : Tracked) : Command → Nat → Nat
  | .add id name, i =>
      match (dhAddNodeLocked t.state id name).2 with
      | none => if i = id.toNat then t.incarnation i + 1 else t.incarnation i
      | some _ => t.incarnation i
  | _, i => t.incarnation i

def nextBirths (t : Tracked) : Command → List (Nat × Nat)
  | .duoAdd a b mode =>
      match (dhDuoAddPairLocked t.state a b mode).2 with
      | .ok _ => t.births ++ [(t.incarnation a.toNat, t.incarnation b.toNat)]
      | .error _ => t.births
  | .duoDel pairId =>
      match dhDuoLookupPairLocked t.state pairId with
      | some i => t.births.eraseIdx i
      | none => t.births
  | _ => t.births

def trackedStep (t : Tracked) (command : Command) : Tracked :=
  ⟨step t.state command, nextIncarnation t command, nextBirths t command⟩

def trackedInit : Tracked :=
  Trace.run trackedStep ⟨registered, fun _ => 0, []⟩ initCommands

/-- The endpoints of a pair are distinct, present, and the nodes the pair was
created on. -/
structure Attached (t : Tracked) (p : DuoPair) (birth : Nat × Nat) : Prop where
  distinct : p.a ≠ p.b
  first : p.a.toNat < dawnhexMaxNodes ∧ present t.state p.a.toNat = true
  second : p.b.toNat < dawnhexMaxNodes ∧ present t.state p.b.toNat = true
  first_birth : birth.1 = t.incarnation p.a.toNat
  second_birth : birth.2 = t.incarnation p.b.toNat

def Integrity (t : Tracked) : Prop :=
  ∀ (i : Nat) (p : DuoPair), (livePairs t.state)[i]? = some p →
    ∃ birth : Nat × Nat, t.births[i]? = some birth ∧ Attached t p birth

/-- The step does not delete a present endpoint of a live pair. -/
def SparesEndpoints (t : Tracked) (command : Command) : Prop :=
  ∀ id, command = .del id → id.toNat < dawnhexMaxNodes → present t.state id.toNat = true →
    ∀ p ∈ livePairs t.state, p.a ≠ id ∧ p.b ≠ id

def Recorded (t : Tracked) : Prop := t.births.length = (livePairs t.state).length

/-- The ghost record does not influence the module. -/
theorem tracked_state (start : Tracked) (commands : List Command) :
    (Trace.run trackedStep start commands).state = Trace.run step start.state commands := by
  induction commands generalizing start with
  | nil => rfl
  | cons command rest ih => exact ih (trackedStep start command)

theorem add_presence (s : State) (id : UInt32) (name : List UInt8) (i : Nat)
    (inside : i < dawnhexMaxNodes) :
    present (dhAddNodeLocked s id name).1 i = (present s i || decide (i = id.toNat)) := by
  rcases add_node_cases s id name with ⟨error, failed⟩ | ⟨_, _, _, _, nodes⟩
  · rw [failed]
    by_cases same : i = id.toNat
    · -- An add inside the table only fails on a slot in use.
      cases member : present s i with
      | true => rfl
      | false =>
          have within : ¬ id.toNat ≥ dawnhexMaxNodes := by omega
          have free : (s.nodes id.toNat).present = false := same ▸ member
          simp [dhAddNodeLocked, within, free] at error
    · simp [same]
  · by_cases same : i = id.toNat <;> simp [present, nodes, same]

theorem del_presence (s : State) (id : UInt32) (i : Nat) (inside : i < dawnhexMaxNodes) :
    present (dhDelNodeLocked s id).1 i = (present s i && !decide (i = id.toNat)) := by
  rcases del_node_cases s id with ⟨error, failed⟩ | ⟨_, _, _, _, nodes⟩
  · rw [failed]
    by_cases same : i = id.toNat
    · cases member : present s i with
      | false => rfl
      | true =>
          have within : ¬ id.toNat ≥ dawnhexMaxNodes := by omega
          have used : (s.nodes id.toNat).present = true := same ▸ member
          simp [dhDelNodeLocked, within, used] at error
    · simp [same]
  · simp only [present, nodes i inside]
    by_cases same : i = id.toNat
    · simp [same, Node.zero]
    · simp [same]

theorem link_presence (s : State) (a b : UInt32) (enable : Bool) (i : Nat) :
    present (dhLinkLocked s a b enable).1 i = present s i := by
  rcases link_cases s a b enable with failed | ⟨_, _, _, _, nodes⟩
  · rw [failed]
  · simp only [present, nodes i]
    split
    · rfl
    · split <;> rfl

theorem step_presence (s : State) (command : Command) (i : Nat) (inside : i < dawnhexMaxNodes) :
    present (step s command) i =
      match command with
      | .add id _ => present s i || decide (i = id.toNat)
      | .del id => present s i && !decide (i = id.toNat)
      | _ => present s i := by
  cases command with
  | add id name => exact add_presence s id name i inside
  | del id => exact del_presence s id i inside
  | link a b => exact link_presence s a b true i
  | unlink a b => exact link_presence s a b false i
  | _ => exact (quiet_topology s _ rfl).present i

/-- The births stay parallel to the live pairs through every operation. -/
theorem recorded_step (t : Tracked) (command : Command) (recorded : Recorded t) :
    Recorded (trackedStep t command) := by
  unfold Recorded trackedStep nextBirths at *
  cases command with
  | duoAdd a b mode =>
      simp only [step_duo_add]
      rcases duo_add_cases t.state a b mode with
        ⟨⟨e, error⟩, failed⟩ | ⟨done, room, _, _, _, _, count, pairs⟩
      · rw [error, failed]
        exact recorded
      · rw [done, live_pairs_append _ _ _ room count pairs]
        simp [recorded]
  | duoDel pairId =>
      simp only [step, execute]
      rcases duo_del_cases t.state pairId with ⟨missing, failed⟩ | ⟨i, found, _, count, pairs⟩
      · rw [missing, failed]
        exact recorded
      · have inside := (pair_lookup_some _ _ _ found).1
        rw [found, live_pairs_erase _ _ i inside count pairs]
        simp [List.length_eraseIdx, recorded]
  | duoPulse pairId value =>
      simp only [step, execute]
      rcases duo_pulse_cases t.state pairId value with failed | ⟨i, _, _, _, p, _, duo, _⟩
      · rw [failed]
        exact recorded
      · rw [live_pairs_set _ _ i p duo, List.length_set]
        exact recorded
  | _ =>
      rw [live_pairs_of_duo _ _ (step_duo t.state _)]
      exact recorded

/-- An endpoint that stays present keeps its incarnation: a slot in use
cannot be filled again. -/
theorem incarnation_kept (t : Tracked) (command : Command) (i : Nat)
    (member : present t.state i = true) : nextIncarnation t command i = t.incarnation i := by
  cases command with
  | add id name =>
      rcases add_node_cases t.state id name with ⟨error, _⟩ | ⟨done, _, absent, _⟩
      · cases result : (dhAddNodeLocked t.state id name).2 with
        | none => exact absurd result error
        | some e => simp [nextIncarnation, result]
      · have other : i ≠ id.toNat := by
          rintro rfl
          simp [present, absent] at member
        simp [nextIncarnation, done, other]
  | _ => rfl

theorem attached_step (t : Tracked) (command : Command) (p q : DuoPair) (birth : Nat × Nat)
    (attached : Attached t p birth) (sameA : q.a = p.a) (sameB : q.b = p.b)
    (spared : ∀ id, command = .del id → p.a ≠ id ∧ p.b ≠ id) :
    Attached (trackedStep t command) q birth := by
  have stays : ∀ id : UInt32, (∀ other, command = .del other → id ≠ other) →
      id.toNat < dawnhexMaxNodes ∧ present t.state id.toNat = true →
      id.toNat < dawnhexMaxNodes ∧ present (step t.state command) id.toNat = true := by
    rintro id apart ⟨inside, member⟩
    refine ⟨inside, ?_⟩
    rw [step_presence _ _ _ inside]
    -- Only a `del` of the endpoint itself could take its flag.
    cases command with
    | add other name => simp [member]
    | del other =>
        have distinct : id.toNat ≠ other.toNat := fun equal =>
          apart other rfl (UInt32.toNat_inj.mp equal)
        simp [member, distinct]
    | _ => exact member
  exact
    { distinct := by rw [sameA, sameB]; exact attached.distinct
      first := by
        rw [sameA]
        exact stays p.a (fun id same => (spared id same).1) attached.first
      second := by
        rw [sameB]
        exact stays p.b (fun id same => (spared id same).2) attached.second
      first_birth := by
        rw [sameA]
        exact attached.first_birth.trans (incarnation_kept t command _ attached.first.2).symm
      second_birth := by
        rw [sameB]
        exact attached.second_birth.trans (incarnation_kept t command _ attached.second.2).symm }

/-- After a step every live pair is an old one with its birth, or the one the
step created on the nodes now present. -/
theorem pair_origin (t : Tracked) (command : Command) (recorded : Recorded t) (i : Nat)
    (q : DuoPair) (found : (livePairs (step t.state command))[i]? = some q) :
    (∃ (j : Nat) (p : DuoPair), (livePairs t.state)[j]? = some p ∧ q.a = p.a ∧ q.b = p.b ∧
        (nextBirths t command)[i]? = t.births[j]?) ∨
      ∃ birth : Nat × Nat, (nextBirths t command)[i]? = some birth ∧
        Attached (trackedStep t command) q birth := by
  cases command with
  | duoAdd a b mode =>
      rw [step_duo_add] at found
      rcases duo_add_cases t.state a b mode with
        ⟨⟨e, error⟩, failed⟩ | ⟨done, room, distinct, foundA, foundB, _, count, pairs⟩
      · rw [failed] at found
        exact Or.inl ⟨i, q, found, rfl, rfl, by simp [nextBirths, error]⟩
      · rw [live_pairs_append _ _ _ room count pairs] at found
        by_cases old : i < (livePairs t.state).length
        · rw [List.getElem?_append_left old] at found
          refine Or.inl ⟨i, q, found, rfl, rfl, ?_⟩
          simp only [nextBirths, done]
          rw [List.getElem?_append_left (recorded ▸ old)]
        · -- Behind the old pairs there is one index, that of the new pair.
          rw [List.getElem?_append_right (Nat.le_of_not_lt old)] at found
          obtain ⟨here, value⟩ := List.getElem?_eq_some_iff.mp found
          have last : i = (livePairs t.state).length := by
            rw [List.length_singleton] at here
            omega
          subst last
          simp only [Nat.sub_self, List.getElem_cons_zero] at value
          subst value
          obtain ⟨_, insideA, memberA⟩ := (lookup_some _ _ _).mp foundA
          obtain ⟨_, insideB, memberB⟩ := (lookup_some _ _ _).mp foundB
          refine Or.inr ⟨(t.incarnation a.toNat, t.incarnation b.toNat), ?_, ?_⟩
          · simp only [nextBirths, done]
            rw [← recorded, List.getElem?_concat_length]
          · exact
              { distinct := distinct
                first := ⟨insideA, (step_presence _ _ _ insideA).trans memberA⟩
                second := ⟨insideB, (step_presence _ _ _ insideB).trans memberB⟩
                first_birth := rfl
                second_birth := rfl }
  | duoDel pairId =>
      refine Or.inl ?_
      rcases duo_del_cases t.state pairId with ⟨missing, failed⟩ | ⟨hole, hit, _, count, pairs⟩
      · rw [step, execute, failed] at found
        exact ⟨i, q, found, rfl, rfl, by simp [nextBirths, missing]⟩
      · have inside := (pair_lookup_some _ _ _ hit).1
        rw [step, execute, live_pairs_erase _ _ hole inside count pairs,
          List.getElem?_eraseIdx] at found
        simp only [nextBirths, hit, List.getElem?_eraseIdx]
        by_cases before : i < hole
        · rw [if_pos before] at found
          exact ⟨i, q, found, rfl, rfl, by rw [if_pos before]⟩
        · rw [if_neg before] at found
          exact ⟨i + 1, q, found, rfl, rfl, by rw [if_neg before]⟩
  | duoPulse pairId value =>
      refine Or.inl ?_
      rcases duo_pulse_cases t.state pairId value with failed | ⟨k, hit, _, _, p, pulsed, duo, _⟩
      · rw [step, execute, failed] at found
        exact ⟨i, q, found, rfl, rfl, rfl⟩
      · have inside := (pair_lookup_some _ _ _ hit).1
        rw [step, execute, live_pairs_set _ _ k p duo] at found
        by_cases same : k = i
        · subst same
          rw [List.getElem?_set_self (by rwa [live_pairs_length])] at found
          obtain rfl := Option.some.inj found
          exact ⟨k, _, live_pairs_get _ k inside, by rw [pulsed]; rfl, by rw [pulsed]; rfl, rfl⟩
        · rw [List.getElem?_set_ne same] at found
          exact ⟨i, q, found, rfl, rfl, rfl⟩
  | _ =>
      rw [live_pairs_of_duo _ _ (step_duo t.state _)] at found
      exact Or.inl ⟨i, q, found, rfl, rfl, rfl⟩

theorem integrity_step (t : Tracked) (command : Command) (recorded : Recorded t)
    (integrity : Integrity t) (spares : SparesEndpoints t command) :
    Integrity (trackedStep t command) := by
  intro i q found
  rcases pair_origin t command recorded i q found with
    ⟨j, p, old, sameA, sameB, kept⟩ | ⟨birth, noted, attached⟩
  · obtain ⟨birth, noted, attached⟩ := integrity j p old
    refine ⟨birth, kept.trans noted, attached_step t command p q birth attached sameA sameB ?_⟩
    rintro id rfl
    by_cases used : id.toNat < dawnhexMaxNodes ∧ present t.state id.toNat = true
    · exact spares id rfl used.1 used.2 p (List.mem_of_getElem? old)
    · -- A `del` that fails cannot hit an endpoint: endpoints are present.
      constructor
      · rintro rfl
        exact used attached.first
      · rintro rfl
        exact used attached.second
  · exact ⟨birth, noted, attached⟩

theorem integrity_spares (t : Tracked) (command : Command)
    (after : Integrity (trackedStep t command)) : SparesEndpoints t command := by
  rintro id rfl inside _ p member
  obtain ⟨i, found⟩ := List.mem_iff_getElem?.mp member
  -- The pair is still listed after the `del`, now with its endpoint gone.
  have live : (livePairs (trackedStep t (.del id)).state)[i]? = some p := by
    rw [trackedStep, live_pairs_of_duo _ _ (step_duo t.state _)]
    exact found
  obtain ⟨_, _, attached⟩ := after i p live
  have emptied : present (step t.state (.del id)) id.toNat = false := by
    simp [step_presence t.state (.del id) id.toNat inside]
  constructor
  · rintro rfl
    exact absurd attached.first.2 (by simp [trackedStep, emptied])
  · rintro rfl
    exact absurd attached.second.2 (by simp [trackedStep, emptied])

/-- Every live pair of every state of a run keeps its two distinct, present,
original endpoints exactly if no step of the run deletes a present endpoint
of a live pair. -/
theorem pair_integrity_iff (commands : List Command) :
    Trace.Always trackedStep Integrity trackedInit commands ↔
      Trace.Steps trackedStep SparesEndpoints trackedInit commands := by
  have empty : livePairs trackedInit.state = [] := by decide +kernel
  apply Trace.always_iff_steps trackedStep SparesEndpoints Recorded Integrity
  · intro t command recorded
    exact recorded_step t command recorded
  · intro t command recorded integrity
    exact ⟨integrity_spares t command, integrity_step t command recorded integrity⟩
  · rw [Recorded, empty]
    rfl
  · intro i p found
    simp [empty] at found

/-- Node deletion leaves the pair table alone: the pair on nodes 0 and 1
survives the deletion of node 0 and is then on the next node added as 0. -/
theorem pair_reattaches :
    ¬ ∀ commands, Integrity (Trace.run trackedStep trackedInit commands) := by
  intro claim
  have integrity := claim [.duoAdd 0 1 1, .del 0, .add 0 (text "other")]
  obtain ⟨birth, noted, attached⟩ := integrity 0 _ (live_pairs_get _ 0 (by decide +kernel))
  have created : birth = (1, 1) := by
    refine Option.some.inj (noted.symm.trans ?_)
    decide +kernel
  have current : birth.1 = 2 := by
    refine attached.first_birth.trans ?_
    decide +kernel
  simp [created] at current

end RyzenBuild.DawnHex
