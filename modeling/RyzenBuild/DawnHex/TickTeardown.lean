import RyzenBuild.DawnHex.TickWork

/-!
`dawnhex_exit` cancels the tick work before `misc_deregister` takes away the
attribute that can schedule it again. What decides the outcome is the last
store that schedules or cancels in between.
-/
namespace RyzenBuild.TickWork

open DawnHex WorkQueue

/-- Once the exit function has returned, the tick work is not pending. -/
def Unloaded (s : System) : Prop := s.module = .returned → s.work.pending = false

/-- `misc_deregister` does not return while the last store to schedule or cancel
since the exit function's own cancel has scheduled. -/
def Disarmed (s : System) : Event → Prop
  | .module => s.module = .cancelled → s.calls.all Call.returned = true → s.rearmed = false
  | _ => True

instance (s : System) : (event : Event) → Decidable (Disarmed s event)
  | .module =>
      inferInstanceAs (Decidable
        (s.module = .cancelled → s.calls.all Call.returned = true → s.rearmed = false))
  | .enter _ | .call _ | .command _ | .timer | .worker => isTrue trivial

/-- What the exit function's stage says about the work. -/
structure Winding (s : System) : Prop where
  coherent : Coherent s
  armedLate : s.rearmed = true → s.module = .cancelled ∨ s.module = .returned
  exiting : .exit ∈ s.work.cancellers ↔ s.module = .cancelling
  quiet : s.module = .cancelled ∨ s.module = .returned → s.rearmed = false →
    s.work.pending = false ∧ s.work.running = none
  drained : s.module = .returned → s.calls.all Call.returned = true

theorem published_winding : Winding published where
  coherent := published_coherent
  armedLate armed := by cases armed
  exiting := by simp [published, WorkItem.idle]
  quiet stage := by rcases stage with stage | stage <;> cases stage
  drained stage := by cases stage

/-- No call moves once `misc_deregister` has returned. -/
theorem Winding.no_call {s : System} (winding : Winding s) (k : Nat) (mover : Call)
    (was : s.calls[k]? = some mover) (stage : CallStage) (here : mover.stage = stage)
    (active : stage ≠ .done) (gone : s.module = .returned) : False := by
  have all := List.all_eq_true.mp (winding.drained gone) mover (List.mem_of_getElem? was)
  simp only [Call.returned, here, beq_iff_eq] at all
  exact active all

section Step

variable {s t : System} {event : Event} (winding : Winding s) (moves : Moves s event t)

include winding moves

theorem Winding.armedLate_moves (armed : t.rearmed = true) :
    t.module = .cancelled ∨ t.module = .returned := by
  cases moves with
  | schedule k mover was stage on =>
      rcases Bool.or_eq_true_iff.mp armed with before | late
      · exact winding.armedLate before
      · exact Or.inl (by simpa using late)
  | endCancel => cases armed
  | populate stage | load stage | exit stage | cancelled stage =>
      rcases winding.armedLate armed with late | late <;> cases stage.symm.trans late
  | deregistered stage drained => exact Or.inr rfl
  | enter | takeLock | setFlag | beginCancel | leave | command | timer | tickLock | tick
  | reread | rearm | finish => exact winding.armedLate armed

theorem Winding.exiting_moves : .exit ∈ t.work.cancellers ↔ t.module = .cancelling := by
  have before := winding.exiting
  cases moves with
  | schedule | rearm => simpa [WorkItem.advance] using before
  | beginCancel => simpa [WorkItem.beginCancel] using before
  | endCancel => simpa [WorkItem.endCancel] using before
  | populate stage | load stage | deregistered stage => simpa [stage] using before
  | exit stage => simp [WorkItem.beginCancel]
  | cancelled stage => simp [WorkItem.endCancel]
  | enter | takeLock | setFlag | leave | command | timer | tickLock | tick | reread | finish =>
      exact before

theorem Winding.drained_moves (returned : t.module = .returned) :
    t.calls.all Call.returned = true := by
  cases moves with
  | enter request admitted =>
      rw [System.admits, show s.module = .returned from returned] at admitted
      cases admitted
  | takeLock k mover was stage => exact (winding.no_call k mover was _ stage nofun returned).elim
  | setFlag k mover was stage => exact (winding.no_call k mover was _ stage nofun returned).elim
  | schedule k mover was stage => exact (winding.no_call k mover was _ stage nofun returned).elim
  | beginCancel k mover was stage =>
      exact (winding.no_call k mover was _ stage nofun returned).elim
  | endCancel k mover was stage => exact (winding.no_call k mover was _ stage nofun returned).elim
  | leave k mover was stage => exact (winding.no_call k mover was _ stage nofun returned).elim
  | populate | load | exit | cancelled => cases returned
  | deregistered stage drained => exact drained
  | command | timer | tickLock | tick | reread | rearm | finish => exact winding.drained returned

/-- The exit function is gone already, or this step is its last; in neither case
does the history change. -/
theorem Winding.returned_moves (returned : t.module = .returned) :
    t.rearmed = s.rearmed ∧
      (s.module = .returned ∨
        event = .module ∧ s.module = .cancelled ∧ s.calls.all Call.returned = true) := by
  cases moves with
  | schedule k mover was stage => exact (winding.no_call k mover was _ stage nofun returned).elim
  | endCancel k mover was stage => exact (winding.no_call k mover was _ stage nofun returned).elim
  | populate | load | exit | cancelled => cases returned
  | deregistered stage drained => exact ⟨rfl, Or.inr ⟨rfl, stage, drained⟩⟩
  | enter | takeLock | setFlag | beginCancel | leave | command | timer | tickLock | tick
  | reread | rearm | finish => exact ⟨rfl, Or.inl returned⟩

theorem Winding.quiet_moves (late : t.module = .cancelled ∨ t.module = .returned)
    (disarmed : t.rearmed = false) : t.work.pending = false ∧ t.work.running = none := by
  cases moves with
  | schedule k mover was stage on =>
      obtain ⟨before, never⟩ := Bool.or_eq_false_iff.mp disarmed
      rcases late with late | gone
      · simp [show s.module = .cancelled from late] at never
      · exact (winding.no_call k mover was _ stage nofun gone).elim
  | beginCancel k mover was stage off => exact ⟨rfl, (winding.quiet late disarmed).2⟩
  | endCancel k mover was stage idle =>
      have member := winding.coherent.cancelling k mover was stage
      exact ⟨winding.coherent.blocked (List.ne_nil_of_mem member), idle⟩
  | timer pending idle => cases pending.symm.trans (winding.quiet late disarmed).1
  | tickLock running => cases running.symm.trans (winding.quiet late disarmed).2
  | tick cluster running => cases running.symm.trans (winding.quiet late disarmed).2
  | reread running => cases running.symm.trans (winding.quiet late disarmed).2
  | rearm running => cases running.symm.trans (winding.quiet late disarmed).2
  | finish running => cases running.symm.trans (winding.quiet late disarmed).2
  | populate | load | exit => rcases late with late | late <;> cases late
  | cancelled stage idle =>
      have member := winding.exiting.mpr stage
      exact ⟨winding.coherent.blocked (List.ne_nil_of_mem member), idle⟩
  | deregistered stage drained => exact winding.quiet (Or.inl stage) disarmed
  | enter | takeLock | setFlag | leave | command => exact winding.quiet late disarmed

end Step

theorem advance_winding (s : System) (event : Event) (winding : Winding s) :
    Winding (advance s event) := by
  rcases advance_moves s event with waits | moves
  · rw [waits]
    exact winding
  · exact
      { coherent := advance_coherent s event winding.coherent
        armedLate := winding.armedLate_moves moves
        exiting := winding.exiting_moves moves
        quiet := winding.quiet_moves moves
        drained := winding.drained_moves moves }

theorem returned_stays (s : System) (event : Event) (gone : s.module = .returned) :
    (advance s event).module = .returned := by
  rcases advance_moves s event with waits | moves
  · rw [waits]
    exact gone
  · generalize advance s event = t at moves
    cases moves with
    | populate stage | load stage | exit stage | cancelled stage | deregistered stage =>
        cases stage.symm.trans gone
    | enter | takeLock | setFlag | schedule | beginCancel | endCancel | leave | command
    | timer | tickLock | tick | reread | rearm | finish => exact gone

theorem disarmed_when_gone (s : System) (event : Event) (gone : s.module = .returned) :
    Disarmed s event := by
  cases event with
  | module =>
      intro stage
      cases stage.symm.trans gone
  | enter | call | command | timer | worker => trivial

/-- What disarmed steps keep. -/
def Safe (s : System) : Prop := Winding s ∧ (s.module = .returned → s.rearmed = false)

theorem advance_safe (s : System) (event : Event) (safe : Safe s) (disarmed : Disarmed s event) :
    Safe (advance s event) := by
  refine ⟨advance_winding s event safe.1, fun returned => ?_⟩
  rcases advance_moves s event with waits | moves
  · rw [waits] at returned ⊢
    exact safe.2 returned
  · obtain ⟨same, gone | ⟨exits, cancelled, drained⟩⟩ := safe.1.returned_moves moves returned
    · exact same.trans (safe.2 gone)
    · subst exits
      exact same.trans (disarmed cancelled drained)

theorem safe_unloaded (s : System) (safe : Safe s) : Unloaded s := fun returned =>
  (safe.1.quiet (Or.inr returned) (safe.2 returned)).1

/-- A run whose steps are all disarmed leaves nothing pending behind. -/
theorem disarmed_unloads (events : List Event)
    (disarmed : Trace.Steps advance Disarmed published events) :
    Trace.Always advance Unloaded published events := by
  have init : Safe published := ⟨published_winding, nofun⟩
  exact Trace.always_mono advance Safe Unloaded safe_unloaded published events
    (Trace.always_of_steps advance Disarmed Safe advance_safe published events init disarmed)

/-- A call is about to take the work away, or is waiting for it to end. -/
def Disarming (s : System) : Prop :=
  ∃ (k : Nat) (call : Call), s.calls[k]? = some call ∧
    (call.stage = .flagged ∧ call.request.value = false ∨ call.stage = .cancelling)

/-- The tick will be pending again unless a call stops it. -/
def Armed (s : System) : Prop :=
  s.cluster.interactive = true ∧
    (s.work.pending = true ∨ ∃ stage, s.work.running = some stage ∧ stage ≠ .returning)

/-- A scheduled tick keeps itself going. -/
structure Live (s : System) : Prop where
  winding : Winding s
  held : ∀ k, s.lock = some (.call k) →
    ∃ call, s.calls[k]? = some call ∧ call.stage.inside = true
  ticking : s.lock = some .worker → s.work.running = some .ticking
  owners : ∀ k, .call k ∈ s.work.cancellers →
    ∃ call, s.calls[k]? = some call ∧ call.stage = .cancelling
  flag : ∀ (k : Nat) (call : Call), s.calls[k]? = some call → call.stage = .flagged →
    s.cluster.interactive = call.request.value
  armed : s.rearmed = true → Disarming s ∨ Armed s

theorem published_live : Live published where
  winding := published_winding
  held k held := by cases held
  ticking held := by cases held
  owners k member := by cases member
  flag k call found := by cases found
  armed armed := by cases armed

/-- The mover of a step inside the lock is the only call there. -/
theorem Coherent.only {s : System} (coherent : Coherent s) {j k : Nat} {call mover : Call}
    (was : s.calls[k]? = some mover) (inside : mover.stage.inside = true)
    (found : s.calls[j]? = some call) (also : call.stage.inside = true) : j = k := by
  have mine := coherent.inside k mover was inside
  have theirs := coherent.inside j call found also
  cases mine.symm.trans theirs
  rfl

theorem Disarming.kept {s t : System} {k : Nat} {mover : Call} {after : CallStage}
    (disarming : Disarming s) (was : s.calls[k]? = some mover)
    (moved : mover.stage ≠ .flagged ∧ mover.stage ≠ .cancelling)
    (calls : t.calls = (s.setStage k after).calls) : Disarming t := by
  obtain ⟨j, call, found, stage⟩ := disarming
  have other : j ≠ k := by
    rintro rfl
    cases was.symm.trans found
    rcases stage with ⟨flagged, _⟩ | cancelling
    · exact moved.1 flagged
    · exact moved.2 cancelling
  exact ⟨j, call, calls ▸ Threads.kept_modified s.calls _ call k j other found, stage⟩

/-- With the exit function's cancel over and no call in a cancel of its own,
queueing takes effect. -/
theorem Live.queue_pending {s : System} (live : Live s)
    (late : s.module = .cancelled ∨ s.module = .returned)
    (quiet : ∀ (k : Nat) (call : Call), s.calls[k]? = some call → call.stage ≠ .cancelling) :
    s.work.queue.pending = true := by
  apply WorkItem.queue_pending
  rw [List.eq_nil_iff_forall_not_mem]
  intro owner member
  cases owner with
  | exit =>
      have exiting := live.winding.exiting.mp member
      rcases late with late | late <;> cases exiting.symm.trans late
  | call k =>
      obtain ⟨call, found, cancelling⟩ := live.owners k member
      exact quiet k call found cancelling

section Step

variable {s t : System} {event : Event} (live : Live s) (moves : Moves s event t)

include live moves

theorem Live.held_moves (k : Nat) (locked : t.lock = some (.call k)) :
    ∃ call, t.calls[k]? = some call ∧ call.stage.inside = true := by
  -- The mover stays inside, and no other call can be.
  have stays (j : Nat) (mover : Call) (after : CallStage) (was : s.calls[j]? = some mover)
      (inside : mover.stage.inside = true) (next : after.inside = true)
      (lock : s.lock = some (.call k)) :
      ∃ call, (s.setStage j after).calls[k]? = some call ∧ call.stage.inside = true := by
    have mine := live.winding.coherent.inside j mover was inside
    cases mine.symm.trans lock
    exact ⟨{ mover with stage := after }, by simp [System.setStage, was], next⟩
  cases moves with
  | enter request admitted =>
      obtain ⟨call, found, inside⟩ := live.held k locked
      exact ⟨call, Threads.kept_spawned s.calls _ call k found, inside⟩
  | takeLock j mover was stage free =>
      cases locked
      exact ⟨{ mover with stage := .locked }, by simp [System.setStage, was], rfl⟩
  | setFlag j mover was stage => exact stays j mover _ was (by rw [stage]; rfl) rfl locked
  | schedule j mover was stage on => exact stays j mover _ was (by rw [stage]; rfl) rfl locked
  | beginCancel j mover was stage off =>
      exact stays j mover _ was (by rw [stage]; rfl) rfl locked
  | endCancel j mover was stage idle => exact stays j mover _ was (by rw [stage]; rfl) rfl locked
  | leave | tickLock | tick => cases locked
  | command | timer | reread | rearm | finish | populate | load | exit | cancelled
  | deregistered => exact live.held k locked

theorem Live.ticking_moves (locked : t.lock = some .worker) :
    t.work.running = some .ticking := by
  cases moves with
  | takeLock | leave | tick => cases locked
  | tickLock => rfl
  | timer pending idle => cases idle.symm.trans (live.ticking locked)
  | reread running => cases running.symm.trans (live.ticking locked)
  | rearm running => cases running.symm.trans (live.ticking locked)
  | finish running => cases running.symm.trans (live.ticking locked)
  | schedule | load => exact (WorkItem.queue_running s.work).trans (live.ticking locked)
  | enter | setFlag | beginCancel | endCancel | command | populate | exit | cancelled
  | deregistered => exact live.ticking locked

theorem Live.owners_moves (k : Nat) (member : .call k ∈ t.work.cancellers) :
    ∃ call, t.calls[k]? = some call ∧ call.stage = .cancelling := by
  have other (j : Nat) (mover : Call) (after : CallStage) (was : s.calls[j]? = some mover)
      (moved : mover.stage ≠ .cancelling) (before : .call k ∈ s.work.cancellers) :
      ∃ call, (s.setStage j after).calls[k]? = some call ∧ call.stage = .cancelling := by
    obtain ⟨call, found, cancelling⟩ := live.owners k before
    refine ⟨call, Threads.kept_modified s.calls _ call j k ?_ found, cancelling⟩
    rintro rfl
    cases was.symm.trans found
    exact moved cancelling
  cases moves with
  | enter request admitted =>
      obtain ⟨call, found, cancelling⟩ := live.owners k member
      exact ⟨call, Threads.kept_spawned s.calls _ call k found, cancelling⟩
  | takeLock j mover was stage free => exact other j mover _ was (by simp [stage]) member
  | setFlag j mover was stage => exact other j mover _ was (by simp [stage]) member
  | schedule j mover was stage on =>
      rw [WorkItem.queue_cancellers] at member
      exact other j mover _ was (by simp [stage]) member
  | beginCancel j mover was stage off =>
      rcases List.mem_cons.mp member with same | before
      · cases same
        exact ⟨{ mover with stage := .cancelling }, by simp [System.setStage, was], rfl⟩
      · exact other j mover _ was (by simp [stage]) before
  | endCancel j mover was stage idle =>
      obtain ⟨before, different⟩ := List.mem_filter.mp member
      obtain ⟨call, found, cancelling⟩ := live.owners k before
      have apart : k ≠ j := by
        rintro rfl
        simp at different
      exact ⟨call, Threads.kept_modified s.calls _ call j k apart found, cancelling⟩
  | leave j mover was stage => exact other j mover _ was (by simp [stage]) member
  | rearm running =>
      simp only [WorkItem.advance, WorkItem.queue_cancellers] at member
      exact live.owners k member
  | load stage =>
      rw [WorkItem.queue_cancellers] at member
      exact live.owners k member
  | exit stage =>
      rcases List.mem_cons.mp member with same | before
      · cases same
      · exact live.owners k before
  | cancelled stage idle => exact live.owners k (List.mem_filter.mp member).1
  | command | timer | tickLock | tick | reread | finish | populate | deregistered =>
      exact live.owners k member

theorem Live.flag_moves (k : Nat) (call : Call) (found : t.calls[k]? = some call)
    (flagged : call.stage = .flagged) : t.cluster.interactive = call.request.value := by
  -- A call that has moved elsewhere does not stand behind its write.
  have old (j : Nat) (after : CallStage) (next : after ≠ .flagged)
      (called : (s.setStage j after).calls[k]? = some call) :
      s.cluster.interactive = call.request.value := by
    rcases setStage_found s j k after call called with ⟨_, before⟩ | ⟨_, _, _, moved⟩
    · exact live.flag k call before flagged
    · subst moved
      exact absurd flagged next
  cases moves with
  | enter request admitted =>
      rcases Threads.found_spawned s.calls _ call k found with before | ⟨_, fresh⟩
      · exact live.flag k call before flagged
      · subst fresh
        cases flagged
  | setFlag j mover was stage =>
      rcases setStage_found s j k .flagged call found with ⟨other, before⟩ | ⟨_, mine, at_, moved⟩
      · exact absurd (live.winding.coherent.only was (by rw [stage]; rfl) before
          (by rw [flagged]; rfl)) other
      · cases was.symm.trans at_
        subst moved
        rfl
  | takeLock j mover was stage free => exact old j .locked nofun found
  | schedule j mover was stage on => exact old j .settled nofun found
  | beginCancel j mover was stage off => exact old j .cancelling nofun found
  | endCancel j mover was stage idle => exact old j .settled nofun found
  | leave j mover was stage => exact old j .done nofun found
  | command other cluster free same => exact same.trans (live.flag k call found flagged)
  | tick cluster running same => exact same.trans (live.flag k call found flagged)
  | populate stage free cluster same => exact same.trans (live.flag k call found flagged)
  | timer | tickLock | reread | rearm | finish | load | exit | cancelled | deregistered =>
      exact live.flag k call found flagged

theorem Live.armed_moves (late : t.rearmed = true) : Disarming t ∨ Armed t := by
  -- Inside the lock a mover that cancels nothing leaves no other call to.
  have alone (k : Nat) (mover : Call) (was : s.calls[k]? = some mover)
      (inside : mover.stage.inside = true)
      (moved : mover.stage ≠ .flagged ∧ mover.stage ≠ .cancelling) : ¬ Disarming s := by
    rintro ⟨j, call, found, stage⟩
    have also : call.stage.inside = true := by
      rcases stage with ⟨flagged, _⟩ | cancelling
      · rw [flagged]; rfl
      · rw [cancelling]; rfl
    cases live.winding.coherent.only was inside found also
    cases was.symm.trans found
    rcases stage with ⟨flagged, _⟩ | cancelling
    · exact moved.1 flagged
    · exact moved.2 cancelling
  have still (unmoved : t.calls = s.calls) (armed : Armed s → Armed t)
      (before : s.rearmed = true) : Disarming t ∨ Armed t := by
    rcases live.armed before with ⟨k, call, found, stage⟩ | before
    · exact Or.inl ⟨k, call, unmoved ▸ found, stage⟩
    · exact Or.inr (armed before)
  cases moves with
  | enter request admitted =>
      rcases live.armed late with ⟨k, call, found, stage⟩ | armed
      · exact Or.inl ⟨k, call, Threads.kept_spawned s.calls _ call k found, stage⟩
      · exact Or.inr armed
  | takeLock k mover was stage free =>
      rcases live.armed late with disarming | armed
      · exact Or.inl (disarming.kept was (by simp [stage]) rfl)
      · exact Or.inr armed
  | setFlag k mover was stage =>
      cases value : mover.request.value with
      | false =>
          exact Or.inl ⟨k, { mover with stage := .flagged }, by simp [System.setStage, was],
            Or.inl ⟨rfl, value⟩⟩
      | true =>
          rcases live.armed late with disarming | armed
          · exact absurd disarming
              (alone k mover was (by rw [stage]; rfl) (by simp [stage]))
          · exact Or.inr ⟨rfl, armed.2⟩
  | schedule k mover was stage on =>
      have after : s.module = .cancelled ∨ s.module = .returned := by
        rcases Bool.or_eq_true_iff.mp late with before | now
        · exact live.winding.armedLate before
        · exact Or.inl (by simpa using now)
      refine Or.inr ⟨(live.flag k mover was stage).trans on,
        Or.inl (live.queue_pending after ?_)⟩
      intro j call found cancelling
      cases live.winding.coherent.only was (by rw [stage]; rfl) found (by rw [cancelling]; rfl)
      cases was.symm.trans found
      cases stage.symm.trans cancelling
  | beginCancel k mover was stage off =>
      exact Or.inl ⟨k, { mover with stage := .cancelling }, by simp [System.setStage, was],
        Or.inr rfl⟩
  | endCancel => cases late
  | leave k mover was stage =>
      rcases live.armed late with disarming | armed
      · exact absurd disarming (alone k mover was (by rw [stage]; rfl) (by simp [stage]))
      · exact Or.inr armed
  | command other cluster free same =>
      exact still rfl (fun armed => ⟨same.trans armed.1, armed.2⟩) late
  | timer pending idle =>
      exact still rfl (fun armed => ⟨armed.1, Or.inr ⟨.entered, rfl, by simp⟩⟩) late
  | tickLock running free =>
      exact still rfl (fun armed => ⟨armed.1, Or.inr ⟨.ticking, rfl, by simp⟩⟩) late
  | tick cluster running same =>
      exact still rfl (fun armed => ⟨same.trans armed.1, Or.inr ⟨.unlocked, rfl, by simp⟩⟩) late
  | reread running =>
      refine still rfl (fun armed => ⟨armed.1, Or.inr ⟨.rearming, ?_, by simp⟩⟩) late
      simp [WorkItem.advance, armed.1]
  | rearm running =>
      by_cases disarming : Disarming s
      · exact Or.inl disarming
      · refine still rfl (fun armed => ⟨armed.1, Or.inl ?_⟩) late
        refine live.queue_pending (live.winding.armedLate late) ?_
        intro k call found cancelling
        exact disarming ⟨k, call, found, Or.inr cancelling⟩
  | finish running =>
      refine still rfl (fun armed => ⟨armed.1, ?_⟩) late
      rcases armed.2 with pending | ⟨stage, here, other⟩
      · exact Or.inl pending
      · cases running.symm.trans here
        exact absurd rfl other
  | populate stage | load stage | exit stage | cancelled stage =>
      rcases live.winding.armedLate late with after | after <;> cases stage.symm.trans after
  | deregistered stage drained => exact still rfl id late

end Step

theorem advance_live (s : System) (event : Event) (live : Live s) : Live (advance s event) := by
  rcases advance_moves s event with waits | moves
  · rw [waits]
    exact live
  · exact
      { winding := advance_winding s event live.winding
        held := live.held_moves moves
        ticking := live.ticking_moves moves
        owners := live.owners_moves moves
        flag := live.flag_moves moves
        armed := live.armed_moves moves }

/-- The exit function has returned and a store has scheduled the tick behind it. -/
structure Doomed (s : System) : Prop where
  live : Live s
  gone : s.module = .returned
  rearmed : s.rearmed = true

theorem Doomed.armed {s : System} (doomed : Doomed s) : Armed s := by
  rcases doomed.live.armed doomed.rearmed with ⟨k, call, found, stage⟩ | armed
  · rcases stage with ⟨flagged, _⟩ | cancelling
    · exact (doomed.live.winding.no_call k call found _ flagged nofun doomed.gone).elim
    · exact (doomed.live.winding.no_call k call found _ cancelling nofun doomed.gone).elim
  · exact armed

theorem Doomed.lock_free {s : System} (doomed : Doomed s)
    (running : s.work.running = some .entered) : s.lock = none := by
  cases lock : s.lock with
  | none => rfl
  | some holder =>
      cases holder with
      | worker => cases running.symm.trans (doomed.live.ticking lock)
      | call k =>
          obtain ⟨call, found, inside⟩ := doomed.live.held k lock
          have returned := List.all_eq_true.mp (doomed.live.winding.drained doomed.gone) call
            (List.mem_of_getElem? found)
          simp only [Call.returned, beq_iff_eq] at returned
          rw [returned] at inside
          cases inside

theorem Doomed.step {s : System} (event : Event) (doomed : Doomed s) :
    Doomed (advance s event) := by
  have live := advance_live s event doomed.live
  rcases advance_moves s event with waits | moves
  · rw [waits]
    exact doomed
  · have gone := returned_stays s event doomed.gone
    exact ⟨live, gone, (doomed.live.winding.returned_moves moves gone).1.trans doomed.rearmed⟩

/-- Some continuation makes the tick pending. -/
def PendingAhead (s : System) : Prop := ∃ more, (Trace.run advance s more).work.pending = true

theorem pending_ahead_of_step (s : System) (event : Event)
    (ahead : PendingAhead (advance s event)) : PendingAhead s := by
  obtain ⟨more, pending⟩ := ahead
  exact ⟨event :: more, pending⟩

/-- A step of the worker leaves the tick pending or brings it to its next stage. -/
theorem Doomed.ahead_of_stage {s : System} (doomed : Doomed s)
    (next : ∀ stage, (advance s .worker).work.running = some stage → stage ≠ .returning →
      PendingAhead (advance s .worker)) : PendingAhead s := by
  apply pending_ahead_of_step s .worker
  rcases (doomed.step .worker).armed.2 with pending | ⟨stage, running, other⟩
  · exact ⟨[], pending⟩
  · exact next stage running other

theorem Doomed.from_rearming {s : System} (doomed : Doomed s)
    (running : s.work.running = some .rearming) : PendingAhead s := by
  apply doomed.ahead_of_stage
  intro stage after other
  simp only [advance, running, System.workerStep, WorkItem.advance, Option.some.injEq] at after
  exact absurd after.symm other

theorem Doomed.from_unlocked {s : System} (doomed : Doomed s)
    (running : s.work.running = some .unlocked) : PendingAhead s := by
  apply doomed.ahead_of_stage
  intro stage after other
  apply (doomed.step .worker).from_rearming
  simp [advance, running, System.workerStep, WorkItem.advance, doomed.armed.1]

theorem Doomed.from_ticking {s : System} (doomed : Doomed s)
    (running : s.work.running = some .ticking) : PendingAhead s := by
  apply doomed.ahead_of_stage
  intro stage after other
  apply (doomed.step .worker).from_unlocked
  simp [advance, running, System.workerStep, WorkItem.advance]

theorem Doomed.from_entered {s : System} (doomed : Doomed s)
    (running : s.work.running = some .entered) : PendingAhead s := by
  apply doomed.ahead_of_stage
  intro stage after other
  apply (doomed.step .worker).from_ticking
  simp [advance, running, System.workerStep, WorkItem.advance, doomed.lock_free running]

theorem Doomed.pending_ahead {s : System} (doomed : Doomed s) : PendingAhead s := by
  rcases doomed.armed.2 with pending | ⟨stage, running, other⟩
  · exact ⟨[], pending⟩
  · cases stage with
    | entered => exact doomed.from_entered running
    | ticking => exact doomed.from_ticking running
    | unlocked => exact doomed.from_unlocked running
    | rearming => exact doomed.from_rearming running
    | returning => exact absurd rfl other

/-- A step that is not disarmed dooms the rest of the run. -/
theorem disarmed_or_doomed (s : System) (events : List Event) (live : Live s) :
    Trace.Steps advance Disarmed s events ∨ Doomed (Trace.run advance s events) := by
  induction events generalizing s with
  | nil => exact Or.inl trivial
  | cons event rest ih =>
      by_cases disarmed : Disarmed s event
      · rcases ih (advance s event) (advance_live s event live) with later | doomed
        · exact Or.inl ⟨disarmed, later⟩
        · exact Or.inr doomed
      · refine Or.inr (Trace.run_invariant advance Doomed (fun s event => Doomed.step event)
          (advance s event) rest ?_)
        cases event with
        | module =>
            simp only [Disarmed, Classical.not_imp] at disarmed
            obtain ⟨stage, drained, armed⟩ := disarmed
            have after : advance s .module = { s with module := .returned } := by
              simp [advance, System.moduleStep, stage, drained]
            refine ⟨advance_live s .module live, ?_, ?_⟩
            · rw [after]
            · rw [after]
              simpa using armed
        | enter | call | command | timer | worker => exact absurd trivial disarmed

/-- After a disarmed run nothing is pending behind the exit function, and behind
any other run that has left it something gets pending again. -/
theorem unloads_iff_disarmed (events : List Event)
    (gone : (Trace.run advance published events).module = .returned) :
    (∀ more, Trace.Always advance Unloaded published (events ++ more)) ↔
      Trace.Steps advance Disarmed published events := by
  constructor
  · intro unloaded
    rcases disarmed_or_doomed published events published_live with disarmed | doomed
    · exact disarmed
    · obtain ⟨more, pending⟩ := doomed.pending_ahead
      have final := Trace.always_final advance Unloaded published (events ++ more)
        (unloaded more)
      have after := Trace.run_invariant advance Doomed (fun s event => Doomed.step event)
        (Trace.run advance published events) more doomed
      rw [Trace.run_append] at final
      rw [final after.gone] at pending
      cases pending
  · intro disarmed more
    have unwound := Trace.run_of_steps advance Disarmed Safe advance_safe published events
      ⟨published_winding, nofun⟩ disarmed
    have kept (s : System) (event : Event) (before : Safe s ∧ s.module = .returned) :
        Safe (advance s event) ∧ (advance s event).module = .returned :=
      ⟨advance_safe s event before.1 (disarmed_when_gone s event before.2),
        returned_stays s event before.2⟩
    refine (Trace.always_append advance Unloaded published events more).mpr
      ⟨disarmed_unloads events disarmed, ?_⟩
    exact Trace.always_mono advance _ Unloaded (fun s safe => safe_unloaded s safe.1) _ more
      (Trace.always_of_invariant advance _ kept _ more ⟨unwound, gone⟩)

end RyzenBuild.TickWork
