import RyzenBuild.DawnHex.TickTeardown
import RyzenBuild.Ladder.RecalcWork

/-!
`simplex_exit` takes the workqueue down before `misc_deregister` takes away the
attribute whose store queues on it; `dawnhex_exit` has the same order. The exit
function runs beside the parties of `simplex_adalter_kmod.c`.
-/
namespace RyzenBuild.Teardown

open Kernel Ladder WorkQueue RecalcWork

/-- `flushing` is `flush_workqueue` with the instance it waits for, `draining`
the start of `destroy_workqueue`, `deregistering` all of `misc_deregister`. -/
inductive ExitStage where
  | loaded
  | flushing (target : Nat)
  | draining
  | deregistering
  | returned
  deriving DecidableEq, Repr

structure Module where
  system : System
  stage : ExitStage

def loaded (cfg : SimplexAdalterCfg) : Module := { system := published cfg, stage := .loaded }

inductive Step where
  | party (event : Event)
  | exit
  deriving DecidableEq, Repr

/-- The attribute's store needs no open file. -/
def throughAttribute : Request → Bool
  | .lastKeyStore _ => true
  | .simplexInit | .setCfg _ | .runBase _ | .getReport => false

/-- An open file holds the module, so none is open once the exit function has
begun; the attribute is there until `misc_deregister` has returned. -/
def Module.admits (m : Module) : Event → Bool
  | .enter request =>
      match m.stage with
      | .loaded => true
      | .flushing _ | .draining | .deregistering => throughAttribute request
      | .returned => false
  | .call _ | .start | .worker => true

def callReturned (call : Call) : Bool :=
  match call.stage with
  | .done _ | .failed _ | .answered _ => true
  | .entered | .wrote _ | .queued _ | .flushing _ _ => false

/-- One step of `simplex_exit`. -/
def Module.exitStep (m : Module) : Module :=
  match m.stage with
  | .loaded =>
      if m.system.calls.all fun call => callReturned call || throughAttribute call.request then
        { m with stage := .flushing m.system.work.lastQueued }
      else m
  | .flushing target =>
      if target ≤ m.system.work.finished then
        { system := { m.system with wq := .draining }, stage := .draining }
      else m
  | .draining =>
      if m.system.work.pending = false ∧ m.system.work.running = none then
        { system := { m.system with wq := .destroyed }, stage := .deregistering }
      else m
  -- `misc_deregister` waits for the callbacks that run.
  | .deregistering =>
      if m.system.calls.all callReturned then { m with stage := .returned } else m
  | .returned => m

def step (m : Module) : Step → Module
  | .party event =>
      if m.admits event then { m with system := advance m.system event } else m
  | .exit => m.exitStep

/-- Nothing is pending behind the exit function, and no callback has queued work
on the workqueue it destroyed. -/
def Sound (m : Module) : Prop :=
  (m.stage = .returned → m.system.work.pending = false) ∧ m.system.lateQueue = false

/-- The call has its `queue_work` before it. -/
def beforeQueue (call : Call) : Bool :=
  match call.stage with
  | .entered | .wrote _ => true
  | .queued _ | .flushing _ _ | .done _ | .failed _ | .answered _ => false

/-- No store stands before its `queue_work` when `destroy_workqueue` ends, and
none begins from there until `misc_deregister` has returned. -/
def StoresDone (m : Module) : Step → Prop
  | .exit => m.stage = .draining → m.system.work.pending = false →
      m.system.work.running = none → m.system.calls.all (fun call => !beforeQueue call) = true
  | .party (.enter request) => m.stage = .deregistering → throughAttribute request = false
  | .party _ => True

instance (m : Module) : (input : Step) → Decidable (StoresDone m input)
  | .exit => inferInstanceAs (Decidable (m.stage = .draining → m.system.work.pending = false →
      m.system.work.running = none →
      m.system.calls.all (fun call => !beforeQueue call) = true))
  | .party (.enter request) =>
      inferInstanceAs (Decidable (m.stage = .deregistering → throughAttribute request = false))
  | .party (.call _) | .party .start | .party .worker => isTrue trivial

/-- The workqueue follows the exit function, the work is idle once it is
destroyed, and from the flush on only the attribute brings calls. -/
structure Unwinding (m : Module) : Prop where
  destroyed : m.system.wq = .destroyed ↔ m.stage = .deregistering ∨ m.stage = .returned
  idle : m.system.wq = .destroyed → m.system.work.pending = false ∧ m.system.work.running = none
  stores : m.stage ≠ .loaded → ∀ (k : Nat) (call : Call), m.system.calls[k]? = some call →
    callReturned call = true ∨ throughAttribute call.request = true
  drained : m.stage = .returned → m.system.calls.all callReturned = true

theorem loaded_unwinding (cfg : SimplexAdalterCfg) : Unwinding (loaded cfg) where
  destroyed := by simp [loaded, published]
  idle destroyed := by cases destroyed
  stores begun := absurd rfl begun
  drained gone := by cases gone

section Party

variable {s t : System} {event : Event} (moves : Moves s event t)

include moves

theorem wq_moves : t.wq = s.wq := by
  cases moves with
  | queue k version call found stage =>
      simp only [System.setStage, System.queueWork]
      split <;> rfl
  | enter | answer | refuse | store | flush | returns | start | compute | finish => rfl

theorem idle_moves (destroyed : s.wq = .destroyed)
    (idle : s.work.pending = false ∧ s.work.running = none) :
    t.work.pending = false ∧ t.work.running = none := by
  cases moves with
  | queue k version call found stage =>
      simpa [System.setStage, System.queueWork, destroyed] using idle
  | start pending => cases pending.symm.trans idle.1
  | compute running => cases running.symm.trans idle.2
  | finish running => cases running.symm.trans idle.2
  | enter | answer | refuse | store | flush | returns => exact idle

/-- A callback queues late when it finds the queue destroyed. -/
theorem late_moves : t.lateQueue = s.lateQueue ∨
    s.wq = .destroyed ∧ t.lateQueue = true ∧
      ∃ (k : Nat) (call : Call), s.calls[k]? = some call ∧ beforeQueue call = true := by
  cases moves with
  | queue k version call found stage =>
      cases wq : s.wq with
      | alive | draining => exact Or.inl (by simp [System.setStage, System.queueWork, wq])
      | destroyed =>
          refine Or.inr ⟨rfl, ?_, k, call, found, ?_⟩
          · simp [System.setStage, System.queueWork, wq]
          · simp [beforeQueue, stage]
  | enter | answer | refuse | store | flush | returns | start | compute | finish =>
      exact Or.inl rfl

/-- A call of the next state is a call of this one or has just been made, or it
had not returned and has moved by one stage. -/
theorem call_moved (k : Nat) (call : Call) (found : t.calls[k]? = some call) :
    s.calls[k]? = some call ∨ event = .enter call.request ∧ call.stage = .entered ∨
      ∃ mover, s.calls[k]? = some mover ∧ callReturned mover = false ∧
        call.request = mover.request ∧
        (beforeQueue call = true → beforeQueue mover = true) := by
  have modified (j : Nat) (mover : Call) (after : CallStage) (was : s.calls[j]? = some mover)
      (active : callReturned mover = false)
      (order : beforeQueue { mover with stage := after } = true → beforeQueue mover = true)
      (called : (s.calls.modify j fun call => { call with stage := after })[k]? = some call) :
      s.calls[k]? = some call ∨ event = .enter call.request ∧ call.stage = .entered ∨
        ∃ mover, s.calls[k]? = some mover ∧ callReturned mover = false ∧
          call.request = mover.request ∧
          (beforeQueue call = true → beforeQueue mover = true) := by
    rcases Threads.found_modified s.calls _ call j k called with
      ⟨_, old⟩ | ⟨same, before, listed, moved⟩
    · exact Or.inl old
    · cases was.symm.trans listed
      subst moved
      exact Or.inr (Or.inr ⟨mover, same ▸ was, active, rfl, order⟩)
  cases moves with
  | enter request =>
      rcases Threads.found_spawned s.calls _ call k found with old | ⟨_, fresh⟩
      · exact Or.inl old
      · subst fresh
        exact Or.inr (Or.inl ⟨rfl, rfl⟩)
  | answer j mover was stage reads =>
      exact modified j mover _ was (by simp [callReturned, stage])
        (by simp [beforeQueue]) found
  | refuse j mover errno was stage refused =>
      exact modified j mover _ was (by simp [callReturned, stage])
        (by simp [beforeQueue]) found
  | store j mover st was stage stored =>
      exact modified j mover _ was (by simp [callReturned, stage]) (by simp [beforeQueue, stage])
        found
  | queue j version mover was stage =>
      have calls : s.queueWork.calls = s.calls := by
        simp only [System.queueWork]
        split <;> rfl
      simp only [System.setStage, calls] at found
      exact modified j mover _ was (by simp [callReturned, stage])
        (by simp [beforeQueue]) found
  | flush j version mover was stage =>
      exact modified j mover _ was (by simp [callReturned, stage])
        (by simp [beforeQueue]) found
  | returns j version target mover was stage flushed =>
      exact modified j mover _ was (by simp [callReturned, stage])
        (by simp [beforeQueue]) found
  | start | compute | finish => exact Or.inl found

end Party

theorem party_unwinding (m : Module) (event : Event) (unwinding : Unwinding m)
    (admitted : m.admits event = true) (moves : Moves m.system event (advance m.system event)) :
    Unwinding { m with system := advance m.system event } where
  destroyed := by
    rw [wq_moves moves]
    exact unwinding.destroyed
  idle destroyed := by
    rw [wq_moves moves] at destroyed
    exact idle_moves moves destroyed (unwinding.idle destroyed)
  stores begun k call found := by
    rcases call_moved moves k call found with old | ⟨entered, _⟩ | ⟨mover, was, active, same, _⟩
    · exact unwinding.stores begun k call old
    · subst entered
      simp only [Module.admits] at admitted
      split at admitted
      · rename_i here
        exact absurd here begun
      · exact Or.inr admitted
      · exact Or.inr admitted
      · exact Or.inr admitted
      · cases admitted
    · rcases unwinding.stores begun k mover was with returned | store
      · cases active.symm.trans returned
      · exact Or.inr (same ▸ store)
  drained gone := by
    refine List.all_eq_true.mpr fun call member => ?_
    obtain ⟨k, found⟩ := List.getElem?_of_mem member
    have all := List.all_eq_true.mp (unwinding.drained gone)
    rcases call_moved moves k call found with old | ⟨entered, _⟩ | ⟨mover, was, active, _, _⟩
    · exact all _ (List.mem_of_getElem? old)
    · subst entered
      rw [Module.admits, show m.stage = .returned from gone] at admitted
      cases admitted
    · cases active.symm.trans (all _ (List.mem_of_getElem? was))

/-- What a step of the exit function does, when it need not wait. -/
theorem exit_cases (m : Module) :
    m.exitStep = m ∨
      (m.stage = .loaded ∧
        m.system.calls.all (fun call =>
          callReturned call || throughAttribute call.request) = true ∧
        m.exitStep = { m with stage := .flushing m.system.work.lastQueued }) ∨
      ((∃ target, m.stage = .flushing target) ∧
        m.exitStep = { system := { m.system with wq := .draining }, stage := .draining }) ∨
      (m.stage = .draining ∧ m.system.work.pending = false ∧ m.system.work.running = none ∧
        m.exitStep = { system := { m.system with wq := .destroyed }, stage := .deregistering }) ∨
      (m.stage = .deregistering ∧ m.system.calls.all callReturned = true ∧
        m.exitStep = { m with stage := .returned }) := by
  unfold Module.exitStep
  cases stage : m.stage with
  | loaded =>
      by_cases closed : (m.system.calls.all fun call =>
          callReturned call || throughAttribute call.request) = true
      · exact Or.inr (Or.inl ⟨rfl, closed, by simp [closed]⟩)
      · exact Or.inl (by simp [closed])
  | flushing target =>
      by_cases flushed : target ≤ m.system.work.finished
      · exact Or.inr (Or.inr (Or.inl ⟨⟨target, rfl⟩, by simp [flushed]⟩))
      · exact Or.inl (by simp [flushed])
  | draining =>
      by_cases idle : m.system.work.pending = false ∧ m.system.work.running = none
      · exact Or.inr (Or.inr (Or.inr (Or.inl ⟨rfl, idle.1, idle.2, by simp [idle]⟩)))
      · exact Or.inl (by simp only [idle, if_false])
  | deregistering =>
      by_cases drained : m.system.calls.all callReturned = true
      · exact Or.inr (Or.inr (Or.inr (Or.inr ⟨rfl, drained, by simp [drained]⟩)))
      · exact Or.inl (by simp [drained])
  | returned => exact Or.inl rfl

theorem exit_unwinding (m : Module) (unwinding : Unwinding m) : Unwinding m.exitStep := by
  rcases exit_cases m with waits | ⟨stage, closed, moved⟩ | ⟨⟨target, stage⟩, moved⟩ |
    ⟨stage, unmarked, idle, moved⟩ | ⟨stage, drained, moved⟩
  · rw [waits]
    exact unwinding
  · rw [moved]
    have alive : m.system.wq ≠ .destroyed := by simp [unwinding.destroyed, stage]
    exact
      { destroyed := by simp [alive]
        idle := fun destroyed => absurd destroyed alive
        stores := fun _ k call found => by
          simpa using List.all_eq_true.mp closed call (List.mem_of_getElem? found)
        drained := nofun }
  · rw [moved]
    exact
      { destroyed := by simp
        idle := nofun
        stores := fun _ => unwinding.stores (by simp [stage])
        drained := nofun }
  · rw [moved]
    exact
      { destroyed := by simp
        idle := fun _ => ⟨unmarked, idle⟩
        stores := fun _ => unwinding.stores (by simp [stage])
        drained := nofun }
  · rw [moved]
    have destroyed := unwinding.destroyed.mpr (Or.inl stage)
    exact
      { destroyed := by simp [destroyed]
        idle := fun _ => unwinding.idle destroyed
        stores := fun _ => unwinding.stores (by simp [stage])
        drained := fun _ => drained }

theorem step_unwinding (m : Module) (input : Step) (unwinding : Unwinding m) :
    Unwinding (step m input) := by
  cases input with
  | party event =>
      simp only [step]
      by_cases admitted : m.admits event = true
      · rw [if_pos admitted]
        rcases advance_moves m.system event with waits | moves
        · rw [waits]
          exact unwinding
        · exact party_unwinding m event unwinding admitted moves
      · rw [if_neg admitted]
        exact unwinding
  | exit => exact exit_unwinding m unwinding

/-- What runs keep in which the stores are done in time. -/
structure Safe (m : Module) : Prop where
  unwinding : Unwinding m
  punctual : m.system.lateQueue = false
  done : m.system.wq = .destroyed → ∀ (k : Nat) (call : Call),
    m.system.calls[k]? = some call → beforeQueue call = false

theorem loaded_safe (cfg : SimplexAdalterCfg) : Safe (loaded cfg) where
  unwinding := loaded_unwinding cfg
  punctual := rfl
  done destroyed := by cases destroyed

theorem step_safe (m : Module) (input : Step) (safe : Safe m) (done : StoresDone m input) :
    Safe (step m input) := by
  have unwinding := step_unwinding m input safe.unwinding
  cases input with
  | party event =>
      simp only [step] at unwinding ⊢
      by_cases admitted : m.admits event = true
      · rw [if_pos admitted] at unwinding ⊢
        rcases advance_moves m.system event with waits | moves
        · rw [waits]
          exact safe
        · refine ⟨unwinding, ?_, ?_⟩
          · rcases late_moves moves with same | ⟨destroyed, _, k, call, found, before⟩
            · exact same.trans safe.punctual
            · cases before.symm.trans (safe.done destroyed k call found)
          · intro destroyed k call found
            rw [wq_moves moves] at destroyed
            rcases call_moved moves k call found with old | ⟨entered, _⟩ |
              ⟨mover, was, _, _, order⟩
            · exact safe.done destroyed k call old
            · -- An admitted call would be a store that begins too late.
              subst entered
              simp only [Module.admits] at admitted
              rcases safe.unwinding.destroyed.mp destroyed with stage | stage
              · rw [stage] at admitted
                cases admitted.symm.trans (done stage)
              · rw [stage] at admitted
                cases admitted
            · have early := safe.done destroyed k mover was
              rw [← Bool.not_eq_true] at early ⊢
              exact fun late => early (order late)
      · rw [if_neg admitted]
        exact safe
  | exit =>
      simp only [step] at unwinding ⊢
      rcases exit_cases m with waits | ⟨stage, closed, moved⟩ | ⟨⟨target, stage⟩, moved⟩ |
        ⟨stage, unmarked, idle, moved⟩ | ⟨stage, drained, moved⟩
      · rw [waits]
        exact safe
      · rw [moved] at unwinding ⊢
        exact ⟨unwinding, safe.punctual, safe.done⟩
      · rw [moved] at unwinding ⊢
        exact ⟨unwinding, safe.punctual, nofun⟩
      · rw [moved] at unwinding ⊢
        refine ⟨unwinding, safe.punctual, fun _ k call found => ?_⟩
        have all := List.all_eq_true.mp (done stage unmarked idle) call
          (List.mem_of_getElem? found)
        simpa using all
      · rw [moved] at unwinding ⊢
        exact ⟨unwinding, safe.punctual, safe.done⟩

theorem safe_sound (m : Module) (safe : Safe m) : Sound m := by
  refine ⟨fun gone => ?_, safe.punctual⟩
  exact (safe.unwinding.idle (safe.unwinding.destroyed.mpr (Or.inr gone))).1

theorem done_sound (cfg : SimplexAdalterCfg) (inputs : List Step)
    (done : Trace.Steps step StoresDone (loaded cfg) inputs) :
    Trace.Always step Sound (loaded cfg) inputs :=
  Trace.always_mono step Safe Sound safe_sound (loaded cfg) inputs
    (Trace.always_of_steps step StoresDone Safe step_safe (loaded cfg) inputs (loaded_safe cfg)
      done)

/-- The queue is destroyed, and a store has queued on it or is going to. -/
structure Late (m : Module) : Prop where
  unwinding : Unwinding m
  destroyed : m.system.wq = .destroyed
  queues : m.system.lateQueue = true ∨
    ∃ (k : Nat) (call : Call), m.system.calls[k]? = some call ∧
      throughAttribute call.request = true ∧ beforeQueue call = true

/-- A call that has returned has queued. -/
theorem returned_queued (call : Call) (returned : callReturned call = true) :
    beforeQueue call = false := by
  cases stage : call.stage <;> simp [callReturned, beforeQueue, stage] at returned ⊢

theorem store_written (st : SimplexAdalterState) (request : Request) (errno : Errno)
    (store : throughAttribute request = true) : write st request ≠ .error errno := by
  cases request with
  | lastKeyStore buf => nofun
  | simplexInit | setCfg | runBase | getReport => cases store

theorem party_late (s t : System) (event : Event) (moves : Moves s event t)
    (destroyed : s.wq = .destroyed)
    (queues : s.lateQueue = true ∨ ∃ (k : Nat) (call : Call), s.calls[k]? = some call ∧
      throughAttribute call.request = true ∧ beforeQueue call = true) :
    t.lateQueue = true ∨ ∃ (k : Nat) (call : Call), t.calls[k]? = some call ∧
      throughAttribute call.request = true ∧ beforeQueue call = true := by
  rcases queues with late | ⟨k, call, found, store, before⟩
  · rcases late_moves moves with same | ⟨_, late, _⟩
    · exact Or.inl (same.trans late)
    · exact Or.inl late
  · -- A mover other than this call leaves it where it is.
    have other (j : Nat) (mover : Call) (after : CallStage) (was : s.calls[j]? = some mover)
        (apart : call ≠ mover) :
        ∃ (k : Nat) (call : Call), (s.setStage j after).calls[k]? = some call ∧
          throughAttribute call.request = true ∧ beforeQueue call = true := by
      have different : k ≠ j := by
        rintro rfl
        cases was.symm.trans found
        exact apart rfl
      exact ⟨k, call, Threads.kept_modified s.calls _ call j k different found, store, before⟩
    cases moves with
    | enter request =>
        exact Or.inr ⟨k, call, Threads.kept_spawned s.calls _ call k found, store, before⟩
    | answer j mover was stage reads =>
        refine Or.inr (other j mover _ was ?_)
        rintro rfl
        rw [reads] at store
        cases store
    | refuse j mover errno was stage refused =>
        refine Or.inr (other j mover _ was ?_)
        rintro rfl
        exact store_written s.st _ errno store refused
    | store j mover st was stage stored =>
        by_cases same : call = mover
        · subst same
          exact Or.inr ⟨j, { call with stage := .wrote s.history.length },
            by simp [System.setStage, was], store, rfl⟩
        · exact Or.inr (other j mover _ was same)
    | queue j version mover was stage =>
        exact Or.inl (by simp [System.setStage, System.queueWork, destroyed])
    | flush j version mover was stage =>
        refine Or.inr (other j mover _ was ?_)
        rintro rfl
        simp [beforeQueue, stage] at before
    | returns j version target mover was stage flushed =>
        refine Or.inr (other j mover _ was ?_)
        rintro rfl
        simp [beforeQueue, stage] at before
    | start | compute | finish => exact Or.inr ⟨k, call, found, store, before⟩

theorem step_late (m : Module) (input : Step) (late : Late m) : Late (step m input) := by
  have unwinding := step_unwinding m input late.unwinding
  cases input with
  | party event =>
      simp only [step] at unwinding ⊢
      by_cases admitted : m.admits event = true
      · rw [if_pos admitted] at unwinding ⊢
        rcases advance_moves m.system event with waits | moves
        · rw [waits]
          exact late
        · exact ⟨unwinding, (wq_moves moves).trans late.destroyed,
            party_late m.system _ event moves late.destroyed late.queues⟩
      · rw [if_neg admitted]
        exact late
  | exit =>
      simp only [step] at unwinding ⊢
      have stages := late.unwinding.destroyed.mp late.destroyed
      rcases exit_cases m with waits | ⟨stage, _⟩ | ⟨⟨target, stage⟩, _⟩ | ⟨stage, _⟩ |
        ⟨stage, drained, moved⟩
      · rw [waits]
        exact late
      · simp [stage] at stages
      · simp [stage] at stages
      · simp [stage] at stages
      · rw [moved] at unwinding ⊢
        exact ⟨unwinding, late.destroyed, late.queues⟩

/-- A step at which the stores are not done makes the rest of the run late. -/
theorem done_or_late (m : Module) (inputs : List Step) (unwinding : Unwinding m) :
    Trace.Steps step StoresDone m inputs ∨ Late (Trace.run step m inputs) := by
  induction inputs generalizing m with
  | nil => exact Or.inl trivial
  | cons input rest ih =>
      have next := step_unwinding m input unwinding
      by_cases done : StoresDone m input
      · rcases ih (step m input) next with later | late
        · exact Or.inl ⟨done, later⟩
        · exact Or.inr late
      · refine Or.inr (Trace.run_invariant step Late step_late (step m input) rest ?_)
        cases input with
        | exit =>
            simp only [StoresDone, Classical.not_imp] at done
            obtain ⟨stage, unmarked, idle, unfinished⟩ := done
            have moved : step m .exit =
                { system := { m.system with wq := .destroyed }, stage := .deregistering } := by
              simp [step, Module.exitStep, stage, unmarked, idle]
            rw [moved] at next ⊢
            refine ⟨next, rfl, Or.inr ?_⟩
            simp only [List.all_eq_true, Bool.not_eq_true', not_forall, Bool.not_eq_false]
              at unfinished
            obtain ⟨call, member, before⟩ := unfinished
            obtain ⟨k, found⟩ := List.getElem?_of_mem member
            refine ⟨k, call, found, ?_, before⟩
            rcases unwinding.stores (by simp [stage]) k call found with returned | store
            · cases before.symm.trans (returned_queued call returned)
            · exact store
        | party event =>
            cases event with
            | enter request =>
                simp only [StoresDone, Classical.not_imp, Bool.not_eq_false] at done
                obtain ⟨stage, store⟩ := done
                have moved : step m (.party (.enter request)) =
                    { m with system := { m.system with
                      calls := m.system.calls ++ [⟨request, .entered⟩] } } := by
                  cases request with
                  | lastKeyStore buf => simp [step, Module.admits, stage, throughAttribute, advance]
                  | simplexInit | setCfg | runBase | getReport => cases store
                rw [moved] at next ⊢
                refine ⟨next, unwinding.destroyed.mpr (Or.inl stage), Or.inr ?_⟩
                exact ⟨m.system.calls.length, ⟨request, .entered⟩,
                  List.getElem?_concat_length, store, rfl⟩
            | call | start | worker => exact absurd trivial done

/-- Of a complete unload: it and all that follows are sound exactly when the
stores were done in time. -/
theorem sound_iff_done (cfg : SimplexAdalterCfg) (inputs : List Step)
    (gone : (Trace.run step (loaded cfg) inputs).stage = .returned) :
    Trace.Always step Sound (loaded cfg) inputs ↔
      Trace.Steps step StoresDone (loaded cfg) inputs := by
  constructor
  · intro sound
    rcases done_or_late (loaded cfg) inputs (loaded_unwinding cfg) with done | late
    · exact done
    · obtain ⟨_, punctual⟩ := Trace.always_final step Sound (loaded cfg) inputs sound
      rcases late.queues with queued | ⟨k, call, found, _, before⟩
      · cases punctual.symm.trans queued
      · have returned := List.all_eq_true.mp (late.unwinding.drained gone) call
          (List.mem_of_getElem? found)
        cases before.symm.trans (returned_queued call returned)
  · exact done_sound cfg inputs

/-- Both unloads over every interleaving: what is enough for them to leave no
work behind, and that a complete unload does so only then. -/
theorem teardown_iff (cfg : SimplexAdalterCfg) (ticks : List TickWork.Event)
    (inputs : List Step) :
    (Trace.Steps TickWork.advance TickWork.Disarmed TickWork.published ticks →
      Trace.Always TickWork.advance TickWork.Unloaded TickWork.published ticks) ∧
    ((Trace.run TickWork.advance TickWork.published ticks).module = .returned →
      ((∀ more, Trace.Always TickWork.advance TickWork.Unloaded TickWork.published
          (ticks ++ more)) ↔
        Trace.Steps TickWork.advance TickWork.Disarmed TickWork.published ticks)) ∧
    (Trace.Steps step StoresDone (loaded cfg) inputs →
      Trace.Always step Sound (loaded cfg) inputs) ∧
    ((Trace.run step (loaded cfg) inputs).stage = .returned →
      (Trace.Always step Sound (loaded cfg) inputs ↔
        Trace.Steps step StoresDone (loaded cfg) inputs)) :=
  ⟨TickWork.disarmed_unloads ticks, TickWork.unloads_iff_disarmed ticks, done_sound cfg inputs,
    sound_iff_done cfg inputs⟩

/-- `dawnhex_exit` has cancelled, a store switches on and a later one off again. -/
def disarmedUnload : List TickWork.Event :=
  [.module, .module, .module, .module,
    .enter (.interactiveStore true), .call 0, .call 0, .call 0, .call 0,
    .enter (.interactiveStore false), .call 1, .call 1, .call 1, .call 1, .call 1, .module]

/-- A store queues while `flush_workqueue` runs and returns before the queue is
destroyed. -/
def storeInTime : List Step :=
  [.party (.call 0), .party .start, .party .worker, .party .worker, .party (.call 0),
    .party (.call 0), .exit, .party (.enter (.lastKeyStore (text "mesh-a"))), .party (.call 1),
    .party (.call 1), .exit, .party .start, .party .worker, .party .worker, .party (.call 1),
    .party (.call 1), .exit, .exit]

theorem teardown_of_stores_in_time :
    (∀ more, Trace.Always TickWork.advance TickWork.Unloaded TickWork.published
      (disarmedUnload ++ more)) ∧
    Trace.Always step Sound (loaded simplexInitCfg) storeInTime := by
  obtain ⟨_, complete, sound, _⟩ := teardown_iff simplexInitCfg disarmedUnload storeInTime
  exact ⟨(complete (by decide +kernel)).mpr (by decide +kernel), sound (by decide +kernel)⟩

/-- A store that switches `interactive` on behind the cancel of `dawnhex_exit`
leaves the tick pending; one of a key behind `destroy_workqueue` queues on the
destroyed queue. -/
theorem stores_outlive_teardown :
    (let s := Trace.run TickWork.advance TickWork.published
      [.module, .module, .module, .module, .enter (.interactiveStore true), .call 0, .call 0,
        .call 0, .call 0, .module]
    s.module = .returned ∧ s.work.pending = true) ∧
    (Trace.run step (loaded simplexInitCfg)
      [.party (.call 0), .party .start, .party .worker, .party .worker, .party (.call 0),
        .party (.call 0), .exit, .exit, .exit,
        .party (.enter (.lastKeyStore (text "mesh-a"))), .party (.call 1),
        .party (.call 1)]).system.lateQueue = true := by
  decide +kernel

end RyzenBuild.Teardown
