import RyzenBuild.Lib.WorkItem
import RyzenBuild.Lib.Threads
import RyzenBuild.DawnHex.Command

/-!
`dawnhex_kmod.c` as the parties that share `g_dawnhex.lock` and the tick work:
the worker in `dh_tick_workfn`, any number of calls of `interactive_store` and
of the text command `interactive`, the other operations as critical sections
of their own, and the module's init and exit functions. An event names the
party that takes its next step; a party that has to wait leaves the state as
it is.
-/
namespace RyzenBuild.TickWork

open DawnHex WorkQueue

/-- Where an instance of `dh_tick_workfn` is in its code. -/
inductive TickStage where
  | entered
  | ticking
  | unlocked
  | rearming
  | returning
  deriving DecidableEq, Repr

/-- A thread that sets `interactive`; the value is the parsed one. -/
inductive Request where
  | interactiveStore (v : Bool)
  | interactiveCommand (v : UInt32)
  deriving DecidableEq, Repr

def Request.value : Request → Bool
  | .interactiveStore v => v
  | .interactiveCommand v => truth v

/-- The text command arrives through an open file, which pins the module. -/
def Request.throughFile : Request → Bool
  | .interactiveStore _ => false
  | .interactiveCommand _ => true

inductive CallStage where
  | entered
  | locked
  | flagged
  | cancelling
  | settled
  | done
  deriving DecidableEq, Repr

structure Call where
  request : Request
  stage : CallStage
  deriving DecidableEq, Repr

inductive Holder where
  | worker
  | call (k : Nat)
  deriving DecidableEq, Repr

inductive Canceller where
  | exit
  | call (k : Nat)
  deriving DecidableEq, Repr

/-- The module's own thread: `dawnhex_init` up to `loaded`, `dawnhex_exit`
from there. In `cancelled` it is inside `misc_deregister`. -/
inductive ModuleStage where
  | registered
  | populated
  | loaded
  | cancelling
  | cancelled
  | returned
  deriving DecidableEq, Repr

/-- A call keeps its place in `calls` after it has returned. `rearmed` is
history: the last store to schedule or cancel since the exit function's own
cancel returned has scheduled. -/
structure System where
  cluster : State
  lock : Option Holder
  work : WorkItem TickStage Canceller
  calls : List Call
  module : ModuleStage
  rearmed : Bool

/-- The state in which `misc_register` publishes the device. -/
def published : System :=
  { cluster := registered
    lock := none
    work := .idle
    calls := []
    module := .registered
    rearmed := false }

inductive Event where
  | enter (request : Request)
  | call (k : Nat)
  | command (command : Command)
  | timer
  | worker
  | module
  deriving DecidableEq, Repr

def System.setStage (s : System) (k : Nat) (stage : CallStage) : System :=
  { s with calls := s.calls.modify k fun call => { call with stage := stage } }

section SetStage

variable (s : System) (k : Nat) (stage : CallStage)

@[simp] theorem setStage_cluster : (s.setStage k stage).cluster = s.cluster := rfl
@[simp] theorem setStage_lock : (s.setStage k stage).lock = s.lock := rfl
@[simp] theorem setStage_work : (s.setStage k stage).work = s.work := rfl
@[simp] theorem setStage_module : (s.setStage k stage).module = s.module := rfl
@[simp] theorem setStage_rearmed : (s.setStage k stage).rearmed = s.rearmed := rfl

end SetStage

/-- Files open only before the exit function has begun; the attribute is there
until `misc_deregister` has returned. -/
def System.admits (s : System) (request : Request) : Bool :=
  match s.module with
  | .registered | .populated | .loaded => true
  | .cancelling | .cancelled => !request.throughFile
  | .returned => false

def System.enter (s : System) (request : Request) : System :=
  if s.admits request then { s with calls := s.calls ++ [⟨request, .entered⟩] } else s

def setInteractive (cluster : State) (v : Bool) : State := { cluster with interactive := v }

/-- One step of `interactive_store`, or of `dh_write` with `interactive`. -/
def System.callStep (s : System) (k : Nat) (call : Call) : System :=
  match call.stage with
  | .entered =>
      if s.lock = none then { s.setStage k .locked with lock := some (.call k) } else s
  | .locked =>
      { s.setStage k .flagged with cluster := setInteractive s.cluster call.request.value }
  | .flagged =>
      if call.request.value then
        -- `schedule_delayed_work`
        { s.setStage k .settled with
          work := s.work.queue
          rearmed := s.rearmed || s.module == .cancelled }
      else
        -- `cancel_delayed_work_sync`, up to its wait
        { s.setStage k .cancelling with work := s.work.beginCancel (.call k) }
  | .cancelling =>
      if s.work.running = none then
        { s.setStage k .settled with work := s.work.endCancel (.call k), rearmed := false }
      else s
  | .settled =>
      { s.setStage k .done with
        cluster := dhEmitEventLocked s.cluster
          (field "interactive value=" call.request.value.toNat)
        lock := none }
  | .done => s

/-- One step of `dh_tick_workfn`; it reads `interactive` again unlocked. -/
def System.workerStep (s : System) (stage : TickStage) : System :=
  match stage with
  | .entered =>
      if s.lock = none then
        { s with lock := some .worker, work := s.work.advance .ticking }
      else s
  | .ticking =>
      { s with
        cluster := if s.cluster.interactive then dhTickOnceLocked s.cluster else s.cluster
        lock := none
        work := s.work.advance .unlocked }
  | .unlocked =>
      { s with work := s.work.advance (if s.cluster.interactive then .rearming else .returning) }
  | .rearming => { s with work := s.work.queue.advance .returning }
  | .returning => { s with work := s.work.finish }

def Call.returned (call : Call) : Bool := call.stage == .done

def System.moduleStep (s : System) : System :=
  match s.module with
  | .registered =>
      if s.lock = none then
        { s with cluster := Trace.run step s.cluster initCommands, module := .populated }
      else s
  | .populated => { s with work := s.work.queue, module := .loaded }
  | .loaded =>
      -- An open file would hold the module; `cancel_delayed_work_sync` begins.
      if s.calls.all fun call => call.returned || !call.request.throughFile then
        { s with work := s.work.beginCancel .exit, module := .cancelling }
      else s
  | .cancelling =>
      if s.work.running = none then
        { s with work := s.work.endCancel .exit, module := .cancelled }
      else s
  | .cancelled =>
      -- `misc_deregister` waits for the callbacks that run.
      if s.calls.all Call.returned then { s with module := .returned } else s
  | .returned => s

/-- The operations that run under the lock and leave the tick work alone. -/
def System.commandStep (s : System) (command : Command) : System :=
  match command with
  | .interactive _ => s
  | command => if s.lock = none then { s with cluster := step s.cluster command } else s

def advance (s : System) : Event → System
  | .enter request => s.enter request
  | .call k =>
      match s.calls[k]? with
      | some call => s.callStep k call
      | none => s
  | .command command => s.commandStep command
  | .timer => { s with work := s.work.begin .entered }
  | .worker =>
      match s.work.running with
      | some stage => s.workerStep stage
      | none => s
  | .module => s.moduleStep

/-- The steps that change something, each with what has to hold for it. -/
inductive Moves (s : System) : Event → System → Prop where
  | enter (request : Request) (admitted : s.admits request = true) :
      Moves s (.enter request) { s with calls := s.calls ++ [⟨request, .entered⟩] }
  | takeLock (k : Nat) (call : Call) (found : s.calls[k]? = some call)
      (stage : call.stage = .entered) (free : s.lock = none) :
      Moves s (.call k) { s.setStage k .locked with lock := some (.call k) }
  | setFlag (k : Nat) (call : Call) (found : s.calls[k]? = some call)
      (stage : call.stage = .locked) :
      Moves s (.call k) { s.setStage k .flagged with
        cluster := setInteractive s.cluster call.request.value }
  | schedule (k : Nat) (call : Call) (found : s.calls[k]? = some call)
      (stage : call.stage = .flagged) (on : call.request.value = true) :
      Moves s (.call k) { s.setStage k .settled with
        work := s.work.queue
        rearmed := s.rearmed || s.module == .cancelled }
  | beginCancel (k : Nat) (call : Call) (found : s.calls[k]? = some call)
      (stage : call.stage = .flagged) (off : call.request.value = false) :
      Moves s (.call k) { s.setStage k .cancelling with work := s.work.beginCancel (.call k) }
  | endCancel (k : Nat) (call : Call) (found : s.calls[k]? = some call)
      (stage : call.stage = .cancelling) (idle : s.work.running = none) :
      Moves s (.call k) { s.setStage k .settled with
        work := s.work.endCancel (.call k), rearmed := false }
  | leave (k : Nat) (call : Call) (found : s.calls[k]? = some call)
      (stage : call.stage = .settled) :
      Moves s (.call k) { s.setStage k .done with
        cluster := dhEmitEventLocked s.cluster
          (field "interactive value=" call.request.value.toNat)
        lock := none }
  | command (command : Command) (cluster : State) (free : s.lock = none)
      (same : cluster.interactive = s.cluster.interactive) :
      Moves s (.command command) { s with cluster := cluster }
  | timer (pending : s.work.pending = true) (idle : s.work.running = none) :
      Moves s .timer { s with
        work := { s.work with pending := false, running := some .entered } }
  | tickLock (running : s.work.running = some .entered) (free : s.lock = none) :
      Moves s .worker { s with lock := some .worker, work := s.work.advance .ticking }
  | tick (cluster : State) (running : s.work.running = some .ticking)
      (same : cluster.interactive = s.cluster.interactive) :
      Moves s .worker { s with
        cluster := cluster, lock := none, work := s.work.advance .unlocked }
  | reread (running : s.work.running = some .unlocked) :
      Moves s .worker { s with
        work := s.work.advance (if s.cluster.interactive then .rearming else .returning) }
  | rearm (running : s.work.running = some .rearming) :
      Moves s .worker { s with work := s.work.queue.advance .returning }
  | finish (running : s.work.running = some .returning) :
      Moves s .worker { s with work := s.work.finish }
  | populate (stage : s.module = .registered) (free : s.lock = none)
      (cluster : State) (same : cluster.interactive = s.cluster.interactive) :
      Moves s .module { s with cluster := cluster, module := .populated }
  | load (stage : s.module = .populated) :
      Moves s .module { s with work := s.work.queue, module := .loaded }
  | exit (stage : s.module = .loaded) :
      Moves s .module { s with work := s.work.beginCancel .exit, module := .cancelling }
  | cancelled (stage : s.module = .cancelling) (idle : s.work.running = none) :
      Moves s .module { s with work := s.work.endCancel .exit, module := .cancelled }
  | deregistered (stage : s.module = .cancelled)
      (drained : s.calls.all Call.returned = true) :
      Moves s .module { s with module := .returned }

theorem tickNode_interactive (cluster : State) (i : Nat) :
    (tickNode cluster i).interactive = cluster.interactive := by
  simp only [tickNode]
  split <;> rfl

theorem tick_interactive (cluster : State) :
    (dhTickOnceLocked cluster).interactive = cluster.interactive := by
  have turns (slots : List Nat) (before : State) :
      (slots.foldl tickNode before).interactive = before.interactive := by
    induction slots generalizing before with
    | nil => rfl
    | cons slot rest ih =>
        rw [List.foldl_cons, ih]
        exact tickNode_interactive before slot
  exact turns _ _

/-- Of the operations under the lock only the requests write the flag. -/
theorem step_interactive (cluster : State) (command : Command)
    (other : ∀ v, command ≠ .interactive v) :
    (step cluster command).interactive = cluster.interactive := by
  cases command with
  | interactive v => exact absurd rfl (other v)
  | tick => rw [step_tick, tick_interactive]
  | add => simp only [step, execute, dhAddNodeLocked]; split_ifs <;> rfl
  | del => simp only [step, execute, dhDelNodeLocked]; split_ifs <;> rfl
  | link | unlink =>
      simp only [step, execute, dhLinkLocked]
      split
      · rfl
      · split <;> rfl
  | online | energy | health =>
      simp only [step, execute, setNodeField]
      split <;> rfl
  | tickMs | snapshot | help | duoSnapshot => rfl
  | duoAdd a b mode =>
      rw [step_duo_add]
      unfold dhDuoAddPairLocked
      split_ifs
      · rfl
      · rfl
      · split <;> rfl
  | duoDel pairId =>
      simp only [step, execute, dhDuoDelPairLocked]
      split <;> rfl
  | duoPulse pairId value =>
      simp only [step, execute, dhDuoPulseLocked]
      split
      · rfl
      · split
        · rfl
        · split <;> rfl

theorem init_interactive (cluster : State) :
    (Trace.run step cluster initCommands).interactive = cluster.interactive := by
  simp only [initCommands, Trace.run_cons, Trace.run_nil]
  repeat rw [step_interactive _ _ (by intro v; exact nofun)]

/-- An event whose party has to wait changes nothing. -/
theorem advance_moves (s : System) (event : Event) :
    advance s event = s ∨ Moves s event (advance s event) := by
  cases event with
  | enter request =>
      simp only [advance, System.enter]
      split
      · rename_i admitted
        exact Or.inr (.enter request admitted)
      · exact Or.inl rfl
  | call k =>
      simp only [advance]
      cases found : s.calls[k]? with
      | none => exact Or.inl rfl
      | some call =>
          simp only [System.callStep]
          cases stage : call.stage with
          | entered =>
              by_cases free : s.lock = none
              · simp only [free, if_true]
                exact Or.inr (.takeLock k call found stage free)
              · exact Or.inl (by simp [free])
          | locked => exact Or.inr (.setFlag k call found stage)
          | flagged =>
              cases value : call.request.value with
              | true => exact Or.inr (.schedule k call found stage value)
              | false => exact Or.inr (.beginCancel k call found stage value)
          | cancelling =>
              by_cases idle : s.work.running = none
              · simp only [idle, if_true]
                exact Or.inr (.endCancel k call found stage idle)
              · exact Or.inl (by simp [idle])
          | settled => exact Or.inr (.leave k call found stage)
          | done => exact Or.inl rfl
  | command command =>
      simp only [advance, System.commandStep]
      split
      · exact Or.inl rfl
      · rename_i other
        by_cases free : s.lock = none
        · rw [if_pos free]
          exact Or.inr (.command _ _ free (step_interactive s.cluster command other))
        · exact Or.inl (by simp [free])
  | timer =>
      simp only [advance, WorkItem.begin]
      split
      · rename_i ready
        simp only [Bool.and_eq_true, Option.isNone_iff_eq_none] at ready
        exact Or.inr (.timer ready.1 ready.2)
      · exact Or.inl rfl
  | worker =>
      simp only [advance]
      cases running : s.work.running with
      | none => exact Or.inl rfl
      | some stage =>
          simp only [System.workerStep]
          cases stage with
          | entered =>
              by_cases free : s.lock = none
              · rw [if_pos free]
                exact Or.inr (.tickLock running free)
              · exact Or.inl (by simp [free])
          | ticking =>
              refine Or.inr (.tick _ running ?_)
              split
              · exact tick_interactive s.cluster
              · rfl
          | unlocked => exact Or.inr (.reread running)
          | rearming => exact Or.inr (.rearm running)
          | returning => exact Or.inr (.finish running)
  | module =>
      simp only [advance, System.moduleStep]
      cases stage : s.module with
      | registered =>
          by_cases free : s.lock = none
          · rw [if_pos free]
            exact Or.inr (.populate stage free _ (init_interactive s.cluster))
          · exact Or.inl (by simp [free])
      | populated => exact Or.inr (.load stage)
      | loaded =>
          simp only
          split
          · exact Or.inr (.exit stage)
          · exact Or.inl rfl
      | cancelling =>
          by_cases idle : s.work.running = none
          · simp only [idle, if_true]
            exact Or.inr (.cancelled stage idle)
          · exact Or.inl (by simp [idle])
      | cancelled =>
          by_cases drained : s.calls.all Call.returned = true
          · simp only [drained, if_true]
            exact Or.inr (.deregistered stage drained)
          · exact Or.inl (by simp [drained])
      | returned => exact Or.inl rfl

/-- Between its `mutex_lock` and its `mutex_unlock`. -/
def CallStage.inside : CallStage → Bool
  | .locked | .flagged | .cancelling | .settled => true
  | .entered | .done => false

theorem setStage_found (s : System) (k j : Nat) (stage : CallStage) (call : Call)
    (found : (s.setStage k stage).calls[j]? = some call) :
    j ≠ k ∧ s.calls[j]? = some call ∨
      j = k ∧ ∃ before, s.calls[k]? = some before ∧ call = { before with stage := stage } :=
  Threads.found_modified s.calls _ call k j found

/-- The lock is exclusive, whoever cancels the work is known by its stage, and
a work item under cancellation is not pending. -/
structure Coherent (s : System) : Prop where
  inside : ∀ k call, s.calls[k]? = some call → call.stage.inside = true →
    s.lock = some (.call k)
  ticking : s.work.running = some .ticking → s.lock = some .worker
  cancelling : ∀ k call, s.calls[k]? = some call → call.stage = .cancelling →
    .call k ∈ s.work.cancellers
  blocked : s.work.Blocked

theorem published_coherent : Coherent published where
  inside k call found := by simp [published] at found
  ticking running := by simp [published, WorkItem.idle] at running
  cancelling k call found := by simp [published] at found
  blocked some := absurd rfl some

section Step

variable {s : System} (coherent : Coherent s)

include coherent

/-- A call that holds the lock keeps it while it moves on inside. -/
theorem Coherent.inside_kept {k j : Nat} {stage : CallStage} {call mover : Call}
    (was : s.calls[k]? = some mover) (held : mover.stage.inside = true)
    (found : (s.setStage k stage).calls[j]? = some call) (inside : call.stage.inside = true) :
    s.lock = some (.call j) := by
  rcases setStage_found s k j stage call found with ⟨_, before⟩ | ⟨same, _⟩
  · exact coherent.inside j call before inside
  · exact same ▸ coherent.inside k mover was held

theorem Coherent.moves_inside {t : System} {event : Event} (moves : Moves s event t) (k : Nat) (call : Call)
    (found : t.calls[k]? = some call) (inside : call.stage.inside = true) :
    t.lock = some (.call k) := by
  cases moves with
  | enter request admitted =>
      rcases Threads.found_spawned s.calls _ call k found with before | ⟨_, fresh⟩
      · exact coherent.inside k call before inside
      · subst fresh
        cases inside
  | takeLock j mover was stage free =>
      rcases setStage_found s j k .locked call found with ⟨_, before⟩ | ⟨same, _⟩
      · have held := coherent.inside k call before inside
        rw [free] at held
        cases held
      · exact same ▸ rfl
  | setFlag j mover was stage =>
      exact coherent.inside_kept was (by rw [stage]; rfl) found inside
  | schedule j mover was stage on =>
      exact coherent.inside_kept was (by rw [stage]; rfl) found inside
  | beginCancel j mover was stage off =>
      exact coherent.inside_kept was (by rw [stage]; rfl) found inside
  | endCancel j mover was stage idle =>
      exact coherent.inside_kept was (by rw [stage]; rfl) found inside
  | leave j mover was stage =>
      rcases setStage_found s j k .done call found with ⟨other, before⟩ | ⟨_, _, _, done⟩
      · have held := coherent.inside j mover was (by rw [stage]; rfl)
        have also := coherent.inside k call before inside
        rw [held] at also
        cases also
        exact absurd rfl other
      · subst done
        cases inside
  | tickLock running free =>
      have held := coherent.inside k call found inside
      rw [free] at held
      cases held
  | tick cluster running kept =>
      have held := coherent.inside k call found inside
      rw [coherent.ticking running] at held
      cases held
  | command | timer | reread | rearm | finish | populate | load | exit | cancelled
  | deregistered => exact coherent.inside k call found inside

theorem Coherent.moves_ticking {t : System} {event : Event} (moves : Moves s event t)
    (running : t.work.running = some .ticking) : t.lock = some .worker := by
  cases moves with
  | takeLock j mover was stage free =>
      have held := coherent.ticking running
      rw [free] at held
      cases held
  | schedule | load =>
      rw [WorkItem.queue_running] at running
      exact coherent.ticking running
  | endCancel j mover was stage idle =>
      simp [WorkItem.endCancel, idle] at running
  | leave j mover was stage =>
      have held := coherent.inside j mover was (by rw [stage]; rfl)
      have also := coherent.ticking running
      rw [held] at also
      cases also
  | tickLock => rfl
  | timer | tick | rearm | finish => cases running
  | reread =>
      simp only [WorkItem.advance] at running
      split at running <;> cases running
  | cancelled stage idle => simp [WorkItem.endCancel, idle] at running
  | enter | setFlag | beginCancel | command | populate | exit | deregistered =>
      exact coherent.ticking running

/-- A step that lets no call into its cancel keeps those that are in it. -/
theorem Coherent.cancelling_kept {k j : Nat} {stage : CallStage} {call : Call}
    (found : (s.setStage k stage).calls[j]? = some call) (quiet : stage ≠ .cancelling)
    (cancelling : call.stage = .cancelling) : j ≠ k ∧ .call j ∈ s.work.cancellers := by
  rcases setStage_found s k j stage call found with ⟨other, before⟩ | ⟨_, _, _, after⟩
  · exact ⟨other, coherent.cancelling j call before cancelling⟩
  · subst after
    exact absurd cancelling quiet

theorem Coherent.moves_cancelling {t : System} {event : Event} (moves : Moves s event t) (k : Nat) (call : Call)
    (found : t.calls[k]? = some call) (cancelling : call.stage = .cancelling) :
    .call k ∈ t.work.cancellers := by
  cases moves with
  | enter request admitted =>
      rcases Threads.found_spawned s.calls _ call k found with before | ⟨_, fresh⟩
      · exact coherent.cancelling k call before cancelling
      · subst fresh
        cases cancelling
  | takeLock | setFlag | leave =>
      exact (coherent.cancelling_kept found nofun cancelling).2
  | schedule =>
      rw [WorkItem.queue_cancellers]
      exact (coherent.cancelling_kept found nofun cancelling).2
  | beginCancel j mover was stage off =>
      rcases setStage_found s j k .cancelling call found with ⟨_, before⟩ | ⟨same, _⟩
      · exact List.mem_cons_of_mem _ (coherent.cancelling k call before cancelling)
      · exact same ▸ List.mem_cons_self
  | endCancel j mover was stage idle =>
      obtain ⟨other, member⟩ := coherent.cancelling_kept found nofun cancelling
      exact List.mem_filter.mpr ⟨member, by simpa using other⟩
  | rearm running =>
      simp only [WorkItem.advance, WorkItem.queue_cancellers]
      exact coherent.cancelling k call found cancelling
  | load stage =>
      rw [WorkItem.queue_cancellers]
      exact coherent.cancelling k call found cancelling
  | exit stage => exact List.mem_cons_of_mem _ (coherent.cancelling k call found cancelling)
  | cancelled stage idle =>
      exact List.mem_filter.mpr ⟨coherent.cancelling k call found cancelling, by simp⟩
  | command | timer | tickLock | tick | reread | finish | populate | deregistered =>
      exact coherent.cancelling k call found cancelling

theorem Coherent.moves_blocked {t : System} {event : Event} (moves : Moves s event t) : t.work.Blocked := by
  cases moves with
  | schedule | load => exact coherent.blocked.queue
  | beginCancel | exit => exact WorkItem.Blocked.beginCancel _ _
  | endCancel | cancelled => exact WorkItem.Blocked.endCancel _ _ coherent.blocked
  | timer => exact fun _ => rfl
  | rearm running => exact WorkItem.Blocked.queue s.work coherent.blocked
  | enter | takeLock | setFlag | leave | command | tickLock | tick | reread | finish
  | populate | deregistered => exact coherent.blocked

end Step

theorem advance_coherent (s : System) (event : Event) (coherent : Coherent s) :
    Coherent (advance s event) := by
  rcases advance_moves s event with waits | moves
  · rw [waits]
    exact coherent
  · exact
      { inside := coherent.moves_inside moves
        ticking := coherent.moves_ticking moves
        cancelling := coherent.moves_cancelling moves
        blocked := coherent.moves_blocked moves }

/-- A call holds the lock and waits in `cancel_delayed_work_sync` for a worker
that waits for the lock. -/
def Deadlocked (s : System) : Prop :=
  ∃ k call, s.calls[k]? = some call ∧ call.stage = .cancelling ∧
    s.lock = some (.call k) ∧ s.work.running = some .entered

/-- A request that switches `interactive` off does not reach its
`cancel_delayed_work_sync` while a worker stands before its `mutex_lock`. -/
def CancelsClear (s : System) : Event → Prop
  | .call k => ∀ call, s.calls[k]? = some call → call.stage = .flagged →
      call.request.value = false → s.work.running ≠ some .entered
  | _ => True

/-- A step enters the deadlock only as a cancel that finds the worker waiting. -/
theorem deadlock_entered (s : System) (event : Event) (coherent : Coherent s)
    (live : ¬ Deadlocked s) (clear : CancelsClear s event) :
    ¬ Deadlocked (advance s event) := by
  rcases advance_moves s event with waits | moves
  · rw [waits]
    exact live
  · generalize advance s event = t at moves
    rintro ⟨k, call, found, cancelling, held, running⟩
    cases moves with
    | enter request admitted =>
        rcases Threads.found_spawned s.calls _ call k found with before | ⟨_, fresh⟩
        · exact live ⟨k, call, before, cancelling, held, running⟩
        · subst fresh
          cases cancelling
    | takeLock j mover was stage free =>
        cases held
        exact (coherent.cancelling_kept found nofun cancelling).1 rfl
    | setFlag j mover was stage =>
        have mine := coherent.inside j mover was (by rw [stage]; rfl)
        cases mine.symm.trans held
        exact (coherent.cancelling_kept found nofun cancelling).1 rfl
    | schedule j mover was stage on =>
        have mine := coherent.inside j mover was (by rw [stage]; rfl)
        cases mine.symm.trans held
        exact (coherent.cancelling_kept found nofun cancelling).1 rfl
    | beginCancel j mover was stage off => exact clear mover was stage off running
    | endCancel j mover was stage idle => cases idle.symm.trans running
    | timer pending idle =>
        have member := coherent.cancelling k call found cancelling
        have blocked := coherent.blocked (List.ne_nil_of_mem member)
        rw [pending] at blocked
        cases blocked
    | reread =>
        simp only [WorkItem.advance, Option.some.injEq] at running
        split at running <;> cases running
    | load stage =>
        rw [WorkItem.queue_running] at running
        exact live ⟨k, call, found, cancelling, held, running⟩
    | cancelled stage idle => cases idle.symm.trans running
    | leave | tickLock | tick => cases held
    | rearm | finish => cases running
    | command | populate | exit | deregistered =>
        exact live ⟨k, call, found, cancelling, held, running⟩

/-- Nothing leads out of the deadlock. -/
theorem deadlock_permanent (s : System) (event : Event) (coherent : Coherent s)
    (dead : Deadlocked s) : Deadlocked (advance s event) := by
  obtain ⟨k, call, found, cancelling, held, running⟩ := dead
  -- The lock's holder is in its cancel, so no call stands elsewhere inside.
  have only (j : Nat) (mover : Call) (was : s.calls[j]? = some mover)
      (inside : mover.stage.inside = true) : mover.stage = .cancelling := by
    have mine := coherent.inside j mover was inside
    cases mine.symm.trans held
    cases was.symm.trans found
    exact cancelling
  rcases advance_moves s event with waits | moves
  · rw [waits]
    exact ⟨k, call, found, cancelling, held, running⟩
  · generalize advance s event = t at moves
    cases moves with
    | enter request admitted =>
        have old := (List.getElem?_eq_some_iff.mp found).1
        exact ⟨k, call, (List.getElem?_append_left old).trans found, cancelling, held, running⟩
    | takeLock j mover was stage free => cases free.symm.trans held
    | setFlag j mover was stage =>
        cases stage.symm.trans (only j mover was (by rw [stage]; rfl))
    | schedule j mover was stage on =>
        cases stage.symm.trans (only j mover was (by rw [stage]; rfl))
    | beginCancel j mover was stage off =>
        cases stage.symm.trans (only j mover was (by rw [stage]; rfl))
    | endCancel j mover was stage idle => cases idle.symm.trans running
    | leave j mover was stage =>
        cases stage.symm.trans (only j mover was (by rw [stage]; rfl))
    | command other cluster free same => cases free.symm.trans held
    | timer pending idle => cases idle.symm.trans running
    | tickLock started free => cases free.symm.trans held
    | tick cluster ticking same => cases ticking.symm.trans running
    | reread unlocked => cases unlocked.symm.trans running
    | rearm rearming => cases rearming.symm.trans running
    | finish returning => cases returning.symm.trans running
    | populate stage free cluster same => cases free.symm.trans held
    | load stage =>
        exact ⟨k, call, found, cancelling, held,
          (WorkItem.queue_running s.work).trans running⟩
    | exit | deregistered => exact ⟨k, call, found, cancelling, held, running⟩
    | cancelled stage idle => cases idle.symm.trans running

theorem cancel_deadlocks (s : System) (k : Nat) (call : Call) (coherent : Coherent s)
    (found : s.calls[k]? = some call) (flagged : call.stage = .flagged)
    (off : call.request.value = false) (running : s.work.running = some .entered) :
    Deadlocked (advance s (.call k)) := by
  have held := coherent.inside k call found (by rw [flagged]; rfl)
  have moved : advance s (.call k) =
      { s.setStage k .cancelling with work := s.work.beginCancel (.call k) } := by
    simp [advance, found, System.callStep, flagged, off]
  rw [moved]
  refine ⟨k, { call with stage := .cancelling }, ?_, rfl, held, running⟩
  simp [System.setStage, found]

theorem live_iff_cancels_clear (s : System) (event : Event) (coherent : Coherent s)
    (live : ¬ Deadlocked s) : ¬ Deadlocked (advance s event) ↔ CancelsClear s event := by
  constructor
  · intro after
    cases event with
    | call k =>
        intro call found flagged off running
        exact after (cancel_deadlocks s k call coherent found flagged off running)
    | enter | command | timer | worker | module => trivial
  · exact deadlock_entered s event coherent live

/-- Over every interleaving: no state of the run is a deadlock exactly when
every cancel under the lock found no worker waiting for it. -/
theorem no_deadlock_iff (events : List Event) :
    Trace.Always advance (fun s => ¬ Deadlocked s) published events ↔
      Trace.Steps advance CancelsClear published events := by
  have init : ¬ Deadlocked published := by
    rintro ⟨k, call, found, _⟩
    simp [published] at found
  exact Trace.always_iff_steps advance CancelsClear Coherent (fun s => ¬ Deadlocked s)
    advance_coherent live_iff_cancels_clear published events published_coherent init

/-- The tick starts after the store has taken the lock. -/
theorem disable_deadlocks :
    Deadlocked (Trace.run advance published
      [.module, .module, .enter (.interactiveStore false), .call 0, .timer, .call 0, .call 0]) := by
  exact ⟨0, ⟨.interactiveStore false, .cancelling⟩, by decide +kernel, rfl, by decide +kernel,
    by decide +kernel⟩

end RyzenBuild.TickWork
