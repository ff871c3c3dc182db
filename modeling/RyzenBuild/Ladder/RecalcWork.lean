import RyzenBuild.Lib.Trace
import RyzenBuild.Lib.Threads
import RyzenBuild.Lib.WorkItem
import RyzenBuild.Ladder.Simplex

/-!
`simplex_adalter_kmod.c` as the parties that share the recalculation work: its
worker, and any number of calls that write the configuration or the base, queue
the work and flush it. What a call does under `g_sa.lock` is one step; between
its steps every other party may move. `simplex_init` is the first call.
-/
namespace RyzenBuild.RecalcWork

open Kernel Ladder WorkQueue

/-- The inputs of a recomputation. -/
abbrev Inputs := SimplexAdalterCfg × SimplexAdalterBase

def inputs (st : SimplexAdalterState) : Inputs := (st.cfg, st.base)

def recomputed (inputs : Inputs) : SimplexAdalterReport :=
  (saRecomputeLocked { simplexInit with cfg := inputs.1, base := inputs.2 }).report

/-- `last_key_store` under the lock; `buf` holds its `count` bytes. -/
def lastKeyStore (st : SimplexAdalterState) (buf : List UInt8) : SimplexAdalterState :=
  let n := min buf.length (simplexAdalterKeyLen - 1)
  let key := buf.take n ++ List.replicate (simplexAdalterKeyLen - n) 0
  -- A trailing newline is cut off.
  let key := if n ≠ 0 ∧ key[n - 1]? = some 10 then key.set (n - 1) 0 else key
  { st with base := { st.base with key := key } }

/-- `none` stands for an argument that cannot be copied from user space. -/
inductive Request where
  | simplexInit
  | setCfg (arg : Option SimplexAdalterCfg)
  | runBase (arg : Option SimplexAdalterBase)
  | lastKeyStore (buf : List UInt8)
  | getReport
  deriving DecidableEq, Repr

/-- What a writing request stores, or the error it returns before the lock. -/
def write (st : SimplexAdalterState) : Request → Except Errno SimplexAdalterState
  | .setCfg (some cfg) => simplexIoctlSetCfg st cfg
  | .runBase (some base) => .ok (simplexIoctlRunBase st base)
  | .setCfg none | .runBase none => .error .efault
  | .lastKeyStore buf => .ok (RecalcWork.lastKeyStore st buf)
  | .simplexInit | .getReport => .ok st

/-- Where a call is in its code; `version` numbers the inputs it has written. -/
inductive CallStage where
  | entered
  | wrote (version : Nat)
  | queued (version : Nat)
  | flushing (version target : Nat)
  | done (version : Nat)
  | failed (errno : Errno)
  | answered (report : SimplexAdalterReport)
  deriving DecidableEq, Repr

structure Call where
  request : Request
  stage : CallStage
  deriving DecidableEq, Repr

/-- Where an instance of `sa_recalc_workfn` is in its code. -/
inductive RecalcStage where
  | entered
  | computed
  deriving DecidableEq, Repr

/-- The workqueue `g_sa.wq`. Only the exit function takes it down. -/
inductive Workqueue where
  | alive
  | draining
  | destroyed
  deriving DecidableEq, Repr

/-- `history` lists the inputs of every write in order, the current ones last.
`lateQueue` is history as well: a callback has queued on a destroyed queue. -/
structure System where
  st : SimplexAdalterState
  work : WorkItem RecalcStage Empty
  wq : Workqueue
  calls : List Call
  history : List Inputs
  lateQueue : Bool

/-- The device is published and `simplex_init` stands before its `queue_work`;
`cfg` is what it has built from the module parameters. -/
def published (cfg : SimplexAdalterCfg) : System :=
  let st := { simplexInit with cfg := cfg }
  { st := st
    work := .idle
    wq := .alive
    calls := [⟨.simplexInit, .wrote 0⟩]
    history := [inputs st]
    lateQueue := false }

inductive Event where
  | enter (request : Request)
  | call (k : Nat)
  | start
  | worker
  deriving DecidableEq, Repr

def System.setStage (s : System) (k : Nat) (stage : CallStage) : System :=
  { s with calls := s.calls.modify k fun call => { call with stage := stage } }

/-- `queue_work`. A queue that drains takes nothing from outside, and what a
destroyed one does with the item is not defined. -/
def System.queueWork (s : System) : System :=
  match s.wq with
  | .alive => { s with work := s.work.queue }
  | .draining => s
  | .destroyed => { s with lateQueue := true }

/-- One step of a call. -/
def System.callStep (s : System) (k : Nat) (call : Call) : System :=
  match call.stage with
  | .entered =>
      if call.request = .getReport then s.setStage k (.answered s.st.report)
      else
        match write s.st call.request with
        | .error errno => s.setStage k (.failed errno)
        | .ok st =>
            { s.setStage k (.wrote s.history.length) with
              st := st
              history := s.history ++ [inputs st] }
  | .wrote version => s.queueWork.setStage k (.queued version)
  -- `flush_work` waits for the instance that is queued last as it begins.
  | .queued version => s.setStage k (.flushing version s.work.lastQueued)
  | .flushing version target =>
      if target ≤ s.work.finished then s.setStage k (.done version) else s
  | .done _ | .failed _ | .answered _ => s

/-- One step of `sa_recalc_workfn`. -/
def System.workerStep (s : System) (stage : RecalcStage) : System :=
  match stage with
  | .entered => { s with st := saRecomputeLocked s.st, work := s.work.advance .computed }
  | .computed => { s with work := s.work.finish }

def advance (s : System) : Event → System
  -- `simplex_init` runs once and is there from the start.
  | .enter .simplexInit => s
  | .enter request => { s with calls := s.calls ++ [⟨request, .entered⟩] }
  | .call k =>
      match s.calls[k]? with
      | some call => s.callStep k call
      | none => s
  | .start => { s with work := s.work.begin .entered }
  | .worker =>
      match s.work.running with
      | some stage => s.workerStep stage
      | none => s

/-- The steps that change something, each with what has to hold for it. -/
inductive Moves (s : System) : Event → System → Prop where
  | enter (request : Request) :
      Moves s (.enter request) { s with calls := s.calls ++ [⟨request, .entered⟩] }
  | answer (k : Nat) (call : Call) (found : s.calls[k]? = some call)
      (stage : call.stage = .entered) (reads : call.request = .getReport) :
      Moves s (.call k) (s.setStage k (.answered s.st.report))
  | refuse (k : Nat) (call : Call) (errno : Errno) (found : s.calls[k]? = some call)
      (stage : call.stage = .entered) (refused : write s.st call.request = .error errno) :
      Moves s (.call k) (s.setStage k (.failed errno))
  | store (k : Nat) (call : Call) (st : SimplexAdalterState) (found : s.calls[k]? = some call)
      (stage : call.stage = .entered) (stored : write s.st call.request = .ok st) :
      Moves s (.call k)
        { s.setStage k (.wrote s.history.length) with
          st := st
          history := s.history ++ [inputs st] }
  | queue (k version : Nat) (call : Call) (found : s.calls[k]? = some call)
      (stage : call.stage = .wrote version) :
      Moves s (.call k) (s.queueWork.setStage k (.queued version))
  | flush (k version : Nat) (call : Call) (found : s.calls[k]? = some call)
      (stage : call.stage = .queued version) :
      Moves s (.call k) (s.setStage k (.flushing version s.work.lastQueued))
  | returns (k version target : Nat) (call : Call) (found : s.calls[k]? = some call)
      (stage : call.stage = .flushing version target) (flushed : target ≤ s.work.finished) :
      Moves s (.call k) (s.setStage k (.done version))
  | start (pending : s.work.pending = true) (idle : s.work.running = none) :
      Moves s .start
        { s with work := { s.work with pending := false, running := some .entered } }
  | compute (running : s.work.running = some .entered) :
      Moves s .worker
        { s with st := saRecomputeLocked s.st, work := s.work.advance .computed }
  | finish (running : s.work.running = some .computed) :
      Moves s .worker { s with work := s.work.finish }

/-- An event whose party has to wait changes nothing. -/
theorem advance_moves (s : System) (event : Event) :
    advance s event = s ∨ Moves s event (advance s event) := by
  cases event with
  | enter request =>
      cases request with
      | simplexInit => exact Or.inl rfl
      | setCfg | runBase | lastKeyStore | getReport => exact Or.inr (.enter _)
  | call k =>
      simp only [advance]
      cases found : s.calls[k]? with
      | none => exact Or.inl rfl
      | some call =>
          simp only [System.callStep]
          cases stage : call.stage with
          | entered =>
              by_cases reads : call.request = .getReport
              · simp only [reads, if_true]
                exact Or.inr (.answer k call found stage reads)
              · simp only [reads, if_false]
                cases stored : write s.st call.request with
                | error errno => exact Or.inr (.refuse k call errno found stage stored)
                | ok st => exact Or.inr (.store k call st found stage stored)
          | wrote version => exact Or.inr (.queue k version call found stage)
          | queued version => exact Or.inr (.flush k version call found stage)
          | flushing version target =>
              by_cases flushed : target ≤ s.work.finished
              · simp only [flushed, if_true]
                exact Or.inr (.returns k version target call found stage flushed)
              · exact Or.inl (by simp [flushed])
          | done | failed | answered => exact Or.inl rfl
  | start =>
      simp only [advance, WorkItem.begin]
      split
      · rename_i ready
        simp only [Bool.and_eq_true, Option.isNone_iff_eq_none] at ready
        exact Or.inr (.start ready.1 ready.2)
      · exact Or.inl rfl
  | worker =>
      simp only [advance]
      cases running : s.work.running with
      | none => exact Or.inl rfl
      | some stage =>
          cases stage with
          | entered => exact Or.inr (.compute running)
          | computed => exact Or.inr (.finish running)

/-- The report was computed from inputs at least as recent as the version. -/
def Covers (s : System) (version : Nat) : Prop :=
  ∃ n latest, version ≤ n ∧ s.history[n]? = some latest ∧ s.st.report = recomputed latest

/-- An instance that has not read the inputs yet is going to. -/
def Owed (s : System) : Prop :=
  s.work.pending = true ∨ s.work.running = some .entered

/-- A call stands between its write and its `queue_work`. -/
def Unqueued (s : System) : Prop :=
  ∃ (k : Nat) (call : Call) (version : Nat), s.calls[k]? = some call ∧
    call.stage = .wrote version

/-- The instances whose result is in the report. -/
def System.computed (s : System) : Nat :=
  s.work.finished + (if s.work.running = some .computed then 1 else 0)

def CallStage.version : CallStage → Option Nat
  | .wrote version | .queued version | .flushing version _ | .done version => some version
  | .entered | .failed _ | .answered _ => none

/-- What a stage of a call promises about the report. -/
def Promise (s : System) : CallStage → Prop
  | .queued version => Covers s version ∨ Owed s
  | .flushing version target => Covers s version ∨ s.computed < target
  | .done version => Covers s version
  | .entered | .wrote _ | .failed _ | .answered _ => True

/-- The marks of the work item tell which versions the report may lack. -/
structure Tracked (s : System) : Prop where
  alive : s.wq = .alive
  current : s.history.getLast? = some (inputs s.st)
  versions : ∀ (k : Nat) (call : Call) (version : Nat), s.calls[k]? = some call →
    call.stage.version = some version → version < s.history.length
  promises : ∀ (k : Nat) (call : Call), s.calls[k]? = some call → Promise s call.stage
  settled : Covers s (s.history.length - 1) ∨ Owed s ∨ Unqueued s

theorem recompute_report (st : SimplexAdalterState) :
    (saRecomputeLocked st).report = recomputed (inputs st) := rfl

theorem published_tracked (cfg : SimplexAdalterCfg) : Tracked (published cfg) where
  alive := rfl
  current := rfl
  versions k call version found of := by
    rcases Threads.found_spawned [] _ call k found with none | ⟨_, first⟩
    · cases none
    · subst first
      cases of
      exact Nat.one_pos
  promises k call found := by
    rcases Threads.found_spawned [] _ call k found with none | ⟨_, first⟩
    · cases none
    · subst first
      trivial
  settled := Or.inr (Or.inr ⟨0, _, 0, rfl, rfl⟩)

theorem write_report (st after : SimplexAdalterState) (request : Request)
    (stored : write st request = .ok after) : after.report = st.report := by
  cases request with
  | simplexInit | getReport | lastKeyStore =>
      cases stored
      rfl
  | setCfg arg =>
      cases arg with
      | none => cases stored
      | some cfg =>
          simp only [write, simplexIoctlSetCfg] at stored
          split_ifs at stored
          cases stored
          rfl
  | runBase arg =>
      cases arg with
      | none => cases stored
      | some base =>
          cases stored
          rfl

/-- Later writes and a recomputation that has not happened keep a version covered. -/
theorem covers_kept (s t : System) (more : List Inputs) (version : Nat)
    (longer : t.history = s.history ++ more) (same : t.st.report = s.st.report)
    (covers : Covers s version) : Covers t version := by
  obtain ⟨n, latest, recent, at_, computed⟩ := covers
  have inside := (List.getElem?_eq_some_iff.mp at_).1
  refine ⟨n, latest, recent, ?_, same.trans computed⟩
  rw [longer, List.getElem?_append_left inside]
  exact at_

/-- A recomputation covers every version there is. -/
theorem recompute_covers (s t : System) (version : Nat)
    (current : s.history.getLast? = some (inputs s.st)) (older : version < s.history.length)
    (history : t.history = s.history) (st : t.st = saRecomputeLocked s.st) :
    Covers t version := by
  refine ⟨s.history.length - 1, inputs s.st, by omega, ?_, ?_⟩
  · rw [history, ← List.getLast?_eq_getElem?]
    exact current
  · rw [st]
    exact recompute_report s.st

/-- A call other than the mover that stands before its `queue_work` still does. -/
theorem wrote_kept (s : System) (k : Nat) (mover : Call) (after : CallStage)
    (was : s.calls[k]? = some mover) (moved : ∀ version, mover.stage ≠ .wrote version)
    (before : Unqueued s) : Unqueued (s.setStage k after) := by
  obtain ⟨j, call, version, found, wrote⟩ := before
  have other : j ≠ k := by
    rintro rfl
    cases was.symm.trans found
    exact moved version wrote
  exact ⟨j, call, version, Threads.kept_modified s.calls _ call k j other found, wrote⟩

/-- Nobody cancels the work, so queueing always leaves it pending. -/
theorem queueWork_pending (s : System) (alive : s.wq = .alive) :
    s.queueWork.work.pending = true := by
  have free : s.work.cancellers = [] := by
    cases s.work.cancellers with
    | nil => rfl
    | cons owner rest => exact owner.elim
  simp only [System.queueWork, alive]
  exact WorkItem.queue_pending s.work free

/-- A flush that begins while an instance is owed waits for it. -/
theorem owed_flushed (s : System) (owed : Owed s) : s.computed < s.work.lastQueued := by
  unfold System.computed WorkItem.lastQueued
  rcases owed with pending | entered
  · rw [pending]
    cases s.work.running with
    | none => simp
    | some stage =>
        simp only [Option.isSome_some, Bool.toNat_true, Option.some.injEq]
        split_ifs <;> omega
  · simp [entered]
    omega

section Step

variable {s t : System} {event : Event} (tracked : Tracked s) (moves : Moves s event t)

include tracked moves

theorem Tracked.covers_moves (version : Nat) (covers : Covers s version) : Covers t version := by
  have older : version < s.history.length := by
    obtain ⟨n, _, recent, found, _⟩ := covers
    have inside := (List.getElem?_eq_some_iff.mp found).1
    omega
  cases moves with
  | store k call st found stage stored =>
      exact covers_kept s _ [inputs st] version rfl (write_report s.st st call.request stored)
        covers
  | queue k called call found stage =>
      refine covers_kept s _ [] version ?_ ?_ covers
      · simp [System.setStage, System.queueWork, tracked.alive]
      · simp [System.setStage, System.queueWork, tracked.alive]
  | compute running => exact recompute_covers s _ version tracked.current older rfl rfl
  | enter | answer | refuse | flush | returns | start | finish =>
      exact covers_kept s _ [] version (List.append_nil _).symm rfl covers

/-- What a step does to the work item: it recomputes, or an owed instance stays
owed and no further result reaches the report. -/
theorem Tracked.work_moves :
    (∀ version, version < s.history.length → Covers t version) ∨
      (Owed s → Owed t) ∧ t.computed = s.computed := by
  cases moves with
  | compute running =>
      exact Or.inl fun version older =>
        recompute_covers s _ version tracked.current older rfl rfl
  | queue k version call found stage =>
      refine Or.inr ⟨fun _ => Or.inl (queueWork_pending s tracked.alive), ?_⟩
      simp [System.computed, System.setStage, System.queueWork, tracked.alive]
  | start pending idle =>
      refine Or.inr ⟨fun _ => Or.inr rfl, ?_⟩
      simp [System.computed, idle]
  | finish running =>
      refine Or.inr ⟨fun owed => ?_, ?_⟩
      · rcases owed with pending | entered
        · exact Or.inl pending
        · cases running.symm.trans entered
      · simp [System.computed, running, WorkItem.finish]
  | enter | answer | refuse | store | flush | returns => exact Or.inr ⟨id, rfl⟩

/-- A call that does not move keeps its promise. -/
theorem Tracked.promise_moves (stage : CallStage)
    (older : ∀ version, stage.version = some version → version < s.history.length)
    (promise : Promise s stage) : Promise t stage := by
  cases stage with
  | queued version =>
      rcases promise with covers | owed
      · exact Or.inl (tracked.covers_moves moves version covers)
      · rcases tracked.work_moves moves with computes | ⟨stays, _⟩
        · exact Or.inl (computes version (older version rfl))
        · exact Or.inr (stays owed)
  | flushing version target =>
      rcases promise with covers | early
      · exact Or.inl (tracked.covers_moves moves version covers)
      · rcases tracked.work_moves moves with computes | ⟨_, same⟩
        · exact Or.inl (computes version (older version rfl))
        · exact Or.inr (same ▸ early)
  | done version => exact tracked.covers_moves moves version promise
  | entered | wrote | failed | answered => trivial

theorem Tracked.extends_moves : ∃ more, t.history = s.history ++ more := by
  cases moves with
  | store k call st found stage stored => exact ⟨[inputs st], rfl⟩
  | queue k version call found stage =>
      exact ⟨[], by simp [System.setStage, System.queueWork, tracked.alive]⟩
  | enter | answer | refuse | flush | returns | start | compute | finish =>
      exact ⟨[], (List.append_nil _).symm⟩

/-- A call of the next state is a call of this one, or it has just moved and
promises what its new stage says. -/
theorem Tracked.call_moves (k : Nat) (call : Call) (found : t.calls[k]? = some call) :
    s.calls[k]? = some call ∨
      Promise t call.stage ∧
        (∀ version, call.stage.version = some version → version < t.history.length) ∧
        ∀ report, call.stage = .answered report → report = s.st.report := by
  cases moves with
  | enter request =>
      rcases Threads.found_spawned s.calls _ call k found with old | ⟨_, fresh⟩
      · exact Or.inl old
      · subst fresh
        exact Or.inr ⟨trivial, nofun, nofun⟩
  | answer j mover was stage reads =>
      rcases Threads.found_modified s.calls _ call j k found with ⟨_, old⟩ | ⟨_, _, _, moved⟩
      · exact Or.inl old
      · subst moved
        refine Or.inr ⟨trivial, nofun, fun report answered => ?_⟩
        cases answered
        rfl
  | refuse j mover errno was stage refused =>
      rcases Threads.found_modified s.calls _ call j k found with ⟨_, old⟩ | ⟨_, _, _, moved⟩
      · exact Or.inl old
      · subst moved
        exact Or.inr ⟨trivial, nofun, nofun⟩
  | store j mover st was stage stored =>
      rcases Threads.found_modified s.calls _ call j k found with ⟨_, old⟩ | ⟨_, _, _, moved⟩
      · exact Or.inl old
      · subst moved
        refine Or.inr ⟨trivial, fun version written => ?_, nofun⟩
        cases written
        simp
  | queue j version mover was stage =>
      have calls : s.queueWork.calls = s.calls := by simp [System.queueWork, tracked.alive]
      have history : s.queueWork.history = s.history := by simp [System.queueWork, tracked.alive]
      simp only [System.setStage, calls] at found
      rcases Threads.found_modified s.calls _ call j k found with ⟨_, old⟩ | ⟨_, _, _, moved⟩
      · exact Or.inl old
      · subst moved
        refine Or.inr ⟨Or.inr (Or.inl (queueWork_pending s tracked.alive)),
          fun _ written => ?_, nofun⟩
        cases written
        simp only [System.setStage, history]
        exact tracked.versions j mover version was (by rw [stage]; rfl)
  | flush j version mover was stage =>
      rcases Threads.found_modified s.calls _ call j k found with ⟨_, old⟩ | ⟨_, _, _, moved⟩
      · exact Or.inl old
      · subst moved
        have promise := tracked.promises j mover was
        rw [stage] at promise
        refine Or.inr ⟨?_, fun _ written => ?_, nofun⟩
        · rcases promise with covers | owed
          · exact Or.inl covers
          -- The instance that is owed is among those the flush waits for.
          · exact Or.inr (owed_flushed s owed)
        · cases written
          exact tracked.versions j mover version was (by rw [stage]; rfl)
  | returns j version target mover was stage flushed =>
      rcases Threads.found_modified s.calls _ call j k found with ⟨_, old⟩ | ⟨_, _, _, moved⟩
      · exact Or.inl old
      · subst moved
        have promise := tracked.promises j mover was
        rw [stage] at promise
        refine Or.inr ⟨?_, fun _ written => ?_, nofun⟩
        · rcases promise with covers | early
          · exact covers
          · simp only [System.computed] at early
            omega
        · cases written
          exact tracked.versions j mover version was (by rw [stage]; rfl)
  | start | compute | finish => exact Or.inl found

theorem Tracked.current_moves : t.history.getLast? = some (inputs t.st) := by
  cases moves with
  | store => simp
  | queue k version call found stage =>
      simpa [System.setStage, System.queueWork, tracked.alive] using tracked.current
  | compute running => exact tracked.current
  | enter | answer | refuse | flush | returns | start | finish => exact tracked.current

theorem Tracked.alive_moves : t.wq = .alive := by
  cases moves with
  | queue k version call found stage =>
      simp [System.setStage, System.queueWork, tracked.alive]
  | enter | answer | refuse | store | flush | returns | start | compute | finish =>
      exact tracked.alive

theorem Tracked.settled_moves :
    Covers t (t.history.length - 1) ∨ Owed t ∨ Unqueued t := by
  -- A step that leaves the history alone keeps the first two alternatives.
  have kept (same : t.history.length = s.history.length) (waiting : Unqueued s → Unqueued t) :
      Covers t (t.history.length - 1) ∨ Owed t ∨ Unqueued t := by
    rw [same]
    rcases tracked.settled with covers | owed | unqueued
    · exact Or.inl (tracked.covers_moves moves _ covers)
    · rcases tracked.work_moves moves with computes | ⟨stays, _⟩
      · have written := List.length_pos_of_mem (List.mem_of_getLast? tracked.current)
        exact Or.inl (computes _ (by omega))
      · exact Or.inr (Or.inl (stays owed))
    · exact Or.inr (Or.inr (waiting unqueued))
  cases moves with
  | enter request =>
      refine kept rfl ?_
      rintro ⟨k, call, version, found, wrote⟩
      exact ⟨k, call, version, Threads.kept_spawned s.calls _ call k found, wrote⟩
  | answer k mover was stage reads =>
      exact kept rfl (wrote_kept s k mover _ was (by simp [stage]))
  | refuse k mover errno was stage refused =>
      exact kept rfl (wrote_kept s k mover _ was (by simp [stage]))
  | store k mover st was stage stored =>
      refine Or.inr (Or.inr ⟨k, { mover with stage := .wrote s.history.length },
        s.history.length, ?_, rfl⟩)
      simp [System.setStage, was]
  | queue => exact Or.inr (Or.inl (Or.inl (queueWork_pending s tracked.alive)))
  | flush k version mover was stage =>
      exact kept rfl (wrote_kept s k mover _ was (by simp [stage]))
  | returns k version target mover was stage flushed =>
      exact kept rfl (wrote_kept s k mover _ was (by simp [stage]))
  | start | compute | finish => exact kept rfl id

theorem Tracked.of_moves : Tracked t where
  alive := tracked.alive_moves moves
  current := tracked.current_moves moves
  versions k call version found of := by
    rcases tracked.call_moves moves k call found with old | ⟨_, inside, _⟩
    · obtain ⟨more, longer⟩ := tracked.extends_moves moves
      have before := tracked.versions k call version old of
      rw [longer, List.length_append]
      omega
    · exact inside version of
  promises k call found := by
    rcases tracked.call_moves moves k call found with old | ⟨promise, _, _⟩
    · exact tracked.promise_moves moves call.stage
        (fun version of => tracked.versions k call version old of) (tracked.promises k call old)
    · exact promise
  settled := tracked.settled_moves moves

end Step

theorem advance_tracked (s : System) (event : Event) (tracked : Tracked s) :
    Tracked (advance s event) := by
  rcases advance_moves s event with waits | moves
  · rw [waits]
    exact tracked
  · exact tracked.of_moves moves

theorem run_tracked (cfg : SimplexAdalterCfg) (events : List Event) :
    Tracked (Trace.run advance (published cfg) events) :=
  Trace.run_invariant advance Tracked advance_tracked (published cfg) events
    (published_tracked cfg)

/-- The report every `GET_REPORT` from the `floor`-th call on has returned was
computed from inputs at least as recent as the version. -/
def Answers (version floor : Nat) (s : System) : Prop :=
  ∀ (k : Nat) (call : Call) (report : SimplexAdalterReport), floor ≤ k →
    s.calls[k]? = some call → call.stage = .answered report →
    ∃ n latest, version ≤ n ∧ s.history[n]? = some latest ∧ report = recomputed latest

theorem advance_answers (version floor : Nat) (s : System) (event : Event) (tracked : Tracked s)
    (covers : Covers s version) (answers : Answers version floor s) :
    Answers version floor (advance s event) := by
  rcases advance_moves s event with waits | moves
  · rw [waits]
    exact answers
  · intro k call report later found answered
    have longer : ∃ more, (advance s event).history = s.history ++ more :=
      tracked.extends_moves moves
    obtain ⟨more, longer⟩ := longer
    have source : ∃ n latest, version ≤ n ∧ s.history[n]? = some latest ∧
        report = recomputed latest := by
      rcases tracked.call_moves moves k call found with old | ⟨_, _, reads⟩
      · exact answers k call report later old answered
      · rw [reads report answered]
        exact covers
    obtain ⟨n, latest, recent, listed, computed⟩ := source
    refine ⟨n, latest, recent, ?_, computed⟩
    rw [longer, List.getElem?_append_left (List.getElem?_eq_some_iff.mp listed).1]
    exact listed

/-- A call that has returned stays covered, and so does every report read later. -/
theorem run_answers (version floor : Nat) (s : System) (events : List Event) (tracked : Tracked s)
    (covers : Covers s version) (answers : Answers version floor s) :
    Answers version floor (Trace.run advance s events) := by
  have kept (s : System) (event : Event)
      (before : Tracked s ∧ Covers s version ∧ Answers version floor s) :
      Tracked (advance s event) ∧ Covers (advance s event) version ∧
        Answers version floor (advance s event) := by
    obtain ⟨tracked, covers, answers⟩ := before
    refine ⟨advance_tracked s event tracked, ?_,
      advance_answers version floor s event tracked covers answers⟩
    rcases advance_moves s event with waits | moves
    · rw [waits]
      exact covers
    · exact tracked.covers_moves moves version covers
  exact (Trace.run_invariant advance _ kept s events ⟨tracked, covers, answers⟩).2.2

/-- With no instance under way and no call before its `queue_work`, the report
is that of the current inputs. -/
def CurrentWhenIdle (s : System) : Prop :=
  s.work.pending = false → s.work.running = none → ¬ Unqueued s →
    s.st.report = recomputed (inputs s.st)

theorem Tracked.current_when_idle (s : System) (tracked : Tracked s) : CurrentWhenIdle s := by
  intro unmarked idle queued
  rcases tracked.settled with covers | owed | unqueued
  · obtain ⟨n, latest, recent, listed, computed⟩ := covers
    have inside := (List.getElem?_eq_some_iff.mp listed).1
    have last : s.history.length - 1 = n := by omega
    have newest := tracked.current
    rw [List.getLast?_eq_getElem?, last, listed] at newest
    rw [computed, Option.some.inj newest]
  · rcases owed with pending | entered
    · rw [unmarked] at pending
      cases pending
    · cases idle.symm.trans entered
  · exact absurd unqueued queued

/-- Over every interleaving of the clients, the worker and `simplex_init`: from
the return of a writing call on, every `GET_REPORT` reports inputs at least as
recent as that write, and an idle work item leaves the report current. -/
theorem report_freshness (cfg : SimplexAdalterCfg) (before after : List Event) :
    (∀ (w : Nat) (writer : Call) (version : Nat),
      (Trace.run advance (published cfg) before).calls[w]? = some writer →
      writer.stage = .done version →
      Answers version (Trace.run advance (published cfg) before).calls.length
        (Trace.run advance (published cfg) (before ++ after))) ∧
      CurrentWhenIdle (Trace.run advance (published cfg) before) := by
  have tracked := run_tracked cfg before
  constructor
  · intro w writer version found returned
    have covers : Promise _ writer.stage := tracked.promises w writer found
    rw [returned] at covers
    rw [Trace.run_append]
    refine run_answers version _ _ after tracked covers ?_
    intro k call report later called _
    have inside := (List.getElem?_eq_some_iff.mp called).1
    omega
  · exact tracked.current_when_idle

/-- `simplex_init` returns, a store of a key follows, then a `GET_REPORT`. -/
def storeThenReport : List Event × List Event :=
  ([.call 0, .start, .worker, .worker, .call 0, .call 0,
    .enter (.lastKeyStore (text "mesh-a")), .call 1, .call 1, .start, .worker, .worker, .call 1,
    .call 1],
   [.enter .getReport, .call 2])

theorem report_fresh_after_store :
    let idle := Trace.run advance (published simplexInitCfg) storeThenReport.1
    let last := Trace.run advance (published simplexInitCfg)
      (storeThenReport.1 ++ storeThenReport.2)
    idle.st.report = recomputed (inputs idle.st) ∧
      ∃ report, last.calls[2]? = some ⟨.getReport, .answered report⟩ ∧
        ∃ n latest, 1 ≤ n ∧ last.history[n]? = some latest ∧ report = recomputed latest := by
  obtain ⟨returned, current⟩ :=
    report_freshness simplexInitCfg storeThenReport.1 storeThenReport.2
  constructor
  · refine current (by decide +kernel) (by decide +kernel) ?_
    rintro ⟨k, call, version, found, wrote⟩
    match k with
    | 0 | 1 =>
        cases found
        cases wrote
    | k + 2 => cases found
  · have answers := returned 1 ⟨.lastKeyStore (text "mesh-a"), .done 1⟩ 1 rfl rfl
    exact ⟨_, rfl, answers 2 ⟨.getReport, .answered _⟩ _ (by decide +kernel) rfl rfl⟩

end RyzenBuild.RecalcWork
