import Mathlib.Algebra.Group.Nat.Defs
import RyzenBuild.Proxy.Descriptors

/-!
The counters that `print_metrics` prints. Every session that is created is active
or closed, and every error counted has closed a session of its own, as long as the
64-bit counters have not been all round.
-/
namespace RyzenBuild.Proxy

inductive Fault where
  | connect
  | read
  | write
  deriving DecidableEq, Repr

/-- The session counters stand still and the errors grow by the fault. -/
structure Counted (m m' : Metrics) (fault : Option Fault) : Prop where
  accepted : m'.accepted = m.accepted
  closed : m'.closed = m.closed
  idleKills : m'.idleKills = m.idleKills
  connects : m'.upstreamConnectFail =
    m.upstreamConnectFail + if fault = some .connect then 1 else 0
  reads : m'.readErrors = m.readErrors + if fault = some .read then 1 else 0
  writes : m'.writeErrors = m.writeErrors + if fault = some .write then 1 else 0

theorem counted_refl (m : Metrics) : Counted m m none :=
  ⟨rfl, rfl, rfl, by simp, by simp, by simp⟩

theorem counted_bytes (m : Metrics) (side : Side) (bytes : UInt64) :
    Counted m (m.setBytes side bytes) none := by
  cases side <;> exact ⟨rfl, rfl, rfl, by simp [Metrics.setBytes], by simp [Metrics.setBytes],
    by simp [Metrics.setBytes]⟩

theorem counted_trans (m m' m'' : Metrics) (fault : Option Fault) (first : Counted m m' none)
    (next : Counted m' m'' fault) : Counted m m'' fault := by
  have connects := first.connects
  have reads := first.reads
  have writes := first.writes
  simp only [reduceCtorEq, if_false, UInt64.add_zero] at connects reads writes
  constructor
  · rw [next.accepted, first.accepted]
  · rw [next.closed, first.closed]
  · rw [next.idleKills, first.idleKills]
  · rw [next.connects, connects]
  · rw [next.reads, reads]
  · rw [next.writes, writes]

/-- A stage that goes on has counted nothing; one that ends the session at most one error. -/
def FaultEnds (m : Metrics) : Except Relay Relay → Prop
  | .ok r => Counted m r.metrics none
  | .error r => ∃ fault, Counted m r.metrics fault

theorem fault_bind (m : Metrics) (x : Except Relay Relay) (f : Relay → Except Relay Relay)
    (first : FaultEnds m x) (next : ∀ r, Counted m r.metrics none → FaultEnds m (f r)) :
    FaultEnds m (x >>= f) := by
  cases x with
  | ok r => exact next r first
  | error r => exact first

section Stages

variable (m : Metrics) (calls : Calls) (side : Side) (ev : Events) (r : Relay)
  (counted : Counted m r.metrics none)

include counted

theorem fault_connect : FaultEnds m (connectStage calls side ev r) := by
  unfold connectStage
  split
  · cases handleConnectComplete calls.soError r.session with
    | none =>
        exact ⟨some .connect, counted_trans m r.metrics _ _ counted
          ⟨rfl, rfl, rfl, by simp, by simp, by simp⟩⟩
    | some s => exact counted
  · exact counted

theorem fault_read : FaultEnds m (readStage calls side ev r) := by
  have moved : Counted m (relayRead calls.recv side r).2.metrics none :=
    counted_trans m r.metrics _ _ counted (counted_bytes r.metrics side _)
  unfold readStage
  split
  · simp only
    split
    · split
      · exact moved
      · exact ⟨some .read, counted_trans m _ _ _ moved ⟨rfl, rfl, rfl, by simp, by simp, by simp⟩⟩
    · exact moved
  · exact counted

theorem fault_write : FaultEnds m (writeStage calls side ev r) := by
  unfold writeStage
  split
  · simp only
    split
    · exact ⟨some .write, counted_trans m r.metrics _ _ counted
        ⟨rfl, rfl, rfl, by simp [relayWrite], by simp [relayWrite], by simp [relayWrite]⟩⟩
    · exact counted
  · exact counted

theorem fault_hangup : Counted m (hangupStage side ev r).metrics none := by
  unfold hangupStage
  split <;> exact counted

theorem fault_close : FaultEnds m (closeStage r) := by
  unfold closeStage
  simp only
  split
  · exact ⟨none, counted⟩
  · exact counted

end Stages

/-- An event that counts an error ends its session. -/
theorem sideIo_counted (calls : Calls) (side : Side) (ev : Events) (r : Relay) :
    ∃ fault, Counted r.metrics (handleSideIo calls side ev r).2.metrics fault ∧
      ((handleSideIo calls side ev r).1 = true → fault = none) := by
  have ends : FaultEnds r.metrics (sideIoStages calls side ev r) := by
    unfold sideIoStages
    simp only
    split
    · exact ⟨none, counted_refl _⟩
    · apply fault_bind _ _ _ (fault_connect r.metrics calls side ev
        { r with session := { r.session with lastActivity := calls.now } } (counted_refl _))
      intro connected counted
      apply fault_bind _ _ _ (fault_read r.metrics calls side ev connected counted)
      intro filled counted
      apply fault_bind _ _ _ (fault_write r.metrics calls side ev _
        (fault_hangup r.metrics side ev filled counted))
      intro drained counted
      exact fault_close r.metrics drained counted
  unfold handleSideIo
  cases ended : sideIoStages calls side ev r with
  | ok r' => exact ⟨none, by simpa [FaultEnds, ended] using ends, fun _ => rfl⟩
  | error r' =>
      rw [ended] at ends
      obtain ⟨fault, counted⟩ := ends
      exact ⟨fault, counted, nofun⟩

/-- The counters as they would be without a bound. -/
structure Tally where
  accepted : Nat
  connects : Nat
  reads : Nat
  writes : Nat
  idleKills : Nat
  closed : Nat

/-- The counters show the tally, modulo 2^64. -/
structure Tally.Shown (t : Tally) (m : Metrics) : Prop where
  accepted : m.accepted = UInt64.ofNat t.accepted
  connects : m.upstreamConnectFail = UInt64.ofNat t.connects
  reads : m.readErrors = UInt64.ofNat t.reads
  writes : m.writeErrors = UInt64.ofNat t.writes
  idleKills : m.idleKills = UInt64.ofNat t.idleKills
  closed : m.closed = UInt64.ofNat t.closed

structure Tally.Sums (t : Tally) (p : Process) : Prop where
  total : t.closed + p.sessions.length = p.created
  listed : p.sessions.length ≤ t.accepted
  entered : t.accepted ≤ p.created
  caused : t.connects + t.reads + t.writes + t.idleKills ≤ t.closed

def Balances (p : Process) : Prop := ∃ t : Tally, t.Shown p.metrics ∧ t.Sums p

def Tally.fault (t : Tally) (fault : Option Fault) : Tally :=
  { t with
    connects := t.connects + if fault = some .connect then 1 else 0
    reads := t.reads + if fault = some .read then 1 else 0
    writes := t.writes + if fault = some .write then 1 else 0 }

theorem balances_listening (listenFd : Nat) : Balances (listening listenFd) :=
  ⟨⟨0, 0, 0, 0, 0, 0⟩, ⟨rfl, rfl, rfl, rfl, rfl, rfl⟩,
    ⟨rfl, Nat.le_refl _, Nat.le_refl _, Nat.le_refl _⟩⟩

theorem fault_sum (t : Tally) (fault : Option Fault) :
    (t.fault fault).connects + (t.fault fault).reads + (t.fault fault).writes ≤
      t.connects + t.reads + t.writes + 1 := by
  rcases fault with _ | _ | _ | _ <;> simp [Tally.fault] <;> omega

theorem ofNat_if (n : Nat) (p : Prop) [Decidable p] :
    UInt64.ofNat (n + if p then 1 else 0) = UInt64.ofNat n + if p then 1 else 0 := by
  rw [UInt64.ofNat_add]
  split <;> rfl

theorem shown_fault (t : Tally) (m m' : Metrics) (fault : Option Fault) (shown : t.Shown m)
    (counted : Counted m m' fault) : (t.fault fault).Shown m' where
  accepted := counted.accepted.trans shown.accepted
  connects := by rw [counted.connects, shown.connects, Tally.fault, ofNat_if]
  reads := by rw [counted.reads, shown.reads, Tally.fault, ofNat_if]
  writes := by rw [counted.writes, shown.writes, Tally.fault, ofNat_if]
  idleKills := counted.idleKills.trans shown.idleKills
  closed := counted.closed.trans shown.closed

def Tally.close (t : Tally) : Tally := { t with closed := t.closed + 1 }

theorem shown_destroyed (t : Tally) (p : Process) (addr : Nat) (s : Session)
    (found : p.heap addr = some s) (shown : t.Shown p.metrics) :
    t.close.Shown (sessionDestroy p addr).metrics := by
  have metrics : (sessionDestroy p addr).metrics = { p.metrics with
      closed := p.metrics.closed + 1
      active := if p.metrics.active > 0 then p.metrics.active - 1 else p.metrics.active } := by
    simp [sessionDestroy, found, sessionUnlink]
  rw [metrics]
  refine { shown with closed := ?_ }
  rw [Tally.close, UInt64.ofNat_add, ← shown.closed]
  rfl

section Steps

variable (cfg : ProxyConfig) (listenFd : Nat) (p : Process) (registry : Registry cfg listenFd p)

include registry

theorem destroyed_length (addr : Nat) (s : Session) (found : p.heap addr = some s) :
    (sessionDestroy p addr).sessions.length + 1 = p.sessions.length := by
  have member := registry.allocated addr s found
  have positive := List.length_pos_of_mem member
  rw [(destroyed p addr s found).sessions, List.length_erase_of_mem member]
  omega

/-- A close settles one counted cause. -/
theorem balances_closed (addr : Nat) (s : Session) (found : p.heap addr = some s) (t : Tally)
    (shown : t.Shown p.metrics) (total : t.closed + p.sessions.length = p.created)
    (listed : p.sessions.length ≤ t.accepted) (entered : t.accepted ≤ p.created)
    (caused : t.connects + t.reads + t.writes + t.idleKills ≤ t.closed + 1) :
    Balances (sessionDestroy p addr) := by
  have fewer := destroyed_length cfg listenFd p registry addr s found
  refine ⟨t.close, shown_destroyed t p addr s found shown, ?_, ?_, ?_, caused⟩
  · rw [destroy_created]
    simp only [Tally.close]
    omega
  · simp only [Tally.close]
    omega
  · rw [destroy_created]
    exact entered

theorem balances_destroyed (addr : Nat) (balances : Balances p) :
    Balances (sessionDestroy p addr) := by
  cases found : p.heap addr with
  | none =>
      simp only [sessionDestroy, found]
      exact balances
  | some s =>
      obtain ⟨t, shown, sums⟩ := balances
      exact balances_closed cfg listenFd p registry addr s found t shown sums.total sums.listed
        sums.entered (Nat.le_succ_of_le sums.caused)

omit registry in
/-- The session a turn created is closed again. -/
theorem balances_undone (q : Process) (s : Session) (started : Started p q s) (t : Tally)
    (shown : t.Shown q.metrics) (total : t.closed + p.sessions.length = p.created)
    (listed : p.sessions.length ≤ t.accepted) (entered : t.accepted ≤ p.created)
    (caused : t.connects + t.reads + t.writes + t.idleKills ≤ t.closed + 1) :
    Balances (sessionDestroy q p.created) := by
  have sessions : (sessionDestroy q p.created).sessions = p.sessions := by
    rw [(destroyed q _ s started.heap).sessions, started.sessions, List.erase_cons_head]
  refine ⟨t.close, shown_destroyed t q _ s started.heap shown, ?_, ?_, ?_, caused⟩
  · rw [destroy_created, started.created, sessions]
    simp only [Tally.close]
    omega
  · rw [sessions]
    exact listed
  · rw [destroy_created, started.created]
    exact Nat.le_succ_of_le entered

theorem balances_turned (a : Attempt) (fresh : FreshFds p a) (balances : Balances p) :
    Balances (acceptTurn cfg p a) := by
  obtain ⟨t, shown, sums⟩ := balances
  have total := sums.total
  have listed := sums.listed
  have entered := sums.entered
  have caused := sums.caused
  have turn := accept_turn cfg p a (registry_ready cfg listenFd p registry) fresh
  have ending := turn_ending cfg p a
  generalize acceptTurn cfg p a = after at turn ending
  cases ending with
  | full => exact ⟨t, { shown with }, { sums with }⟩
  | unstarted => exact ⟨t, { shown with }, { sums with }⟩
  | unconnected q started masks metrics =>
      refine balances_undone p q _ started (t.fault (some .connect)) ?_ (by simpa [Tally.fault])
        (by simpa [Tally.fault]) (by simpa [Tally.fault]) ?_
      · rw [metrics]
        exact shown_fault t p.metrics _ (some .connect) shown ⟨rfl, rfl, rfl, by simp, by simp, by simp⟩
      · simp only [Tally.fault]
        simp
        omega
  | unregistered ufd connected q started metrics =>
      refine balances_undone p q _ started t ?_ total listed entered (Nat.le_succ_of_le caused)
      rw [metrics]
      exact { shown with }
  | through ufd passed q next metrics =>
      rcases turn with ⟨_, _, grown⟩ | ⟨failed, _⟩
      · refine ⟨{ t with accepted := t.accepted + 1 }, ?_, ?_, ?_, ?_, caused⟩
        · rw [metrics]
          refine { shown with accepted := ?_ }
          rw [UInt64.ofNat_add, ← shown.accepted]
          rfl
        · rw [grown.sessions, grown.created, List.length_cons]
          simp only
          omega
        · rw [grown.sessions, List.length_cons]
          exact Nat.succ_le_succ listed
        · rw [grown.created]
          exact Nat.succ_le_succ entered
      · exact absurd passed (failed ufd)

end Steps

theorem balances_keeps (cfg : ProxyConfig) (listenFd : Nat) : KeptByLoop cfg listenFd Balances where
  destroyed p addr registry balances := balances_destroyed cfg listenFd p registry addr balances
  counted p addr s registry balances found := by
    obtain ⟨t, shown, sums⟩ := balances
    have counted := registry_rejected cfg listenFd p registry
      { p with metrics := { p.metrics with idleKills := p.metrics.idleKills + 1 } }
      ⟨rfl, rfl, rfl, rfl, rfl, 0, rfl, by simp⟩
    refine balances_closed cfg listenFd _ counted addr s found
      { t with idleKills := t.idleKills + 1 } ?_ sums.total sums.listed sums.entered
      (Nat.succ_le_succ sums.caused)
    refine { shown with idleKills := ?_ }
    rw [UInt64.ofNat_add, ← shown.idleKills]
    rfl
  turned p a registry balances fresh := balances_turned cfg listenFd p registry a fresh balances
  handled p addr s side e registry balances found := by
    obtain ⟨t, shown, sums⟩ := balances
    have owner := sideIo_owner e.calls side e.events (relayOf p s)
    obtain ⟨fault, counted, clean⟩ := sideIo_counted e.calls side e.events (relayOf p s)
    unfold dispatchIo
    cases ended : handleSideIo e.calls side e.events (relayOf p s) with
    | mk keep r =>
        rw [ended] at owner counted clean
        have now := shown_fault t p.metrics r.metrics fault shown counted
        cases keep with
        | true =>
            -- Nothing was counted in an event that keeps its session.
            obtain rfl := clean rfl
            exact ⟨t.fault none, now, { sums with }⟩
        | false =>
            have caused := sums.caused
            have one := fault_sum t fault
            refine balances_closed cfg listenFd (storeRelay p addr r)
              (registry_store cfg listenFd p registry addr s r found owner) addr r.session
              (by simp [storeRelay, setSession]) (t.fault fault) now sums.total sums.listed
              sums.entered ?_
            simp only [Tally.fault] at one ⊢
            omega

/-- The figures a reader of the metrics relies on. -/
structure Figures (p : Process) : Prop where
  sessions : p.metrics.active.toNat + p.metrics.closed.toNat = p.created
  accepted : p.metrics.active.toNat ≤ p.metrics.accepted.toNat
  created : p.metrics.accepted.toNat ≤ p.created
  caused : p.metrics.upstreamConnectFail.toNat + p.metrics.readErrors.toNat +
    p.metrics.writeErrors.toNat + p.metrics.idleKills.toNat ≤ p.metrics.closed.toNat

theorem figures_of_balances (cfg : ProxyConfig) (listenFd : Nat) (p : Process)
    (registry : Registry cfg listenFd p) (balances : Balances p) (few : p.created < 2 ^ 64) :
    Figures p := by
  obtain ⟨t, shown, sums⟩ := balances
  have total := sums.total
  have listed := sums.listed
  have entered := sums.entered
  have caused := sums.caused
  have exact_ (x : UInt64) (n : Nat) (same : x = UInt64.ofNat n) (small : n ≤ p.created) :
      x.toNat = n := by
    rw [same, UInt64.toNat_ofNat_of_lt' (Nat.lt_of_le_of_lt small few)]
  have accepted := exact_ _ _ shown.accepted entered
  have closed := exact_ _ _ shown.closed (by omega)
  have connects := exact_ _ _ shown.connects (by omega)
  have reads := exact_ _ _ shown.reads (by omega)
  have writes := exact_ _ _ shown.writes (by omega)
  have idleKills := exact_ _ _ shown.idleKills (by omega)
  have active := registry.active
  constructor <;> omega

/-- In every state of every run, and again when the sessions are closed at the end,
the figures add up; at the end every session is a closed one. -/
theorem figures_add_up (cfg : ProxyConfig) (listenFd : Nat) (inputs : List LoopInput)
    (answers : Trace.Steps (loopStep cfg) (KernelAnswers cfg) (listening listenFd) inputs) :
    Trace.Always (loopStep cfg)
      (fun p => p.created < 2 ^ 64 → Figures p ∧ Figures (mainExit listenFd p) ∧
        (mainExit listenFd p).metrics.active = 0 ∧
        (mainExit listenFd p).metrics.closed.toNat = p.created)
      (listening listenFd) inputs := by
  refine Trace.always_mono (loopStep cfg) _ _ ?_ _ inputs
    (always_kept cfg listenFd Balances (balances_keeps cfg listenFd) inputs
      (balances_listening listenFd) answers)
  rintro p kept few
  obtain ⟨registry, balances⟩ := loop_kept cfg listenFd Balances (balances_keeps cfg listenFd) p
    .shutdown kept trivial
  have created : (closeAllSessions p).created = p.created :=
    Trace.run_invariant sessionDestroy (fun q => q.created = p.created)
      (fun q addr same => (destroy_created q addr).trans same) p p.sessions rfl
  have last := figures_of_balances cfg listenFd _ registry balances (by
    simp only [loopStep]
    rwa [created])
  have none_active := registry.active
  simp only [loopStep] at last none_active
  rw [closed_sessions cfg listenFd p kept.1] at none_active
  have metrics : (mainExit listenFd p).metrics = (closeAllSessions p).metrics := by
    simp only [mainExit, closeFd, unregisterFdCtx, epollDel]
    split <;> rfl
  have still : (mainExit listenFd p).created = (closeAllSessions p).created := by
    simp only [mainExit, closeFd, unregisterFdCtx, epollDel]
    split <;> rfl
  refine ⟨figures_of_balances cfg listenFd p kept.1 kept.2 few, ?_, ?_, ?_⟩
  · constructor
    · rw [metrics, still]
      exact last.sessions
    · rw [metrics]
      exact last.accepted
    · rw [metrics, still]
      exact last.created
    · rw [metrics]
      exact last.caused
  · rw [metrics]
    exact UInt64.toNat_inj.mp none_active
  · have sum := last.sessions
    rw [none_active, created] at sum
    rw [metrics, ← sum]
    simp

theorem hangup_figures :
    Figures (Trace.run (loopStep defaultConfig) (listening 3)
      [.event (acceptEvent 3 [plainAttempt 5 6]), .event (hangupEvent 5)]) := by
  have always := figures_add_up defaultConfig 3
    [.event (acceptEvent 3 [plainAttempt 5 6]), .event (hangupEvent 5)]
    ⟨fun _ => ⟨plain_fresh _ 5 6 (by decide) (by decide) (by decide), trivial⟩,
      fun _ => trivial, trivial⟩
  exact (Trace.always_final _ _ _ _ always (by decide +kernel)).1

end RyzenBuild.Proxy
