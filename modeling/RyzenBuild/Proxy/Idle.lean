import RyzenBuild.Proxy.HalfClose

/-!
The idle timeout. The handler sets `last_activity` for every report, whether
or not the session gets on by it; a report that stays, as `EPOLLRDHUP` does
after a FIN, keeps a session young that moves nothing.
-/
namespace RyzenBuild.Proxy

theorem activity_moves (now : Int) (side : Side) :
    KeptByMoves side fun r => r.session.lastActivity = now where
  connected _ same := same
  read _ _ same := by cases side <;> exact same
  ended _ same := by cases side <;> exact same
  written _ _ same := by cases side <;> exact same
  halfClosed r same := by
    rw [← same]
    simp only [sessionConsiderHalfClose]
    split <;> split <;> rfl
  failed _ _ _ _ same := same
  refreshed _ _ same := same

theorem sideIo_last_activity (calls : Calls) (side : Side) (ev : Events) (r : Relay) :
    (handleSideIo calls side ev r).2.session.lastActivity = calls.now :=
  sideIo_kept _ calls side ev r (activity_moves calls.now side) rfl

/-- Destroying a session takes away its own entry of the heap and no other. -/
theorem destroy_heap (p : Process) (addr other : Nat) :
    (sessionDestroy p addr).heap other = if other = addr then none else p.heap other := by
  cases found : p.heap addr with
  | none =>
      simp only [sessionDestroy, found]
      split
      · rename_i same
        rw [same, found]
      · rfl
  | some s => rw [(destroyed p addr s found).heap, Function.update_apply]

theorem destroy_created (p : Process) (addr : Nat) :
    (sessionDestroy p addr).created = p.created := by
  cases found : p.heap addr with
  | none => simp only [sessionDestroy, found]
  | some s => exact (destroyed p addr s found).created

/-- Whether the idle timeout lets a session live on. -/
def Young (cfg : ProxyConfig) (now : Int) (s : Session) : Bool :=
  !decide (now - s.lastActivity > cfg.idleTimeoutSec)

theorem reap_heap (cfg : ProxyConfig) (now : Int) (p : Process) (addr other : Nat) :
    (reapSession cfg now p addr).heap other =
      if other = addr then (p.heap other).filter (Young cfg now) else p.heap other := by
  unfold reapSession
  cases found : p.heap addr with
  | none =>
      by_cases same : other = addr
      · simp [same, found]
      · simp [same]
  | some s =>
      by_cases expired : now - s.lastActivity > cfg.idleTimeoutSec
      · have old : Young cfg now s = false := by simpa [Young] using expired
        simp only [expired, if_true, destroy_heap]
        by_cases same : other = addr
        · simp [same, found, Option.filter_some, old]
        · simp [same]
      · have young : Young cfg now s = true := by simpa [Young] using expired
        simp only [expired, if_false]
        by_cases same : other = addr
        · simp [same, found, Option.filter_some, young]
        · simp [same]

theorem reaps_heap (cfg : ProxyConfig) (now : Int) (addrs : List Nat) (p : Process) (addr : Nat) :
    (addrs.foldl (reapSession cfg now) p).heap addr =
      if addr ∈ addrs then (p.heap addr).filter (Young cfg now) else p.heap addr := by
  induction addrs generalizing p with
  | nil => simp
  | cons first rest ih =>
      rw [List.foldl_cons, ih, reap_heap]
      by_cases same : addr = first
      · -- A session is tested again where it is listed twice, with the same outcome.
        simp [same]
      · simp [same]

theorem destroys_heap (addrs : List Nat) (p : Process) (addr : Nat) :
    (addrs.foldl sessionDestroy p).heap addr = if addr ∈ addrs then none else p.heap addr := by
  induction addrs generalizing p with
  | nil => simp
  | cons first rest ih =>
      rw [List.foldl_cons, ih, destroy_heap]
      by_cases same : addr = first
      · simp [same]
      · simp [same]

theorem io_heap (p : Process) (addr other : Nat) (s : Session) (side : Side) (e : Event) :
    (dispatchIo p addr s side e).heap other =
      if other = addr then
        if (handleSideIo e.calls side e.events (relayOf p s)).1 then
          some (handleSideIo e.calls side e.events (relayOf p s)).2.session
        else none
      else p.heap other := by
  unfold dispatchIo
  simp only
  split
  · rw [← Function.update_apply]
    rfl
  · rw [destroy_heap]
    by_cases same : other = addr
    · simp [same]
    · simp [same, storeRelay, setSession]

/-- The time of a report for one of the session's two descriptors. -/
def reportTime (s : Session) : LoopInput → Option Int
  | .event e => if Holds s e.fd then some e.calls.now else none
  | _ => none

/-- The time of the last such report of a period. -/
def lastReport (s : Session) (period : List LoopInput) : Option Int :=
  (period.filterMap (reportTime s)).getLast?

def SameFds (s s' : Session) : Prop := ∀ side, (s'.peer side).fd = (s.peer side).fd

theorem same_fds_holds (s s' : Session) (same : SameFds s s') (fd : Nat) :
    Holds s' fd ↔ Holds s fd := by
  have client := same .client
  have upstream := same .upstream
  simp only [Session.peer] at client upstream
  simp only [Holds, client, upstream]

theorem holds_side (s : Session) (fd : Nat) (holds : Holds s fd) :
    ∃ side, (s.peer side).fd = some fd := by
  rcases holds with client | upstream
  · exact ⟨.client, client⟩
  · exact ⟨.upstream, upstream⟩

section Loop

variable (cfg : ProxyConfig) (listenFd : Nat) (p : Process) (registry : Registry cfg listenFd p)

include registry

/-- The accept loop writes at new addresses only. -/
theorem accepts_heap (attempts : List Attempt)
    (fresh : Trace.Steps (acceptTurn cfg) FreshFds p attempts) (addr : Nat)
    (old : addr < p.created) :
    (handleListenerAccept cfg p attempts).heap addr = p.heap addr := by
  induction attempts generalizing p with
  | nil => rfl
  | cons a rest ih =>
      have later := turn_created cfg listenFd p registry a fresh.1
      rw [handleListenerAccept, List.foldl_cons]
      refine (ih (acceptTurn cfg p a) (turn_registry cfg listenFd p registry a fresh.1) fresh.2
        (Nat.lt_of_lt_of_le old later)).trans ?_
      rcases accept_turn cfg p a (registry_ready cfg listenFd p registry) fresh.1 with
        ⟨_, _, grown⟩ | ⟨_, same⟩
      · rw [grown.heap, Function.update_of_ne (Nat.ne_of_lt old)]
      · rw [same.heap]

/-- An address that is free again stays free: a new session gets a new one. -/
theorem gone_stays (input : LoopInput) (answers : KernelAnswers cfg p input) (addr : Nat)
    (old : addr < p.created) (gone : p.heap addr = none) :
    (loopStep cfg p input).heap addr = none := by
  cases input with
  | event e =>
      simp only [loopStep]
      rcases dispatch_cases cfg listenFd p registry e with
        ⟨_, same⟩ | ⟨_, entry, same⟩ | ⟨other, side, s, _, found, same⟩
      · rw [same, gone]
      · rw [same, accepts_heap cfg listenFd p registry e.attempts (answers entry) addr old, gone]
      · have different : addr ≠ other := by
          rintro rfl
          cases gone.symm.trans found
        rw [same, io_heap, if_neg different, gone]
  | idle now => simp [loopStep, enforceIdleTimeouts, reaps_heap, gone]
  | shutdown => simp [loopStep, closeAllSessions, destroys_heap, gone]

/-- What a step makes of a session: it goes, or its descriptors stay and its
last activity is the report it got, if it got one. -/
theorem step_heap (input : LoopInput) (answers : KernelAnswers cfg p input) (addr : Nat)
    (s : Session) (found : p.heap addr = some s) :
    (loopStep cfg p input).heap addr = none ∨
      ∃ s', (loopStep cfg p input).heap addr = some s' ∧ SameFds s s' ∧
        s'.lastActivity = (reportTime s input).getD s.lastActivity := by
  have member := registry.allocated addr s found
  cases input with
  | event e =>
      simp only [loopStep, reportTime]
      by_cases holds : Holds s e.fd
      · obtain ⟨side, held⟩ := holds_side s e.fd holds
        obtain ⟨small, _, entry⟩ := peer_mapped cfg listenFd p registry addr s found side e.fd held
        have dispatched : dispatch cfg p e = dispatchIo p addr s side e := by
          simp [dispatch, Nat.not_le.mpr small, entry, peerCtx, found]
        have owner := sideIo_owner e.calls side e.events (relayOf p s)
        rw [dispatched, io_heap, if_pos rfl, if_pos holds]
        split
        · refine Or.inr ⟨_, rfl, ?_, sideIo_last_activity e.calls side e.events (relayOf p s)⟩
          exact same_owner_peer s p.metrics _ owner
        · exact Or.inl rfl
      · refine Or.inr ⟨s, ?_, fun _ => rfl, by rw [if_neg holds]; rfl⟩
        rcases dispatch_cases cfg listenFd p registry e with
          ⟨_, same⟩ | ⟨_, entry, same⟩ | ⟨other, side, s', hit, found', same⟩
        · rw [same, found]
        · rw [same, accepts_heap cfg listenFd p registry e.attempts (answers entry) addr
            (registry.old addr member), found]
        · -- The report is for a session that holds its descriptor, so for another one.
          have different : addr ≠ other := by
            rintro rfl
            obtain ⟨_, entry⟩ := target_entry p e.fd addr side hit
            have held := mapped_peer cfg listenFd p registry e.fd addr side s entry found
            cases side with
            | client => exact holds (Or.inl held)
            | upstream => exact holds (Or.inr held)
          rw [same, io_heap, if_neg different, found]
  | idle now =>
      simp only [loopStep, enforceIdleTimeouts, reaps_heap, member, if_true, found, reportTime,
        Option.filter_some]
      split
      · exact Or.inr ⟨s, rfl, fun _ => rfl, rfl⟩
      · exact Or.inl rfl
  | shutdown =>
      refine Or.inl ?_
      simp [loopStep, closeAllSessions, destroys_heap, member]

theorem step_created (input : LoopInput) (answers : KernelAnswers cfg p input) :
    p.created ≤ (loopStep cfg p input).created := by
  cases input with
  | event e => exact dispatch_created cfg listenFd p registry e answers
  | idle now =>
      refine Trace.run_invariant (reapSession cfg now) (fun q => p.created ≤ q.created) ?_ p
        p.sessions (Nat.le_refl _)
      intro q addr kept
      unfold reapSession
      split
      · exact kept
      · split
        · rw [destroy_created]
          exact kept
        · exact kept
  | shutdown =>
      refine Trace.run_invariant sessionDestroy (fun q => p.created ≤ q.created) ?_ p
        p.sessions (Nat.le_refl _)
      intro q addr kept
      rw [destroy_created]
      exact kept

/-- Over a whole period: the session goes, or its last activity is its last report. -/
theorem period_heap (period : List LoopInput)
    (answers : Trace.Steps (loopStep cfg) (KernelAnswers cfg) p period) (addr : Nat)
    (s s₁ : Session) (found : p.heap addr = some s₁) (same : SameFds s s₁) :
    (Trace.run (loopStep cfg) p period).heap addr = none ∨
      ∃ s₂, (Trace.run (loopStep cfg) p period).heap addr = some s₂ ∧
        s₂.lastActivity = (lastReport s period).getD s₁.lastActivity := by
  induction period generalizing p s₁ with
  | nil => exact Or.inr ⟨s₁, found, rfl⟩
  | cons input rest ih =>
      have next := registry_step cfg listenFd p input registry answers.1
      have old := registry.old addr (registry.allocated addr s₁ found)
      rw [Trace.run_cons]
      rcases step_heap cfg listenFd p registry input answers.1 addr s₁ found with
        gone | ⟨s₂, kept, fds, activity⟩
      · have later : addr < (loopStep cfg p input).created :=
          Nat.lt_of_lt_of_le old (step_created cfg listenFd p registry input answers.1)
        have stays := Trace.run_of_steps (loopStep cfg) (KernelAnswers cfg)
          (fun q => Registry cfg listenFd q ∧ addr < q.created ∧ q.heap addr = none)
          (fun q input kept answers => ⟨registry_step cfg listenFd q input kept.1 answers,
            Nat.lt_of_lt_of_le kept.2.1 (step_created cfg listenFd q kept.1 input answers),
            gone_stays cfg listenFd q kept.1 input answers addr kept.2.1 kept.2.2⟩)
          _ rest ⟨next, later, gone⟩ answers.2
        exact Or.inl stays.2.2
      · have times : reportTime s₁ input = reportTime s input := by
          cases input with
          | event e => simp only [reportTime, same_fds_holds s s₁ same]
          | idle now => rfl
          | shutdown => rfl
        rcases ih (loopStep cfg p input) next answers.2 s₂ kept
          (fun side => (fds side).trans (same side)) with gone | ⟨s₃, last, activity'⟩
        · exact Or.inl gone
        · refine Or.inr ⟨s₃, last, ?_⟩
          rw [activity', activity, times]
          simp only [lastReport, List.filterMap_cons]
          cases reportTime s input with
          | none => rfl
          | some t =>
              simp only [List.getLast?_cons, Option.getD_some]

end Loop

/-- No byte moves, no connect completes, and no EOF or shutdown mark changes. -/
structure Still (r r' : Relay) : Prop where
  received : ∀ side, r'.received side = r.received side
  sent : ∀ side, r'.sent side = r.sent side
  eof : ∀ side, (r'.session.peer side).readEof = (r.session.peer side).readEof
  shut : ∀ side, (r'.session.peer side).writeShutdown = (r.session.peer side).writeShutdown
  connecting : r'.session.upstream.connecting = r.session.upstream.connecting

/-- The session at `addr` makes no progress in the step. -/
def QuietStep (addr : Nat) (p : Process) : LoopInput → Prop
  | .event e => ∀ s side, p.heap addr = some s → target p e.fd = some (addr, side) →
      Still (relayOf p s) (handleSideIo e.calls side e.events (relayOf p s)).2
  | _ => True

/-- From time `since` to time `now`, longer than the idle timeout, the session
at `addr` makes no progress. -/
structure IdlePeriod (cfg : ProxyConfig) (addr : Nat) (p : Process) (s : Session)
    (period : List LoopInput) (since now : Int) : Prop where
  found : p.heap addr = some s
  before : s.lastActivity ≤ since
  longer : now - since > cfg.idleTimeoutSec
  quiet : Trace.Steps (loopStep cfg) (QuietStep addr) p period

/-- `EPOLLRDHUP` and nothing else. -/
def hangupReport : Events := ⟨false, false, false, false, true⟩

theorem half_close_again (s : Session) (passed : PassedOn s) : sessionConsiderHalfClose s = s := by
  have idle (p : Peer) (shut : p.writeShutdown = true) : peerShutdownWrite p = p := by
    simp [peerShutdownWrite, shut]
  have first : (if s.client.readEof && bufferEmpty s.toUpstream then
      { s with upstream := peerShutdownWrite s.upstream } else s) = s := by
    split
    · rename_i drained
      simp only [Bool.and_eq_true] at drained
      rw [idle s.upstream (passed .client drained.1 drained.2)]
    · rfl
  simp only [sessionConsiderHalfClose, first]
  split
  · rename_i drained
    simp only [Bool.and_eq_true] at drained
    rw [idle s.client (passed .upstream drained.1 drained.2)]
  · rfl

/-- While a half-closed session waits for its other side, the FIN that is
already seen is reported again and again; the session stays as it is, but for
its last activity. -/
theorem hangup_repeats (calls : Calls) (side : Side) (r : Relay)
    (ended : (r.session.peer side).readEof = true) (passed : PassedOn r.session)
    (waits : sessionFullyDone r.session = false) :
    (handleSideIo calls side hangupReport r).1 = true ∧
      (handleSideIo calls side hangupReport r).2.session =
        { r.session with lastActivity := calls.now } ∧
      Still r (handleSideIo calls side hangupReport r).2 := by
  have marked : markEof side { r with session := { r.session with lastActivity := calls.now } } =
      { r with session := { r.session with lastActivity := calls.now } } := by
    cases side with
    | client =>
        have same : { r.session.client with readEof := true } = r.session.client := by
          rw [← ended]
          rfl
        simp [markEof, Session.setPeer, Session.peer, same]
    | upstream =>
        have same : { r.session.upstream with readEof := true } = r.session.upstream := by
          rw [← ended]
          rfl
        simp [markEof, Session.setPeer, Session.peer, same]
  have stages : sideIoStages calls side hangupReport r =
      closeStage { r with session := { r.session with lastActivity := calls.now } } := by
    simp [sideIoStages, connectStage, readStage, hangupStage, writeStage, hangupReport, marked,
      bind, Except.bind]
  have fixed := half_close_again { r.session with lastActivity := calls.now } fun d => by
    cases d with
    | client => exact passed .client
    | upstream => exact passed .upstream
  have kept : handleSideIo calls side hangupReport r = (true, { r with
      session := { r.session with lastActivity := calls.now }
      masks := sessionRefreshInterest { r.session with lastActivity := calls.now } r.masks }) := by
    have waits' : sessionFullyDone { r.session with lastActivity := calls.now } = false := waits
    simp only [handleSideIo, stages, closeStage, fixed, waits']
    rfl
  rw [kept]
  exact ⟨rfl, rfl, fun _ => rfl, fun _ => rfl, fun d => by cases d <;> rfl,
    fun d => by cases d <;> rfl, rfl⟩

/-- epoll was asked for what it reports. -/
def AskedFor (p : Process) : LoopInput → Prop
  | .event e => ∃ mask, p.masks e.fd = some mask ∧ e.events.within mask = true
  | _ => True

/-- The upstream answers, and the client closes. -/
def closedClient : List LoopInput :=
  oneAccept ++
    [.event ⟨6, ⟨false, true, false, false, false⟩, ⟨0, some 0, .again, .again⟩, []⟩,
      .event ⟨5, ⟨true, false, false, false, true⟩, ⟨0, some 0, .eof, .again⟩, []⟩]

def halfClosed : Session :=
  { acceptedSession 1 0 5 6 with
    client := { fd := some 5, readEof := true, writeShutdown := false, connecting := false }
    upstream := { fd := some 6, readEof := false, writeShutdown := true, connecting := false } }

theorem half_closed_passed (now : Int) : PassedOn { halfClosed with lastActivity := now } := by
  intro d ended _
  cases d with
  | client => rfl
  | upstream => cases ended

/-- Two reports of the client's FIN, 60 and 121 seconds after it. -/
def twoReports : List LoopInput :=
  [.event ⟨5, hangupReport, ⟨60, some 0, .again, .again⟩, []⟩,
    .event ⟨5, hangupReport, ⟨121, some 0, .again, .again⟩, []⟩]

theorem two_reports_answers :
    Trace.Steps (loopStep defaultConfig) (KernelAnswers defaultConfig) (listening 3)
      (closedClient ++ twoReports) :=
  ⟨fun _ => ⟨plain_fresh _ 5 6 (by decide) (by decide) (by decide), trivial⟩,
    fun _ => trivial, fun _ => trivial, fun _ => trivial, fun _ => trivial, trivial⟩

theorem report_quiet (p : Process) (now : Int) (e : Event) (report : e.events = hangupReport)
    (found : p.heap 0 = some { halfClosed with lastActivity := now })
    (hit : target p e.fd = some (0, .client)) : QuietStep 0 p (.event e) := by
  intro s side found' hit'
  cases found.symm.trans found'
  cases hit.symm.trans hit'
  rw [report]
  exact (hangup_repeats e.calls .client _ rfl (half_closed_passed now) rfl).2.2

theorem two_reports_idle :
    IdlePeriod defaultConfig 0 (Trace.run (loopStep defaultConfig) (listening 3) closedClient)
      halfClosed twoReports 0 121 where
  found := rfl
  before := by decide
  longer := by decide
  quiet := ⟨report_quiet _ 0 _ rfl rfl rfl, report_quiet _ 60 _ rfl rfl rfl, trivial⟩

/-- After an idle period the timeout destroys the session, if it is still
there, exactly if the last report for its descriptors is old enough. -/
theorem idle_destroyed_iff (cfg : ProxyConfig) (listenFd : Nat) (history period : List LoopInput)
    (addr : Nat) (s : Session) (since now : Int)
    (answers : Trace.Steps (loopStep cfg) (KernelAnswers cfg) (listening listenFd)
      (history ++ period))
    (idle : IdlePeriod cfg addr (Trace.run (loopStep cfg) (listening listenFd) history) s period
      since now) :
    (Trace.run (loopStep cfg) (listening listenFd) (history ++ period ++ [.idle now])).heap addr =
        none ↔
      (Trace.run (loopStep cfg) (listening listenFd) (history ++ period)).heap addr = none ∨
        ∀ t, lastReport s period = some t → now - t > cfg.idleTimeoutSec := by
  obtain ⟨earlier, later⟩ := (Trace.steps_append (loopStep cfg) _ _ history period).mp answers
  have registry := Trace.run_of_steps (loopStep cfg) (KernelAnswers cfg) (Registry cfg listenFd)
    (registry_step cfg listenFd) _ history (registry_listening cfg listenFd) earlier
  have whole := Trace.run_of_steps (loopStep cfg) (KernelAnswers cfg) (Registry cfg listenFd)
    (registry_step cfg listenFd) _ (history ++ period) (registry_listening cfg listenFd) answers
  have outcome := period_heap cfg listenFd _ registry period later addr s s idle.found
    (fun _ => rfl)
  rw [← Trace.run_append] at outcome
  rw [Trace.run_append (loopStep cfg) _ (history ++ period)]
  simp only [Trace.run_cons, Trace.run_nil, loopStep, enforceIdleTimeouts, reaps_heap]
  rcases outcome with gone | ⟨s', kept, activity⟩
  · rw [gone]
    simp
  · have listed := whole.allocated addr s' kept
    have tested : (Young cfg now s' = false) ↔
        ∀ t, lastReport s period = some t → now - t > cfg.idleTimeoutSec := by
      have before := idle.before
      have longer := idle.longer
      simp only [Young, Bool.not_eq_false', decide_eq_true_eq, activity]
      cases lastReport s period with
      | none =>
          simp only [Option.getD_none]
          constructor
          · exact fun _ t none => by cases none
          · intro _
            omega
      | some t => simp
    simp only [listed, if_true, kept, Option.filter_some, ← tested]
    cases Young cfg now s' with
    | true => simp
    | false => simp

/-- Left alone after the second report, the session goes at the next timeout. -/
theorem half_closed_goes_later :
    (Trace.run (loopStep defaultConfig) (listening 3)
      (closedClient ++ twoReports ++ [.idle 242])).heap 0 = none := by
  refine (idle_destroyed_iff defaultConfig 3 closedClient twoReports 0 halfClosed 0 242
    two_reports_answers ⟨two_reports_idle.found, two_reports_idle.before, by decide,
      two_reports_idle.quiet⟩).mpr (Or.inr ?_)
  intro t last
  cases last
  decide

/-- The client has closed and nothing else happens for 121 seconds; the report
that epoll repeats on every wait keeps the session past its timeout. -/
theorem half_closed_outlives_timeout :
    Trace.Steps (loopStep defaultConfig) (KernelAnswers defaultConfig) (listening 3)
        (closedClient ++ twoReports) ∧
      Trace.Steps (loopStep defaultConfig) AskedFor
        (Trace.run (loopStep defaultConfig) (listening 3) closedClient) twoReports ∧
      IdlePeriod defaultConfig 0 (Trace.run (loopStep defaultConfig) (listening 3) closedClient)
        halfClosed twoReports 0 121 ∧
      (Trace.run (loopStep defaultConfig) (listening 3)
        (closedClient ++ twoReports ++ [.idle 121])).heap 0 ≠ none := by
  refine ⟨two_reports_answers, ⟨⟨⟨false, false, true, true, true⟩, rfl, rfl⟩,
    ⟨⟨false, false, true, true, true⟩, rfl, rfl⟩, trivial⟩, two_reports_idle, ?_⟩
  intro gone
  have present : (Trace.run (loopStep defaultConfig) (listening 3)
      (closedClient ++ twoReports ++ [.idle 121])).heap 0 =
        some { halfClosed with lastActivity := 121 } := rfl
  cases gone.symm.trans present

end RyzenBuild.Proxy
