import RyzenBuild.Proxy.Registry

/-!
What destroying a session and one turn of the accept loop do to the registry:
a turn that fails at any exit leaves it as it was, and one that goes through
adds one session with its two descriptors.
-/
namespace RyzenBuild.Proxy

def Holds (s : Session) (fd : Nat) : Prop := s.client.fd = some fd ∨ s.upstream.fd = some fd

instance (s : Session) (fd : Nat) : Decidable (Holds s fd) :=
  inferInstanceAs (Decidable (_ ∨ _))

structure Destroyed (p p' : Process) (addr : Nat) (s : Session) : Prop where
  sessions : p'.sessions = p.sessions.erase addr
  heap : p'.heap = Function.update p.heap addr none
  openFds : ∀ fd, p'.openFds fd = if Holds s fd then false else p.openFds fd
  fdMap : ∀ fd, p'.fdMap fd = if Holds s fd ∧ fd < infFdMapCap then none else p.fdMap fd
  active : p'.metrics.active =
    if p.metrics.active > 0 then p.metrics.active - 1 else p.metrics.active
  closed : p'.metrics.closed = p.metrics.closed + 1
  created : p'.created = p.created

section Release

variable (p : Process) (peer : Option Nat) (fd : Nat)

@[simp] theorem release_sessions : (releasePeer p peer).sessions = p.sessions := by
  cases peer with
  | none => rfl
  | some held => simp only [releasePeer, closeFd, unregisterFdCtx, epollDel]; split <;> rfl

@[simp] theorem release_heap : (releasePeer p peer).heap = p.heap := by
  cases peer with
  | none => rfl
  | some held => simp only [releasePeer, closeFd, unregisterFdCtx, epollDel]; split <;> rfl

@[simp] theorem release_metrics : (releasePeer p peer).metrics = p.metrics := by
  cases peer with
  | none => rfl
  | some held => simp only [releasePeer, closeFd, unregisterFdCtx, epollDel]; split <;> rfl

@[simp] theorem release_created : (releasePeer p peer).created = p.created := by
  cases peer with
  | none => rfl
  | some held => simp only [releasePeer, closeFd, unregisterFdCtx, epollDel]; split <;> rfl

theorem release_openFds :
    (releasePeer p peer).openFds fd = if peer = some fd then false else p.openFds fd := by
  cases peer with
  | none => rfl
  | some held =>
      have kept : (unregisterFdCtx (epollDel p held) held).openFds = p.openFds := by
        unfold unregisterFdCtx
        split <;> rfl
      simp only [releasePeer, closeFd, kept, Function.update_apply, Option.some.injEq]
      grind

theorem release_fdMap :
    (releasePeer p peer).fdMap fd =
      if peer = some fd ∧ fd < infFdMapCap then none else p.fdMap fd := by
  cases peer with
  | none => simp [releasePeer]
  | some held =>
      simp only [releasePeer, closeFd, unregisterFdCtx, Option.some.injEq]
      split
      · simp only [epollDel, Function.update_apply]
        grind
      · simp only [epollDel]
        grind

end Release

theorem destroyed (p : Process) (addr : Nat) (s : Session) (found : p.heap addr = some s) :
    Destroyed p (sessionDestroy p addr) addr s := by
  constructor
  · simp [sessionDestroy, found, sessionUnlink]
  · simp [sessionDestroy, found, sessionUnlink]
  · intro fd
    simp only [sessionDestroy, found, sessionUnlink, release_openFds, Holds]
    grind
  · intro fd
    simp only [sessionDestroy, found, sessionUnlink, release_fdMap, Holds]
    grind
  · simp [sessionDestroy, found, sessionUnlink]
  · simp [sessionDestroy, found, sessionUnlink]
  · simp [sessionDestroy, found, sessionUnlink]

/-- The registry is as before; a session that was created has been closed. -/
structure Rejected (p p' : Process) : Prop where
  sessions : p'.sessions = p.sessions
  heap : p'.heap = p.heap
  openFds : p'.openFds = p.openFds
  fdMap : p'.fdMap = p.fdMap
  active : p'.metrics.active = p.metrics.active
  balance : ∃ failed, p'.created = p.created + failed ∧
    p'.metrics.closed = p.metrics.closed + UInt64.ofNat failed

/-- One more session, on two descriptors of its own. -/
structure Grown (p p' : Process) (a : Attempt) (ufd : Nat) : Prop where
  sessions : p'.sessions = p.created :: p.sessions
  heap : p'.heap = Function.update p.heap p.created
    (some (acceptedSession p.nextSessionId a.now a.cfd ufd))
  openFds : p'.openFds = Function.update (Function.update p.openFds a.cfd true) ufd true
  fdMap : p'.fdMap = Function.update
    (Function.update p.fdMap a.cfd (some (peerCtx p.created .client)))
    ufd (some (peerCtx p.created .upstream))
  active : p'.metrics.active = p.metrics.active + 1
  closed : p'.metrics.closed = p.metrics.closed
  created : p'.created = p.created + 1

/-- A turn of the accept loop passes every check and every call in it succeeds. -/
structure GoesThrough (cfg : ProxyConfig) (p : Process) (a : Attempt) (ufd : Nat) : Prop where
  room : toCInt p.metrics.active < cfg.maxConnections
  nonblocking : a.nonblocking = true
  calloc : a.calloc = true
  connect : a.connect = some ufd
  clientSmall : a.cfd < infFdMapCap
  mallocClient : a.mallocClient = true
  upstreamSmall : ufd < infFdMapCap
  mallocUpstream : a.mallocUpstream = true
  addClient : a.addClient = true
  addUpstream : a.addUpstream = true

/-- The kernel hands out descriptors that are not open. -/
structure FreshFds (p : Process) (a : Attempt) : Prop where
  client : p.openFds a.cfd = false
  upstream : ∀ ufd, a.connect = some ufd → p.openFds ufd = false ∧ ufd ≠ a.cfd

/-- A session under construction, before its turn of the accept loop ends. -/
structure Partial (p q : Process) (s : Session) : Prop where
  sessions : q.sessions = p.created :: p.sessions
  heap : q.heap = Function.update p.heap p.created (some s)
  openFds : ∀ fd, q.openFds fd = if Holds s fd then true else p.openFds fd
  fdMap : ∀ fd, ¬ (Holds s fd ∧ fd < infFdMapCap) → q.fdMap fd = p.fdMap fd
  active : q.metrics.active = p.metrics.active + 1
  closed : q.metrics.closed = p.metrics.closed
  created : q.created = p.created + 1

/-- What a turn of the accept loop relies on. -/
structure Ready (p : Process) : Prop where
  unused : p.heap p.created = none
  closedUnmapped : ∀ fd, p.openFds fd = false → p.fdMap fd = none
  countable : p.metrics.active.toNat < 2147483648

/-- Destroying a session under construction undoes all of it. -/
theorem rejected_of_partial (p q : Process) (s : Session) (ready : Ready p)
    (partly : Partial p q s) (fresh : ∀ fd, Holds s fd → p.openFds fd = false) :
    Rejected p (sessionDestroy q p.created) := by
  -- Before the turn the session's descriptors were closed and unmapped, so clearing
  -- them restores both tables.
  have gone := destroyed q p.created s (by rw [partly.heap, Function.update_self])
  have counted : p.metrics.active + 1 > 0 := by
    have small := ready.countable
    rw [gt_iff_lt, UInt64.lt_iff_toNat_lt, UInt64.toNat_add]
    simp
    omega
  constructor
  · rw [gone.sessions, partly.sessions, List.erase_cons_head]
  · rw [gone.heap, partly.heap, Function.update_idem, ← ready.unused, Function.update_eq_self]
  · funext fd
    rw [gone.openFds, partly.openFds]
    by_cases held : Holds s fd
    · simp [held, fresh fd held]
    · simp [held]
  · funext fd
    rw [gone.fdMap]
    by_cases held : Holds s fd ∧ fd < infFdMapCap
    · rw [if_pos held, ready.closedUnmapped fd (fresh fd held.1)]
    · rw [if_neg held, partly.fdMap fd held]
  · rw [gone.active, partly.active, if_pos counted, UInt64.add_sub_cancel]
  · exact ⟨1, by rw [gone.created, partly.created], by rw [gone.closed, partly.closed]; rfl⟩

theorem register_some (malloc : Bool) (p q : Process) (fd addr : Nat) (side : Side) :
    registerFdCtx malloc p fd addr side = some q ↔
      fd < infFdMapCap ∧ malloc = true ∧
        q = { p with fdMap := Function.update p.fdMap fd (some (peerCtx addr side)) } := by
  by_cases large : fd ≥ infFdMapCap
  · simp [registerFdCtx, large, Nat.not_lt.mpr large]
  · cases malloc with
    | false => simp [registerFdCtx, large]
    | true => simp [registerFdCtx, large, Nat.lt_of_not_le large, eq_comm]

theorem partial_register (p q q' : Process) (s : Session) (malloc : Bool) (fd : Nat) (side : Side)
    (partly : Partial p q s) (held : Holds s fd)
    (registered : registerFdCtx malloc q fd p.created side = some q') : Partial p q' s := by
  obtain ⟨small, _, rfl⟩ := (register_some _ _ _ _ _ _).mp registered
  refine { partly with fdMap := ?_ }
  intro k outside
  have other : k ≠ fd := by
    rintro rfl
    exact outside ⟨held, small⟩
  simp only [Function.update_of_ne other]
  exact partly.fdMap k outside

theorem partial_epoll (p q : Process) (s : Session) (fd : Nat) (events : Events)
    (partly : Partial p q s) : Partial p (epollAdd q fd events) s :=
  { partly with }

/-- The session with its client descriptor, before the upstream connect. -/
def clientOnly (p : Process) (a : Attempt) : Session :=
  { freshSession p.nextSessionId a.now with
    client := { (freshSession p.nextSessionId a.now).client with fd := some a.cfd } }

def withClient (p : Process) (a : Attempt) : Process :=
  setSession (sessionCreate a.now (openFd p a.cfd)) p.created (clientOnly p a)

def withBoth (p : Process) (a : Attempt) (ufd : Nat) : Process :=
  setSession (openFd (withClient p a) ufd) p.created
    (acceptedSession p.nextSessionId a.now a.cfd ufd)

theorem attach_connected (p : Process) (a : Attempt) (ufd : Nat) (connected : a.connect = some ufd) :
    attachUpstream (withClient p a) p.created (clientOnly p a) a =
      registerPeers (withBoth p a ufd) p.created
        (acceptedSession p.nextSessionId a.now a.cfd ufd) ufd a := by
  simp only [attachUpstream, connected]
  rfl

theorem partial_client (p : Process) (a : Attempt) :
    Partial p (withClient p a) (clientOnly p a) := by
  constructor
  · rfl
  · simp [withClient, setSession, sessionCreate, openFd]
  · intro fd
    simp only [withClient, setSession, sessionCreate, openFd, Function.update_apply, Holds,
      clientOnly, freshSession]
    grind
  · exact fun _ _ => rfl
  · rfl
  · rfl
  · rfl

theorem partial_both (p : Process) (a : Attempt) (ufd : Nat) :
    Partial p (withBoth p a ufd) (acceptedSession p.nextSessionId a.now a.cfd ufd) := by
  constructor
  · rfl
  · simp [withBoth, withClient, setSession, sessionCreate, openFd]
  · intro fd
    simp only [withBoth, withClient, setSession, sessionCreate, openFd, Function.update_apply,
      Holds, acceptedSession]
    grind
  · exact fun _ _ => rfl
  · rfl
  · rfl
  · rfl

theorem accepted_holds (id : UInt64) (now : Int) (cfd ufd fd : Nat) :
    Holds (acceptedSession id now cfd ufd) fd ↔ fd = cfd ∨ fd = ufd := by
  simp [Holds, acceptedSession, eq_comm]

theorem rejected_of_close (p q : Process) (a : Attempt) (fresh : FreshFds p a)
    (opened : q.openFds = Function.update p.openFds a.cfd true)
    (sessions : q.sessions = p.sessions) (heap : q.heap = p.heap) (fdMap : q.fdMap = p.fdMap)
    (active : q.metrics.active = p.metrics.active) (closed : q.metrics.closed = p.metrics.closed)
    (created : q.created = p.created) : Rejected p (closeFd q a.cfd) := by
  refine ⟨sessions, heap, ?_, fdMap, active, 0, created, ?_⟩
  · simp only [closeFd, opened, Function.update_idem, ← fresh.client, Function.update_eq_self]
  · simpa [closeFd] using closed

section Turn

variable (cfg : ProxyConfig) (p : Process) (a : Attempt) (ready : Ready p) (fresh : FreshFds p a)

include ready fresh

theorem attach_upstream (room : toCInt p.metrics.active < cfg.maxConnections)
    (nonblocking : a.nonblocking = true) (calloc : a.calloc = true) :
    (∃ ufd, GoesThrough cfg p a ufd ∧
        Grown p (attachUpstream (withClient p a) p.created (clientOnly p a) a) a ufd) ∨
      (∀ ufd, ¬ GoesThrough cfg p a ufd) ∧
        Rejected p (attachUpstream (withClient p a) p.created (clientOnly p a) a) := by
  cases connected : a.connect with
  | none =>
      refine Or.inr ⟨fun ufd through => by simp [through.connect] at connected, ?_⟩
      have built : Partial p { withClient p a with
          metrics := { (withClient p a).metrics with
            upstreamConnectFail := (withClient p a).metrics.upstreamConnectFail + 1 } }
          (clientOnly p a) := { partial_client p a with }
      simp only [attachUpstream, connected]
      apply rejected_of_partial p _ _ ready built
      rintro fd (client | upstream)
      · obtain rfl := Option.some.inj client
        exact fresh.client
      · simp [clientOnly, freshSession] at upstream
  | some ufd =>
      obtain ⟨closedU, distinct⟩ := fresh.upstream ufd connected
      have unopened : ∀ fd, Holds (acceptedSession p.nextSessionId a.now a.cfd ufd) fd →
          p.openFds fd = false := by
        intro fd held
        rcases (accepted_holds _ _ _ _ _).mp held with rfl | rfl
        · exact fresh.client
        · exact closedU
      have holdsC := (accepted_holds p.nextSessionId a.now a.cfd ufd a.cfd).mpr (Or.inl rfl)
      have holdsU := (accepted_holds p.nextSessionId a.now a.cfd ufd ufd).mpr (Or.inr rfl)
      have both := partial_both p a ufd
      rw [attach_connected p a ufd connected, registerPeers]
      -- Every exit from here on destroys a session under construction.
      cases first : registerFdCtx a.mallocClient (withBoth p a ufd) a.cfd p.created .client with
      | none =>
          refine Or.inr ⟨?_, rejected_of_partial p _ _ ready both unopened⟩
          intro _ through
          simp [registerFdCtx, Nat.not_le.mpr through.clientSmall, through.mallocClient] at first
      | some q =>
          have one := partial_register p _ q _ _ _ _ both holdsC first
          obtain ⟨smallC, mallocC, same⟩ := (register_some _ _ _ _ _ _).mp first
          simp only
          cases second : registerFdCtx a.mallocUpstream q ufd p.created .upstream with
          | none =>
              refine Or.inr ⟨?_, rejected_of_partial p _ _ ready one unopened⟩
              intro other through
              obtain rfl : ufd = other := Option.some.inj (connected.symm.trans through.connect)
              simp [registerFdCtx, Nat.not_le.mpr through.upstreamSmall,
                through.mallocUpstream] at second
          | some q' =>
              have two := partial_register p _ q' _ _ _ _ one holdsU second
              obtain ⟨smallU, mallocU, same'⟩ := (register_some _ _ _ _ _ _).mp second
              simp only
              cases addC : a.addClient with
              | false =>
                  refine Or.inr ⟨fun _ through => ?_, rejected_of_partial p _ _ ready two unopened⟩
                  simp [through.addClient] at addC
              | true =>
                  have three := partial_epoll p q' _ a.cfd
                    (sessionEventsForSide (acceptedSession p.nextSessionId a.now a.cfd ufd)
                      .client) two
                  cases addU : a.addUpstream with
                  | false =>
                      refine Or.inr ⟨fun _ through => ?_,
                        rejected_of_partial p _ _ ready three unopened⟩
                      simp [through.addUpstream] at addU
                  | true =>
                      refine Or.inl ⟨ufd, ⟨room, nonblocking, calloc, connected, smallC,
                        mallocC, smallU, mallocU, addC, addU⟩, ?_⟩
                      subst same'
                      subst same
                      constructor
                      · exact two.sessions
                      · exact two.heap
                      · rfl
                      · rfl
                      · exact two.active
                      · exact two.closed
                      · exact two.created

/-- A turn of the accept loop adds a session if it goes through, and leaves
the registry as it was if it does not. -/
theorem accept_turn :
    (∃ ufd, GoesThrough cfg p a ufd ∧ Grown p (acceptTurn cfg p a) a ufd) ∨
      (∀ ufd, ¬ GoesThrough cfg p a ufd) ∧ Rejected p (acceptTurn cfg p a) := by
  by_cases full : toCInt p.metrics.active ≥ cfg.maxConnections
  · refine Or.inr ⟨fun _ through => Int.not_le.mpr through.room full, ?_⟩
    have exits : acceptTurn cfg p a = closeFd
        { openFd p a.cfd with
          metrics := { p.metrics with rejected := p.metrics.rejected + 1 } } a.cfd := by
      simp [acceptTurn, openFd, full]
    rw [exits]
    exact rejected_of_close p _ a fresh rfl rfl rfl rfl rfl rfl rfl
  · cases nonblocking : a.nonblocking with
    | false =>
        refine Or.inr ⟨fun _ through => by simp [through.nonblocking] at nonblocking, ?_⟩
        have exits : acceptTurn cfg p a = closeFd (openFd p a.cfd) a.cfd := by
          simp [acceptTurn, openFd, full, nonblocking]
        rw [exits]
        exact rejected_of_close p _ a fresh rfl rfl rfl rfl rfl rfl rfl
    | true =>
        cases calloc : a.calloc with
        | false =>
            refine Or.inr ⟨fun _ through => by simp [through.calloc] at calloc, ?_⟩
            have exits : acceptTurn cfg p a = closeFd (openFd p a.cfd) a.cfd := by
              simp [acceptTurn, openFd, full, nonblocking, calloc]
            rw [exits]
            exact rejected_of_close p _ a fresh rfl rfl rfl rfl rfl rfl rfl
        | true =>
            have attached : acceptTurn cfg p a =
                attachUpstream (withClient p a) p.created (clientOnly p a) a := by
              have room : ¬ toCInt (openFd p a.cfd).metrics.active ≥ cfg.maxConnections := full
              simp only [acceptTurn, room, nonblocking, calloc]
              rfl
            rw [attached]
            exact attach_upstream cfg p a ready fresh (Int.not_le.mp full) nonblocking calloc

end Turn

end RyzenBuild.Proxy
