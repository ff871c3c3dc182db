import RyzenBuild.Proxy.EventLoop
import RyzenBuild.Proxy.SideIo

/-!
The interest masks of a session. `session_events_for_side` takes the space
behind the end of a buffer without compacting it; it is the right space
because an empty buffer starts over at 0. The masks in force are those of the
session's present state, between any two turns of the event loop.
-/
namespace RyzenBuild.Proxy

/-- A kept event ends by giving epoll the masks of the session it leaves. -/
theorem kept_masks (calls : Calls) (side : Side) (ev : Events) (r r' : Relay) (tidy : TidyRelay r)
    (kept : handleSideIo calls side ev r = (true, r')) (d : Side)
    (held : (r'.session.peer d).fd.isSome = true) :
    r'.masks d = sessionEventsForSide r'.session d := by
  rcases sideIo_cases calls side ev r tidy with ⟨r₃, reaches, _⟩ | ⟨_, gone, _⟩
  · simp only [handleSideIo, reaches_stages calls side ev r r₃ reaches, closeStage] at kept
    cases done : sessionFullyDone (sessionConsiderHalfClose r₃.session) with
    | true => simp [done] at kept
    | false =>
        simp only [done, Bool.false_eq_true, if_false, Prod.mk.injEq, true_and] at kept
        subst kept
        simp only [sessionRefreshInterest] at held ⊢
        rw [if_pos held]
  · cases gone.symm.trans kept

theorem release_masks (p : Process) (peer : Option Nat) (fd : Nat) :
    (releasePeer p peer).masks fd = if peer = some fd then none else p.masks fd := by
  cases peer with
  | none => rfl
  | some held =>
      have kept : (unregisterFdCtx (epollDel p held) held).masks = (epollDel p held).masks := by
        unfold unregisterFdCtx
        split <;> rfl
      simp only [releasePeer, closeFd]
      rw [kept]
      simp [epollDel, Function.update_apply, eq_comm]

/-- A session takes its own two masks away. -/
theorem destroy_masks (p : Process) (addr : Nat) (s : Session) (found : p.heap addr = some s)
    (fd : Nat) :
    (sessionDestroy p addr).masks fd = if Holds s fd then none else p.masks fd := by
  simp only [sessionDestroy, found, sessionUnlink, release_masks, Holds]
  by_cases upstream : s.upstream.fd = some fd
  · simp [upstream]
  · simp [upstream]

section Turn

variable (cfg : ProxyConfig) (p : Process) (a : Attempt)

/-- The end of a turn only gives or takes masks at the descriptors of its session. -/
theorem register_masks (q : Process) (addr ufd : Nat) (s : Session)
    (found : q.heap addr = some s) (held : ∀ fd, Holds s fd → fd = a.cfd ∨ fd = ufd) (fd : Nat)
    (notC : fd ≠ a.cfd) (notU : fd ≠ ufd) :
    (registerPeers q addr s ufd a).masks fd = q.masks fd := by
  have unheld : ¬ Holds s fd := fun holds => (held fd holds).elim notC notU
  -- Every exit destroys the session, which may have been given its masks by then.
  have exits (q' : Process) (heap : q'.heap = q.heap) (masks : q'.masks fd = q.masks fd) :
      (sessionDestroy q' addr).masks fd = q.masks fd := by
    rw [destroy_masks q' addr s (by rw [heap]; exact found), if_neg unheld, masks]
  unfold registerPeers
  cases first : registerFdCtx a.mallocClient q a.cfd addr .client with
  | none => exact exits q rfl rfl
  | some one =>
      obtain ⟨_, _, same⟩ := (register_some _ _ _ _ _ _).mp first
      simp only
      cases second : registerFdCtx a.mallocUpstream one ufd addr .upstream with
      | none => exact exits one (by rw [same]) (by rw [same])
      | some two =>
          obtain ⟨_, _, same'⟩ := (register_some _ _ _ _ _ _).mp second
          have heap : two.heap = q.heap := by rw [same', same]
          have masks : two.masks = q.masks := by rw [same', same]
          simp only
          split
          · exact exits two heap (by rw [masks])
          · split
            · exact exits (epollAdd two a.cfd _) heap
                (by simp [epollAdd, Function.update_of_ne notC, masks])
            · simp [epollAdd, Function.update_of_ne notC, Function.update_of_ne notU, masks]

theorem attach_masks (fd : Nat) (notC : fd ≠ a.cfd) (notU : a.connect ≠ some fd) :
    (attachUpstream (withClient p a) p.created (clientOnly p a) a).masks fd = p.masks fd := by
  cases connected : a.connect with
  | none =>
      have unheld : ¬ Holds (clientOnly p a) fd := by
        simp [Holds, clientOnly, freshSession, Ne.symm notC]
      simp only [attachUpstream, connected]
      rw [destroy_masks _ _ (clientOnly p a) (by simp [withClient, setSession]), if_neg unheld]
      rfl
  | some ufd =>
      have apart : fd ≠ ufd := by
        rintro rfl
        exact notU connected
      rw [attach_connected p a ufd connected, register_masks a (withBoth p a ufd) p.created ufd
        (acceptedSession p.nextSessionId a.now a.cfd ufd) (by simp [withBoth, setSession])
        (fun held => (accepted_holds _ _ _ _ _).mp) fd notC apart]
      rfl

/-- A turn of the accept loop leaves all other masks alone. -/
theorem turn_masks (fd : Nat) (notC : fd ≠ a.cfd) (notU : a.connect ≠ some fd) :
    (acceptTurn cfg p a).masks fd = p.masks fd := by
  by_cases full : toCInt (openFd p a.cfd).metrics.active ≥ cfg.maxConnections
  · simp only [acceptTurn, full, if_true]
    rfl
  · cases nonblocking : a.nonblocking with
    | false =>
        simp only [acceptTurn, full, nonblocking]
        rfl
    | true =>
        cases calloc : a.calloc with
        | false =>
            simp only [acceptTurn, full, nonblocking, calloc]
            rfl
        | true =>
            have attached : acceptTurn cfg p a =
                attachUpstream (withClient p a) p.created (clientOnly p a) a := by
              simp only [acceptTurn, full, nonblocking, calloc]
              rfl
            rw [attached]
            exact attach_masks p a fd notC notU

/-- A turn that goes through registers what the new session's state asks for. -/
theorem through_masks (ufd : Nat) (fresh : FreshFds p a) (through : GoesThrough cfg p a ufd)
    (side : Side) (fd : Nat)
    (held : ((acceptedSession p.nextSessionId a.now a.cfd ufd).peer side).fd = some fd) :
    (acceptTurn cfg p a).masks fd =
      some (sessionEventsForSide (acceptedSession p.nextSessionId a.now a.cfd ufd) side) := by
  have apart := (fresh.upstream ufd through.connect).2
  have room : ¬ toCInt p.metrics.active ≥ cfg.maxConnections := Int.not_le.mpr through.room
  have taken : acceptTurn cfg p a =
      registerPeers (withBoth p a ufd) p.created
        (acceptedSession p.nextSessionId a.now a.cfd ufd) ufd a := by
    simp only [acceptTurn, openFd, room, through.nonblocking, through.calloc, attachUpstream,
      through.connect]
    rfl
  rw [taken]
  simp only [registerPeers, registerFdCtx, Nat.not_le.mpr through.clientSmall,
    through.mallocClient, Nat.not_le.mpr through.upstreamSmall, through.mallocUpstream,
    through.addClient, through.addUpstream]
  cases side with
  | client =>
      obtain rfl := Option.some.inj held
      simp [epollAdd, Function.update_of_ne (Ne.symm apart)]
  | upstream =>
      obtain rfl := Option.some.inj held
      simp [epollAdd]

end Turn

/-- Every session's buffers are tidy, and epoll holds the masks its state asks for. -/
structure InForce (p : Process) : Prop where
  tidy : ∀ addr s, p.heap addr = some s → ∀ side : Side, Tidy (s.inbuf side)
  masks : ∀ addr s, p.heap addr = some s → ∀ (side : Side) (fd : Nat),
    (s.peer side).fd = some fd → p.masks fd = some (sessionEventsForSide s side)

theorem store_masks_other (p : Process) (addr : Nat) (s : Session) (r : Relay)
    (same : SameOwner s p.metrics r) (fd : Nat) (unheld : ¬ Holds s fd) :
    (storeRelay p addr r).masks fd = p.masks fd := by
  have client : r.session.client.fd ≠ some fd := fun held =>
    unheld (Or.inl (same.client.symm.trans held))
  have upstream : r.session.upstream.fd ≠ some fd := fun held =>
    unheld (Or.inr (same.upstream.symm.trans held))
  simp [storeRelay, client, upstream]

section Loop

variable (cfg : ProxyConfig) (listenFd : Nat) (p : Process) (registry : Registry cfg listenFd p)

include registry

/-- No two sessions share a descriptor. -/
theorem unheld_by_other (addr other : Nat) (s s' : Session) (found : p.heap addr = some s)
    (also : p.heap other = some s') (different : other ≠ addr) (side : Side) (fd : Nat)
    (held : (s'.peer side).fd = some fd) : ¬ Holds s fd := by
  have single := (registry_agrees cfg listenFd p registry).single
  rintro (client | upstream)
  · exact different (single other addr s' s side .client fd also found held client).1
  · exact different (single other addr s' s side .upstream fd also found held upstream).1

theorem force_destroy (inForce : InForce p) (addr : Nat) : InForce (sessionDestroy p addr) := by
  cases found : p.heap addr with
  | none =>
      simp only [sessionDestroy, found]
      exact inForce
  | some s =>
      have heap (other : Nat) (s' : Session)
          (also : (sessionDestroy p addr).heap other = some s') :
          other ≠ addr ∧ p.heap other = some s' := by
        rw [(destroyed p addr s found).heap] at also
        by_cases same : other = addr
        · subst same
          rw [Function.update_self] at also
          cases also
        · rw [Function.update_of_ne same] at also
          exact ⟨same, also⟩
      constructor
      · intro other s' also
        exact inForce.tidy other s' (heap other s' also).2
      · intro other s' also side fd held
        obtain ⟨different, old⟩ := heap other s' also
        have unheld := unheld_by_other cfg listenFd p registry addr other s s' found old different
          side fd held
        rw [destroy_masks p addr s found, if_neg unheld]
        exact inForce.masks other s' old side fd held

theorem force_turn (inForce : InForce p) (a : Attempt) (fresh : FreshFds p a) :
    InForce (acceptTurn cfg p a) := by
  -- A session that is there already is on open descriptors, which the kernel does not return.
  have kept (addr : Nat) (s : Session) (found : p.heap addr = some s) (side : Side) (fd : Nat)
      (held : (s.peer side).fd = some fd) :
      (acceptTurn cfg p a).masks fd = some (sessionEventsForSide s side) := by
    have opened := (peer_mapped cfg listenFd p registry addr s found side fd held).2.1
    have notC : fd ≠ a.cfd := by
      rintro rfl
      rw [fresh.client] at opened
      cases opened
    have notU : a.connect ≠ some fd := by
      intro connected
      rw [(fresh.upstream fd connected).1] at opened
      cases opened
    rw [turn_masks cfg p a fd notC notU]
    exact inForce.masks addr s found side fd held
  rcases accept_turn cfg p a (registry_ready cfg listenFd p registry) fresh with
    ⟨ufd, through, grown⟩ | ⟨_, same⟩
  · constructor
    · intro addr s found
      rw [grown.heap] at found
      by_cases new : addr = p.created
      · subst new
        rw [Function.update_self] at found
        cases found
        intro side
        cases side with
        | client => exact tidy_zero
        | upstream => exact tidy_zero
      · rw [Function.update_of_ne new] at found
        exact inForce.tidy addr s found
    · intro addr s found side fd held
      rw [grown.heap] at found
      by_cases new : addr = p.created
      · subst new
        rw [Function.update_self] at found
        cases found
        exact through_masks cfg p a ufd fresh through side fd held
      · rw [Function.update_of_ne new] at found
        exact kept addr s found side fd held
  · constructor
    · intro addr s found
      exact inForce.tidy addr s (same.heap ▸ found)
    · intro addr s found side fd held
      exact kept addr s (same.heap ▸ found) side fd held

/-- Storing a handled event gives its session new masks and no other. -/
theorem store_masks (addr : Nat) (s : Session) (found : p.heap addr = some s) (r : Relay)
    (same : SameOwner s p.metrics r) (side : Side) (fd : Nat)
    (held : (s.peer side).fd = some fd) : (storeRelay p addr r).masks fd = some (r.masks side) := by
  obtain ⟨s', c, u, at_⟩ := registry.attached addr (registry.allocated addr s found)
  cases found.symm.trans at_.allocated
  cases side with
  | client =>
      have mine : r.session.client.fd = some fd := same.client.trans held
      simp [storeRelay, mine]
  | upstream =>
      have mine : r.session.upstream.fd = some fd := same.upstream.trans held
      have other : r.session.client.fd ≠ some fd := by
        intro client
        have both : c = u := by
          rw [same.client, at_.client] at client
          rw [Session.peer, at_.upstream] at held
          exact Option.some.inj (client.trans held.symm)
        exact at_.distinct both
      simp [storeRelay, mine, other]

theorem force_io (inForce : InForce p) (addr : Nat) (s : Session) (side : Side) (e : Event)
    (found : p.heap addr = some s) : InForce (dispatchIo p addr s side e) := by
  have owner := sideIo_owner e.calls side e.events (relayOf p s)
  have tidy : TidyRelay (handleSideIo e.calls side e.events (relayOf p s)).2 :=
    tidy_sideIo e.calls side e.events (relayOf p s) (inForce.tidy addr s found)
  cases ended : handleSideIo e.calls side e.events (relayOf p s) with
  | mk keep r =>
      rw [ended] at owner tidy
      -- The masks of the other sessions are not touched.
      have others (other : Nat) (s' : Session) (different : other ≠ addr)
          (also : p.heap other = some s') (d : Side) (fd : Nat)
          (held : (s'.peer d).fd = some fd) :
          ¬ Holds s fd ∧ (storeRelay p addr r).masks fd = some (sessionEventsForSide s' d) := by
        have unheld := unheld_by_other cfg listenFd p registry addr other s s' found also different
          d fd held
        refine ⟨unheld, ?_⟩
        rw [store_masks_other p addr s r owner fd unheld]
        exact inForce.masks other s' also d fd held
      simp only [dispatchIo, ended]
      cases keep with
      | true =>
          simp only [if_true]
          constructor
          · intro other s' also
            by_cases here : other = addr
            · subst here
              simp only [storeRelay, setSession, Function.update_self] at also
              cases also
              exact tidy
            · simp only [storeRelay, setSession, Function.update_of_ne here] at also
              exact inForce.tidy other s' also
          · intro other s' also d fd held
            by_cases here : other = addr
            · subst here
              simp only [storeRelay, setSession, Function.update_self] at also
              cases also
              have before : (s.peer d).fd = some fd :=
                (same_owner_peer s p.metrics r owner d).symm.trans held
              rw [store_masks cfg listenFd p registry other s found r owner d fd before,
                kept_masks e.calls side e.events (relayOf p s) r (inForce.tidy other s found) ended d
                  (by rw [held]; rfl)]
            · simp only [storeRelay, setSession, Function.update_of_ne here] at also
              exact (others other s' here also d fd held).2
      | false =>
          simp only [Bool.false_eq_true, if_false]
          have stored : (storeRelay p addr r).heap addr = some r.session := by
            simp [storeRelay, setSession]
          have heap (other : Nat) (s' : Session)
              (also : (sessionDestroy (storeRelay p addr r) addr).heap other = some s') :
              other ≠ addr ∧ p.heap other = some s' := by
            rw [(destroyed _ addr r.session stored).heap] at also
            by_cases same : other = addr
            · subst same
              rw [Function.update_self] at also
              cases also
            · simp only [Function.update_of_ne same, storeRelay, setSession] at also
              exact ⟨same, also⟩
          constructor
          · intro other s' also
            exact inForce.tidy other s' (heap other s' also).2
          · intro other s' also d fd held
            obtain ⟨different, old⟩ := heap other s' also
            obtain ⟨unheld, masks⟩ := others other s' different old d fd held
            have still : ¬ Holds r.session fd := by
              rintro (client | upstream)
              · exact unheld (Or.inl (owner.client.symm.trans client))
              · exact unheld (Or.inr (owner.upstream.symm.trans upstream))
            rw [destroy_masks _ addr r.session stored, if_neg still]
            exact masks

theorem force_dispatch (inForce : InForce p) (e : Event)
    (fresh : p.fdMap e.fd = some listenerCtx → Trace.Steps (acceptTurn cfg) FreshFds p e.attempts) :
    InForce (dispatch cfg p e) := by
  rcases dispatch_cases cfg listenFd p registry e with
    ⟨_, same⟩ | ⟨_, entry, same⟩ | ⟨addr, side, s, _, found, same⟩
  · rw [same]
    exact inForce
  · rw [same]
    have both := Trace.run_of_steps (acceptTurn cfg) FreshFds
      (fun q => Registry cfg listenFd q ∧ InForce q)
      (fun q a kept answers => ⟨turn_registry cfg listenFd q kept.1 a answers,
        force_turn cfg listenFd q kept.1 kept.2 a answers⟩)
      p e.attempts ⟨registry, inForce⟩ (fresh entry)
    exact both.2
  · rw [same]
    exact force_io cfg listenFd p registry inForce addr s side e found

end Loop

theorem force_listening (listenFd : Nat) : InForce (listening listenFd) where
  tidy addr s found := by cases found
  masks addr s found := by cases found

theorem force_step (cfg : ProxyConfig) (listenFd : Nat) (p : Process) (input : LoopInput)
    (kept : Registry cfg listenFd p ∧ InForce p) (answers : KernelAnswers cfg p input) :
    Registry cfg listenFd (loopStep cfg p input) ∧ InForce (loopStep cfg p input) := by
  obtain ⟨registry, inForce⟩ := kept
  refine ⟨registry_step cfg listenFd p input registry answers, ?_⟩
  have destroys (q : Process) (addr : Nat) (kept : Registry cfg listenFd q ∧ InForce q) :
      Registry cfg listenFd (sessionDestroy q addr) ∧ InForce (sessionDestroy q addr) :=
    ⟨registry_destroy cfg listenFd q kept.1 addr, force_destroy cfg listenFd q kept.1 kept.2 addr⟩
  cases input with
  | event e => exact force_dispatch cfg listenFd p registry inForce e answers
  | idle now =>
      have reaps (q : Process) (addr : Nat) (kept : Registry cfg listenFd q ∧ InForce q) :
          Registry cfg listenFd (reapSession cfg now q addr) ∧
            InForce (reapSession cfg now q addr) := by
        refine ⟨registry_reap cfg listenFd q kept.1 now addr, ?_⟩
        unfold reapSession
        split
        · exact kept.2
        · split
          · -- The counter of idle kills is no part of the invariant.
            have counted : Registry cfg listenFd { q with
                metrics := { q.metrics with idleKills := q.metrics.idleKills + 1 } } :=
              registry_rejected cfg listenFd q kept.1 _ ⟨rfl, rfl, rfl, rfl, rfl, 0, rfl, by simp⟩
            exact force_destroy cfg listenFd _ counted ⟨kept.2.tidy, kept.2.masks⟩ addr
          · exact kept.2
      exact (Trace.run_invariant (reapSession cfg now) _ reaps p p.sessions
        ⟨registry, inForce⟩).2
  | shutdown =>
      exact (Trace.run_invariant sessionDestroy _ destroys p p.sessions ⟨registry, inForce⟩).2

/-- The bit is in the mask that epoll holds for the descriptor. -/
def Interested (p : Process) (fd : Option Nat) (bit : Events → Bool) : Prop :=
  ∃ k mask, fd = some k ∧ p.masks k = some mask ∧ bit mask = true

/-- The direction from side `d` can go on: its source may be read or its
destination written. -/
def Served (p : Process) (s : Session) (d : Side) : Prop :=
  Interested p (s.peer d).fd Events.epollin ∨ Interested p (s.peer d.other).fd Events.epollout

/-- The direction from an upstream that is still connecting, and epoll reports
the end of the connect. -/
def AwaitsConnect (p : Process) (s : Session) (d : Side) : Prop :=
  d = .upstream ∧ s.upstream.connecting = true ∧ Interested p s.upstream.fd Events.epollout

/-- The source has not ended or bytes of the direction are left. -/
def Unfinished (s : Session) (d : Side) : Prop :=
  (s.peer d).readEof = false ∨ bufferEmpty (s.inbuf d) = false

theorem space_or_bytes (b : Buffer) (tidy : Tidy b) :
    bufferSpace b > 0 ∨ bufferEmpty b = false := by
  by_cases full : bufferSpace b > 0
  · exact Or.inl full
  · refine Or.inr ?_
    have within := tidy.sound.within
    have positive : 0 < infBufferCap := by decide
    simp only [bufferSpace] at full
    simp only [bufferEmpty, beq_eq_false_iff_ne]
    intro same
    have zero := tidy.reset same
    omega

theorem served_or_awaits (cfg : ProxyConfig) (listenFd : Nat) (p : Process)
    (registry : Registry cfg listenFd p) (inForce : InForce p) (addr : Nat) (s : Session)
    (found : p.heap addr = some s) (d : Side) (unfinished : Unfinished s d) :
    Served p s d ∨ AwaitsConnect p s d := by
  obtain ⟨s', c, u, at_⟩ := registry.attached addr (registry.allocated addr s found)
  cases found.symm.trans at_.allocated
  have client := inForce.masks addr s found .client c at_.client
  have upstream := inForce.masks addr s found .upstream u at_.upstream
  have readable := space_or_bytes (s.inbuf d) (inForce.tidy addr s found d)
  cases d with
  | client =>
      refine Or.inl ?_
      cases connecting : s.upstream.connecting with
      | true =>
          exact Or.inr ⟨u, _, at_.upstream, upstream, by simp [sessionEventsForSide, connecting]⟩
      | false =>
          cases empty : bufferEmpty s.toUpstream with
          | false =>
              exact Or.inr ⟨u, _, at_.upstream, upstream,
                by simp [sessionEventsForSide, connecting, empty]⟩
          | true =>
              rcases unfinished with open_ | bytes
              · rcases readable with space | bytes
                · refine Or.inl ⟨c, _, at_.client, client, ?_⟩
                  simp only [Session.peer] at open_
                  simp only [Session.inbuf] at space
                  simp [sessionEventsForSide, open_, space]
                · cases empty.symm.trans bytes
              · cases empty.symm.trans bytes
  | upstream =>
      cases connecting : s.upstream.connecting with
      | true =>
          exact Or.inr ⟨rfl, connecting, u, _, at_.upstream, upstream,
            by simp [sessionEventsForSide, connecting]⟩
      | false =>
          refine Or.inl ?_
          cases empty : bufferEmpty s.toClient with
          | false =>
              exact Or.inr ⟨c, _, at_.client, client, by simp [sessionEventsForSide, empty]⟩
          | true =>
              rcases unfinished with open_ | bytes
              · rcases readable with space | bytes
                · refine Or.inl ⟨u, _, at_.upstream, upstream, ?_⟩
                  simp only [Session.peer] at open_
                  simp only [Session.inbuf] at space
                  simp [sessionEventsForSide, connecting, open_, space]
                · cases empty.symm.trans bytes
              · cases empty.symm.trans bytes

/-- Between any two turns of the event loop no direction of any session is
stranded; the one from an upstream that is still connecting waits for the
connect. -/
theorem no_direction_stranded (cfg : ProxyConfig) (listenFd : Nat) (inputs : List LoopInput)
    (answers : Trace.Steps (loopStep cfg) (KernelAnswers cfg) (listening listenFd) inputs) :
    Trace.Always (loopStep cfg)
      (fun p => ∀ addr s, p.heap addr = some s → ∀ d : Side, Unfinished s d →
        Served p s d ∨ AwaitsConnect p s d)
      (listening listenFd) inputs := by
  refine Trace.always_mono (loopStep cfg) (fun p => Registry cfg listenFd p ∧ InForce p) _ ?_ _
    inputs (Trace.always_of_steps (loopStep cfg) (KernelAnswers cfg) _ (force_step cfg listenFd) _
      inputs ⟨registry_listening cfg listenFd, force_listening listenFd⟩ answers)
  rintro p ⟨registry, inForce⟩ addr s found d unfinished
  exact served_or_awaits cfg listenFd p registry inForce addr s found d unfinished

theorem accepted_session_not_stranded :
    Trace.Always (loopStep defaultConfig)
      (fun p => ∀ addr s, p.heap addr = some s → ∀ d : Side, Unfinished s d →
        Served p s d ∨ AwaitsConnect p s d)
      (listening 3) oneAccept :=
  no_direction_stranded defaultConfig 3 oneAccept one_accept_answers

/-- Right after an accept the upstream's mask lacks `EPOLLIN` and the client's
`EPOLLOUT`. -/
theorem accepted_upstream_unserved :
    ∃ s, oneSession.heap 0 = some s ∧ Unfinished s .upstream ∧ ¬ Served oneSession s .upstream := by
  have upstream : oneSession.masks 6 = some ⟨false, true, true, true, true⟩ := by decide +kernel
  have client : oneSession.masks 5 = some ⟨true, false, true, true, true⟩ := by decide +kernel
  refine ⟨acceptedSession 1 0 5 6, rfl, Or.inl rfl, ?_⟩
  rintro (⟨k, mask, held, found, bit⟩ | ⟨k, mask, held, found, bit⟩)
  · cases held
    cases upstream.symm.trans found
    cases bit
  · cases held
    cases client.symm.trans found
    cases bit

end RyzenBuild.Proxy
