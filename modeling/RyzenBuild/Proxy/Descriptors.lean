import Mathlib.Data.List.Nodup
import RyzenBuild.Proxy.Interest
import RyzenBuild.Proxy.Idle

/-!
The descriptors of the process. What is open is the listener and the two
sockets of every listed session, and the same descriptors are mapped and watched:
none leaks through an exit of the accept loop or a close, and after the shutdown
only the listener is left.
-/
namespace RyzenBuild.Proxy

/-- What the loop is made of keeps the invariant, the registry given. -/
structure KeptByLoop (cfg : ProxyConfig) (listenFd : Nat) (invariant : Process → Prop) : Prop where
  destroyed : ∀ (p : Process) (addr : Nat), Registry cfg listenFd p → invariant p →
    invariant (sessionDestroy p addr)
  counted : ∀ (p : Process) (addr : Nat) (s : Session), Registry cfg listenFd p → invariant p →
    p.heap addr = some s →
    invariant (sessionDestroy { p with
      metrics := { p.metrics with idleKills := p.metrics.idleKills + 1 } } addr)
  turned : ∀ (p : Process) (a : Attempt), Registry cfg listenFd p → invariant p → FreshFds p a →
    invariant (acceptTurn cfg p a)
  handled : ∀ (p : Process) (addr : Nat) (s : Session) (side : Side) (e : Event),
    Registry cfg listenFd p → invariant p → p.heap addr = some s →
    invariant (dispatchIo p addr s side e)

section Rule

variable (cfg : ProxyConfig) (listenFd : Nat) (invariant : Process → Prop)
  (keeps : KeptByLoop cfg listenFd invariant)

include keeps

theorem reap_kept (now : Int) (q : Process) (addr : Nat)
    (kept : Registry cfg listenFd q ∧ invariant q) :
    Registry cfg listenFd (reapSession cfg now q addr) ∧ invariant (reapSession cfg now q addr) := by
  refine ⟨registry_reap cfg listenFd q kept.1 now addr, ?_⟩
  unfold reapSession
  cases found : q.heap addr with
  | none => exact kept.2
  | some s =>
      simp only
      split
      · exact keeps.counted q addr s kept.1 kept.2 found
      · exact kept.2

theorem loop_kept (p : Process) (input : LoopInput) (kept : Registry cfg listenFd p ∧ invariant p)
    (answers : KernelAnswers cfg p input) :
    Registry cfg listenFd (loopStep cfg p input) ∧ invariant (loopStep cfg p input) := by
  cases input with
  | event e =>
      rcases dispatch_cases cfg listenFd p kept.1 e with
        ⟨_, same⟩ | ⟨_, entry, same⟩ | ⟨addr, side, s, _, found, same⟩
      · rw [loopStep, same]
        exact kept
      · rw [loopStep, same]
        exact Trace.run_of_steps (acceptTurn cfg) FreshFds
          (fun q => Registry cfg listenFd q ∧ invariant q)
          (fun q a kept fresh => ⟨turn_registry cfg listenFd q kept.1 a fresh,
            keeps.turned q a kept.1 kept.2 fresh⟩)
          p e.attempts kept (answers entry)
      · rw [loopStep, same]
        exact ⟨registry_io cfg listenFd p kept.1 addr s side e found,
          keeps.handled p addr s side e kept.1 kept.2 found⟩
  | idle now =>
      exact Trace.run_invariant (reapSession cfg now)
        (fun q => Registry cfg listenFd q ∧ invariant q)
        (fun q addr kept => reap_kept cfg listenFd invariant keeps now q addr kept) p p.sessions kept
  | shutdown =>
      exact Trace.run_invariant sessionDestroy (fun q => Registry cfg listenFd q ∧ invariant q)
        (fun q addr kept => ⟨registry_destroy cfg listenFd q kept.1 addr,
          keeps.destroyed q addr kept.1 kept.2⟩) p p.sessions kept

theorem always_kept (inputs : List LoopInput) (init : invariant (listening listenFd))
    (answers : Trace.Steps (loopStep cfg) (KernelAnswers cfg) (listening listenFd) inputs) :
    Trace.Always (loopStep cfg) (fun p => Registry cfg listenFd p ∧ invariant p)
      (listening listenFd) inputs :=
  Trace.always_of_steps (loopStep cfg) (KernelAnswers cfg) _
    (loop_kept cfg listenFd invariant keeps) _ inputs ⟨registry_listening cfg listenFd, init⟩ answers

end Rule

/-- Registering the descriptors leaves these alone. -/
structure SameSessions (q q' : Process) : Prop where
  heap : q'.heap = q.heap
  sessions : q'.sessions = q.sessions
  created : q'.created = q.created
  next : q'.nextSessionId = q.nextSessionId
  metrics : q'.metrics = q.metrics

/-- The end of a turn destroys its session, or both descriptors went through
every call. -/
theorem register_cases (q : Process) (addr ufd : Nat) (s : Session) (a : Attempt) :
    (∃ q' : Process, SameSessions q q' ∧ registerPeers q addr s ufd a = sessionDestroy q' addr) ∨
      a.cfd < infFdMapCap ∧ a.mallocClient = true ∧ ufd < infFdMapCap ∧ a.mallocUpstream = true ∧
        a.addClient = true ∧ a.addUpstream = true ∧
        (registerPeers q addr s ufd a).nextSessionId = q.nextSessionId ∧
        (registerPeers q addr s ufd a).metrics =
          { q.metrics with accepted := q.metrics.accepted + 1 } := by
  unfold registerPeers
  cases first : registerFdCtx a.mallocClient q a.cfd addr .client with
  | none => exact Or.inl ⟨q, ⟨rfl, rfl, rfl, rfl, rfl⟩, rfl⟩
  | some one =>
      obtain ⟨smallC, mallocC, same⟩ := (register_some _ _ _ _ _ _).mp first
      have kept : SameSessions q one := by rw [same]; exact ⟨rfl, rfl, rfl, rfl, rfl⟩
      simp only
      cases second : registerFdCtx a.mallocUpstream one ufd addr .upstream with
      | none => exact Or.inl ⟨one, kept, rfl⟩
      | some two =>
          obtain ⟨smallU, mallocU, same'⟩ := (register_some _ _ _ _ _ _).mp second
          have kept' : SameSessions q two := by
            rw [same']
            exact ⟨kept.heap, kept.sessions, kept.created, kept.next, kept.metrics⟩
          simp only
          cases addC : a.addClient with
          | false => exact Or.inl ⟨two, kept', rfl⟩
          | true =>
              cases addU : a.addUpstream with
              | false =>
                  exact Or.inl ⟨epollAdd two a.cfd (sessionEventsForSide s .client), { kept' with }, rfl⟩
              | true =>
                  refine Or.inr ⟨smallC, mallocC, smallU, mallocU, rfl, rfl, kept'.next, ?_⟩
                  simp [epollAdd, kept'.metrics]

/-- The newest session of `q`, which the turn has created. -/
structure Started (p q : Process) (s : Session) : Prop where
  heap : q.heap p.created = some s
  sessions : q.sessions = p.created :: p.sessions
  created : q.created = p.created + 1
  next : q.nextSessionId = p.nextSessionId + 1

/-- How a turn of the accept loop ends: on a full table, on a call that fails
before there is a session, by destroying the session it created, or through. -/
inductive Ending (cfg : ProxyConfig) (p : Process) (a : Attempt) : Process → Prop where
  | full (limit : toCInt p.metrics.active ≥ cfg.maxConnections) :
      Ending cfg p a (closeFd { openFd p a.cfd with
        metrics := { p.metrics with rejected := p.metrics.rejected + 1 } } a.cfd)
  | unstarted : Ending cfg p a (closeFd (openFd p a.cfd) a.cfd)
  | unconnected (q : Process) (started : Started p q (clientOnly p a)) (masks : q.masks = p.masks)
      (metrics : q.metrics = { p.metrics with
        active := p.metrics.active + 1
        upstreamConnectFail := p.metrics.upstreamConnectFail + 1 }) :
      Ending cfg p a (sessionDestroy q p.created)
  | unregistered (ufd : Nat) (connected : a.connect = some ufd) (q : Process)
      (started : Started p q (acceptedSession p.nextSessionId a.now a.cfd ufd))
      (metrics : q.metrics = { p.metrics with active := p.metrics.active + 1 }) :
      Ending cfg p a (sessionDestroy q p.created)
  | through (ufd : Nat) (passed : GoesThrough cfg p a ufd) (q : Process)
      (next : q.nextSessionId = p.nextSessionId + 1)
      (metrics : q.metrics = { p.metrics with
        active := p.metrics.active + 1
        accepted := p.metrics.accepted + 1 }) :
      Ending cfg p a q

theorem turn_ending (cfg : ProxyConfig) (p : Process) (a : Attempt) :
    Ending cfg p a (acceptTurn cfg p a) := by
  by_cases full : toCInt p.metrics.active ≥ cfg.maxConnections
  · have exits : acceptTurn cfg p a = closeFd { openFd p a.cfd with
        metrics := { p.metrics with rejected := p.metrics.rejected + 1 } } a.cfd := by
      simp [acceptTurn, openFd, full]
    rw [exits]
    exact .full full
  · have room : ¬ toCInt (openFd p a.cfd).metrics.active ≥ cfg.maxConnections := full
    by_cases started : a.nonblocking = true ∧ a.calloc = true
    · obtain ⟨nonblocking, calloc⟩ := started
      have attached : acceptTurn cfg p a =
          attachUpstream (withClient p a) p.created (clientOnly p a) a := by
        simp only [acceptTurn, room, nonblocking, calloc]
        rfl
      rw [attached]
      cases connected : a.connect with
      | none =>
          simp only [attachUpstream, connected]
          exact .unconnected _ ⟨by simp [withClient, setSession], rfl, rfl, rfl⟩ rfl rfl
      | some ufd =>
          rw [attach_connected p a ufd connected]
          rcases register_cases (withBoth p a ufd) p.created ufd
              (acceptedSession p.nextSessionId a.now a.cfd ufd) a with
            ⟨q, same, destroyed⟩ | ⟨smallC, mallocC, smallU, mallocU, addC, addU, next, metrics⟩
          · rw [destroyed]
            exact .unregistered ufd connected q
              ⟨by simp [same.heap, withBoth, setSession], same.sessions, same.created, same.next⟩
              same.metrics
          · exact .through ufd ⟨Int.not_le.mp full, nonblocking, calloc, connected, smallC, mallocC,
              smallU, mallocU, addC, addU⟩ _ next metrics
    · have exits : acceptTurn cfg p a = closeFd (openFd p a.cfd) a.cfd := by
        cases nonblocking : a.nonblocking with
        | false => simp only [acceptTurn, room, nonblocking]; rfl
        | true =>
            cases calloc : a.calloc with
            | false => simp only [acceptTurn, room, nonblocking, calloc]; rfl
            | true => exact absurd ⟨nonblocking, calloc⟩ started
      rw [exits]
      exact .unstarted

/-- The descriptor is one of an allocated session. -/
def HeldBySession (p : Process) (fd : Nat) : Prop := ∃ addr s, p.heap addr = some s ∧ Holds s fd

/-- Nothing is open but the listener and the sessions' sockets, and epoll watches
what is open. -/
structure Tight (listenFd : Nat) (p : Process) : Prop where
  opened : ∀ fd, p.openFds fd = true → fd = listenFd ∨ HeldBySession p fd
  watched : ∀ fd, (p.masks fd).isSome = p.openFds fd

theorem tight_listening (listenFd : Nat) : Tight listenFd (listening listenFd) where
  opened fd open_ := by
    simp only [listening, Function.update_apply] at open_
    split at open_
    · next same => exact Or.inl same
    · cases open_
  watched fd := by
    simp only [listening, Function.update_apply]
    split <;> rfl

section Tight

variable (cfg : ProxyConfig) (listenFd : Nat) (p : Process) (tight : Tight listenFd p)

include tight

theorem tight_destroyed (addr : Nat) : Tight listenFd (sessionDestroy p addr) := by
  cases found : p.heap addr with
  | none =>
      simp only [sessionDestroy, found]
      exact tight
  | some s =>
      have gone := destroyed p addr s found
      constructor
      · intro fd open_
        rw [gone.openFds] at open_
        split at open_
        · cases open_
        · next unheld =>
            rcases tight.opened fd open_ with listener | ⟨other, s', heap, holds⟩
            · exact Or.inl listener
            · refine Or.inr ⟨other, s', ?_, holds⟩
              have different : other ≠ addr := by
                rintro rfl
                cases found.symm.trans heap
                exact unheld holds
              rw [gone.heap, Function.update_of_ne different, heap]
      · intro fd
        rw [destroy_masks p addr s found, gone.openFds]
        split
        · rfl
        · exact tight.watched fd

/-- A turn that fails takes back the masks it gave. -/
theorem failed_masks (a : Attempt) (fresh : FreshFds p a) (failed : ∀ ufd, ¬ GoesThrough cfg p a ufd)
    (fd : Nat) : (acceptTurn cfg p a).masks fd = p.masks fd := by
  have ending := turn_ending cfg p a
  have holds := accepted_holds p.nextSessionId a.now a.cfd
  have held : Holds (clientOnly p a) a.cfd := Or.inl rfl
  have unwatched (fd : Nat) (closed : p.openFds fd = false) : p.masks fd = none := by
    have watched := tight.watched fd
    rwa [closed, Option.isSome_eq_false_iff, Option.isNone_iff_eq_none] at watched
  by_cases atC : fd = a.cfd
  · subst atC
    rw [unwatched _ fresh.client]
    generalize acceptTurn cfg p a = after at ending
    cases ending with
    | full => exact unwatched _ fresh.client
    | unstarted => exact unwatched _ fresh.client
    | unconnected q started => rw [destroy_masks q _ _ started.heap, if_pos held]
    | unregistered ufd connected q started =>
        rw [destroy_masks q _ _ started.heap, if_pos ((holds _ _).mpr (Or.inl rfl))]
    | through ufd passed => exact absurd passed (failed ufd)
  · by_cases atU : a.connect = some fd
    · have closed := (fresh.upstream fd atU).1
      rw [unwatched fd closed]
      generalize acceptTurn cfg p a = after at ending
      cases ending with
      | full => exact unwatched fd closed
      | unstarted => exact unwatched fd closed
      | unconnected q started masks =>
          rw [destroy_masks q _ _ started.heap, masks]
          split
          · rfl
          · exact unwatched fd closed
      | unregistered ufd connected q started =>
          obtain rfl := Option.some.inj (atU.symm.trans connected)
          rw [destroy_masks q _ _ started.heap, if_pos ((holds _ _).mpr (Or.inr rfl))]
      | through ufd passed => exact absurd passed (failed ufd)
    · exact turn_masks cfg p a fd atC atU

variable (registry : Registry cfg listenFd p)

include registry

theorem tight_turned (a : Attempt) (fresh : FreshFds p a) : Tight listenFd (acceptTurn cfg p a) := by
  rcases accept_turn cfg p a (registry_ready cfg listenFd p registry) fresh with
    ⟨ufd, through, grown⟩ | ⟨failed, same⟩
  · have new : (acceptTurn cfg p a).heap p.created =
        some (acceptedSession p.nextSessionId a.now a.cfd ufd) := by
      rw [grown.heap, Function.update_self]
    have registered := through_masks cfg p a ufd fresh through
    constructor
    · intro fd open_
      by_cases mine : fd = a.cfd ∨ fd = ufd
      · exact Or.inr ⟨_, _, new, (accepted_holds _ _ _ _ _).mpr mine⟩
      · obtain ⟨notC, notU⟩ := not_or.mp mine
        rw [grown.openFds, Function.update_of_ne notU, Function.update_of_ne notC] at open_
        rcases tight.opened fd open_ with listener | ⟨addr, s, heap, holds⟩
        · exact Or.inl listener
        · refine Or.inr ⟨addr, s, ?_, holds⟩
          have below := registry.old addr (registry.allocated addr s heap)
          rw [grown.heap, Function.update_of_ne (Nat.ne_of_lt below), heap]
    · intro fd
      rw [grown.openFds]
      by_cases atU : fd = ufd
      · subst atU
        rw [registered .upstream fd rfl, Function.update_self]
        rfl
      · by_cases atC : fd = a.cfd
        · subst atC
          rw [registered .client _ rfl, Function.update_of_ne atU, Function.update_self]
          rfl
        · have apart : a.connect ≠ some fd := fun connected =>
            atU (Option.some.inj (connected.symm.trans through.connect))
          rw [turn_masks cfg p a fd atC apart, Function.update_of_ne atU, Function.update_of_ne atC]
          exact tight.watched fd
  · constructor
    · intro fd open_
      rw [same.openFds] at open_
      rw [HeldBySession, same.heap]
      exact tight.opened fd open_
    · intro fd
      rw [failed_masks cfg listenFd p tight a fresh failed, same.openFds]
      exact tight.watched fd

/-- A handled event gives masks to its own two descriptors only, which stay open. -/
theorem tight_stored (addr : Nat) (s : Session) (r : Relay) (found : p.heap addr = some s)
    (same : SameOwner s p.metrics r) : Tight listenFd (storeRelay p addr r) := by
  constructor
  · intro fd open_
    rcases tight.opened fd open_ with listener | ⟨other, s', heap, holds⟩
    · exact Or.inl listener
    · refine Or.inr ?_
      by_cases here : other = addr
      · subst here
        cases found.symm.trans heap
        refine ⟨other, r.session, by simp [storeRelay, setSession], ?_⟩
        exact (same_fds_holds s r.session (same_owner_peer s p.metrics r same) fd).mpr holds
      · exact ⟨other, s', by simp [storeRelay, setSession, here, heap], holds⟩
  · intro fd
    by_cases holds : Holds s fd
    · obtain ⟨side, held⟩ := holds_side s fd holds
      rw [store_masks cfg listenFd p registry addr s found r same side fd held]
      exact (peer_mapped cfg listenFd p registry addr s found side fd held).2.1.symm
    · rw [store_masks_other p addr s r same fd holds]
      exact tight.watched fd

end Tight

theorem tight_keeps (cfg : ProxyConfig) (listenFd : Nat) : KeptByLoop cfg listenFd (Tight listenFd) where
  destroyed p addr _ tight := tight_destroyed listenFd p tight addr
  counted p addr _ _ tight _ := by
    have counted : Tight listenFd { p with
        metrics := { p.metrics with idleKills := p.metrics.idleKills + 1 } } :=
      ⟨tight.opened, tight.watched⟩
    exact tight_destroyed listenFd _ counted addr
  turned p a registry tight fresh := tight_turned cfg listenFd p tight registry a fresh
  handled p addr s side e registry tight found := by
    have owner := sideIo_owner e.calls side e.events (relayOf p s)
    have stored := tight_stored cfg listenFd p tight registry addr s _ found owner
    unfold dispatchIo
    simp only
    split
    · exact stored
    · exact tight_destroyed listenFd _ stored addr

/-- The two sockets of a session, client first. -/
def Session.fds (s : Session) : List Nat := s.client.fd.toList ++ s.upstream.fd.toList

/-- The listener and the sockets of the listed sessions. -/
def ownFds (listenFd : Nat) (p : Process) : List Nat :=
  listenFd :: p.sessions.flatMap fun addr => ((p.heap addr).map Session.fds).getD []

/-- Every open descriptor is accounted for: it is the listener's or a listed
session's, it is mapped and watched, and a session's two descriptors are watched for
what the session needs now. -/
structure Accounted (cfg : ProxyConfig) (listenFd : Nat) (p : Process) : Prop where
  opened : ∀ fd, p.openFds fd = true ↔ fd ∈ ownFds listenFd p
  mapped : ∀ fd, (p.fdMap fd).isSome = p.openFds fd
  watched : ∀ fd, (p.masks fd).isSome = p.openFds fd
  interest : ∀ addr ∈ p.sessions, ∃ s, p.heap addr = some s ∧
    ∀ side fd, (s.peer side).fd = some fd → p.masks fd = some (sessionEventsForSide s side)
  apart : (ownFds listenFd p).Nodup
  count : (ownFds listenFd p).length = 2 * p.sessions.length + 1

theorem mem_fds (s : Session) (fd : Nat) : fd ∈ s.fds ↔ Holds s fd := by
  simp [Session.fds, Holds]

section Accounts

variable (cfg : ProxyConfig) (listenFd : Nat) (p : Process) (registry : Registry cfg listenFd p)

include registry

theorem mem_own (fd : Nat) : fd ∈ ownFds listenFd p ↔ fd = listenFd ∨ HeldBySession p fd := by
  simp only [ownFds, List.mem_cons, List.mem_flatMap]
  constructor
  · rintro (listener | ⟨addr, member, held⟩)
    · exact Or.inl listener
    · obtain ⟨s, c, u, at_⟩ := registry.attached addr member
      rw [at_.allocated] at held
      exact Or.inr ⟨addr, s, at_.allocated, (mem_fds s fd).mp held⟩
  · rintro (listener | ⟨addr, s, heap, held⟩)
    · exact Or.inl listener
    · refine Or.inr ⟨addr, registry.allocated addr s heap, ?_⟩
      rw [heap]
      exact (mem_fds s fd).mpr held

theorem session_fds (addr : Nat) (member : addr ∈ p.sessions) :
    ∃ c u, ((p.heap addr).map Session.fds).getD [] = [c, u] ∧ c ≠ u := by
  obtain ⟨s, c, u, at_⟩ := registry.attached addr member
  refine ⟨c, u, ?_, at_.distinct⟩
  rw [at_.allocated, Option.map_some, Option.getD_some, Session.fds, at_.client, at_.upstream]
  rfl

/-- No descriptor is accounted for twice. -/
theorem own_nodup : (ownFds listenFd p).Nodup := by
  have single := (registry_agrees cfg listenFd p registry).single
  have found (addr fd : Nat) (held : fd ∈ ((p.heap addr).map Session.fds).getD []) :
      ∃ s side, p.heap addr = some s ∧ (s.peer side).fd = some fd := by
    cases heap : p.heap addr with
    | none => simp [heap] at held
    | some s =>
        rw [heap] at held
        obtain ⟨side, fds⟩ := holds_side s fd ((mem_fds s fd).mp held)
        exact ⟨s, side, rfl, fds⟩
  rw [ownFds, List.nodup_cons, List.nodup_flatMap]
  refine ⟨?_, ?_, ?_⟩
  · intro member
    obtain ⟨addr, _, held⟩ := List.mem_flatMap.mp member
    obtain ⟨s, side, heap, fds⟩ := found addr listenFd held
    have mapped := (peer_mapped cfg listenFd p registry addr s heap side listenFd fds).2.2
    simp [registry.listenerMapped, listenerCtx, peerCtx] at mapped
  · intro addr member
    obtain ⟨c, u, two, apart⟩ := session_fds cfg listenFd p registry addr member
    rw [two]
    simp [apart]
  · refine registry.nodup.imp_of_mem ?_
    intro addr other _ _ different fd first second
    obtain ⟨s, side, heap, fds⟩ := found addr fd first
    obtain ⟨s', side', heap', fds'⟩ := found other fd second
    exact different (single addr other s s' side side' fd heap heap' fds fds').1

theorem own_length : (ownFds listenFd p).length = 2 * p.sessions.length + 1 := by
  have pairs : (p.sessions.map fun addr => (((p.heap addr).map Session.fds).getD []).length) =
      List.replicate p.sessions.length 2 := by
    rw [List.map_eq_replicate_iff]
    intro addr member
    obtain ⟨c, u, two, _⟩ := session_fds cfg listenFd p registry addr member
    rw [two]
    rfl
  rw [ownFds, List.length_cons, List.length_flatMap, pairs, List.sum_replicate_nat, Nat.mul_comm]

theorem accounted_of_tight (tight : Tight listenFd p) (inForce : InForce p) :
    Accounted cfg listenFd p where
  opened fd := by
    rw [mem_own cfg listenFd p registry]
    constructor
    · exact tight.opened fd
    · rintro (rfl | ⟨addr, s, heap, held⟩)
      · exact registry.listenerOpen
      · obtain ⟨side, fds⟩ := holds_side s fd held
        exact (peer_mapped cfg listenFd p registry addr s heap side fd fds).2.1
  mapped fd := by
    rw [Bool.eq_iff_iff]
    constructor
    · intro some_
      obtain ⟨ctx, entry⟩ := Option.isSome_iff_exists.mp some_
      exact mapped_open cfg listenFd p registry fd ctx entry
    · intro open_
      rcases tight.opened fd open_ with rfl | ⟨addr, s, heap, held⟩
      · rw [registry.listenerMapped]
        rfl
      · obtain ⟨_, side, entry⟩ := held_mapped cfg listenFd p registry addr s heap fd held
        rw [entry]
        rfl
  watched := tight.watched
  interest addr member := by
    obtain ⟨s, c, u, at_⟩ := registry.attached addr member
    exact ⟨s, at_.allocated, inForce.masks addr s at_.allocated⟩
  apart := own_nodup cfg listenFd p registry
  count := own_length cfg listenFd p registry

/-- The shutdown visits every session. -/
theorem closed_sessions : (closeAllSessions p).sessions = [] := by
  have kept := registry_step cfg listenFd p .shutdown registry trivial
  rw [List.eq_nil_iff_forall_not_mem]
  intro addr member
  obtain ⟨s, _, _, at_⟩ := kept.attached addr member
  have allocated := at_.allocated
  simp only [loopStep, closeAllSessions, destroys_heap] at allocated
  split at allocated
  · cases allocated
  · next unlisted => exact unlisted (registry.allocated addr s allocated)

end Accounts

/-- What `main` does after its loop. -/
def mainExit (listenFd : Nat) (p : Process) : Process :=
  closeFd (unregisterFdCtx (epollDel (closeAllSessions p) listenFd) listenFd) listenFd

theorem tight_always (cfg : ProxyConfig) (listenFd : Nat) (inputs : List LoopInput)
    (answers : Trace.Steps (loopStep cfg) (KernelAnswers cfg) (listening listenFd) inputs) :
    Trace.Always (loopStep cfg)
      (fun p => (Registry cfg listenFd p ∧ InForce p) ∧ Tight listenFd p)
      (listening listenFd) inputs := by
  refine Trace.always_of_steps (loopStep cfg) (KernelAnswers cfg) _ ?_ _ inputs
    ⟨⟨registry_listening cfg listenFd, force_listening listenFd⟩, tight_listening listenFd⟩ answers
  rintro p input ⟨force, tight⟩ admitted
  exact ⟨force_step cfg listenFd p input force admitted,
    (loop_kept cfg listenFd (Tight listenFd) (tight_keeps cfg listenFd) p input ⟨force.1, tight⟩
      admitted).2⟩

/-- Over every run of the loop no descriptor leaks and none is closed that is in
use, and when `main` returns nothing is open, mapped, watched or allocated. -/
theorem descriptors_accounted (cfg : ProxyConfig) (listenFd : Nat) (small : listenFd < infFdMapCap)
    (inputs : List LoopInput)
    (answers : Trace.Steps (loopStep cfg) (KernelAnswers cfg) (listening listenFd) inputs) :
    Trace.Always (loopStep cfg)
        (fun p => Accounted cfg listenFd p ∧ ∀ fd,
          (mainExit listenFd p).openFds fd = false ∧ (mainExit listenFd p).fdMap fd = none ∧
            (mainExit listenFd p).masks fd = none ∧ (mainExit listenFd p).heap fd = none)
        (listening listenFd) inputs := by
  refine Trace.always_mono (loopStep cfg) _ _ ?_ _ inputs
    (tight_always cfg listenFd inputs answers)
  rintro p ⟨⟨registry, inForce⟩, tight⟩
  refine ⟨accounted_of_tight cfg listenFd p registry tight inForce, ?_⟩
  -- What the listener's own close leaves is what the shutdown left beside it.
  have force := force_step cfg listenFd p .shutdown ⟨registry, inForce⟩ trivial
  have kept := (loop_kept cfg listenFd (Tight listenFd) (tight_keeps cfg listenFd) p .shutdown
    ⟨registry, tight⟩ trivial).2
  have accounted := accounted_of_tight cfg listenFd _ force.1 kept force.2
  have none_listed := closed_sessions cfg listenFd p registry
  simp only [loopStep] at accounted
  have rest (fd : Nat) (other : fd ≠ listenFd) : (closeAllSessions p).openFds fd = false := by
    rw [← Bool.not_eq_true, accounted.opened, ownFds, none_listed]
    simpa using other
  intro fd
  refine ⟨?_, ?_, ?_, ?_⟩
  · by_cases listener : fd = listenFd
    · simp [mainExit, closeFd, listener]
    · rw [← rest fd listener]
      simp [mainExit, closeFd, listener, unregisterFdCtx, small, epollDel]
  · by_cases listener : fd = listenFd
    · simp [mainExit, closeFd, listener, unregisterFdCtx, small]
    · have unmapped := accounted.mapped fd
      rw [rest fd listener, Option.isSome_eq_false_iff, Option.isNone_iff_eq_none] at unmapped
      simpa [mainExit, closeFd, listener, unregisterFdCtx, small, epollDel] using unmapped
  · by_cases listener : fd = listenFd
    · simp [mainExit, closeFd, listener, unregisterFdCtx, small, epollDel]
    · have unwatched := accounted.watched fd
      rw [rest fd listener, Option.isSome_eq_false_iff, Option.isNone_iff_eq_none] at unwatched
      simpa [mainExit, closeFd, listener, unregisterFdCtx, small, epollDel] using unwatched
  · have heap : (mainExit listenFd p).heap fd = (closeAllSessions p).heap fd := by
      simp [mainExit, closeFd, unregisterFdCtx, small, epollDel]
    rw [heap]
    cases found : (closeAllSessions p).heap fd with
    | none => rfl
    | some s =>
        have member := force.1.allocated fd s found
        rw [loopStep, none_listed] at member
        cases member

/-- A session accepted and hung up, then one that is still open at the exit. -/
theorem accepted_hung_up_exit :
    (mainExit 3 (Trace.run (loopStep defaultConfig) (listening 3)
      [.event (acceptEvent 3 [plainAttempt 5 6]), .event (hangupEvent 5),
        .event (acceptEvent 3 [plainAttempt 6 5])])).openFds 6 = false := by
  have always := descriptors_accounted defaultConfig 3 (by decide)
    [.event (acceptEvent 3 [plainAttempt 5 6]), .event (hangupEvent 5),
      .event (acceptEvent 3 [plainAttempt 6 5])]
    ⟨fun _ => ⟨plain_fresh _ 5 6 (by decide) (by decide) (by decide), trivial⟩,
      fun _ => trivial,
      fun _ => ⟨plain_fresh _ 6 5 (by decide) (by decide) (by decide), trivial⟩, trivial⟩
  exact ((Trace.always_final _ _ _ _ always).2 6).1

end RyzenBuild.Proxy
