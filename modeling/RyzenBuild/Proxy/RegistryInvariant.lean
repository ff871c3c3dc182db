import RyzenBuild.Lib.Trace
import RyzenBuild.Proxy.Destroy

/-!
The registry invariant. List, descriptor map, kernel table and counters agree
between any two turns of the event loop, whatever the accept loop runs into.
-/
namespace RyzenBuild.Proxy

/-- A listed session: allocated, on two open descriptors that map to it. -/
structure Attached (p : Process) (addr : Nat) (s : Session) (c u : Nat) : Prop where
  allocated : p.heap addr = some s
  client : s.client.fd = some c
  upstream : s.upstream.fd = some u
  distinct : c ≠ u
  clientOpen : p.openFds c = true
  upstreamOpen : p.openFds u = true
  clientMapped : p.fdMap c = some (peerCtx addr .client)
  upstreamMapped : p.fdMap u = some (peerCtx addr .upstream)
  clientSmall : c < infFdMapCap
  upstreamSmall : u < infFdMapCap

theorem attached_peer (p : Process) (addr : Nat) (s : Session) (c u : Nat)
    (at_ : Attached p addr s c u) (side : Side) (fd : Nat)
    (held : (s.peer side).fd = some fd) :
    fd < infFdMapCap ∧ p.openFds fd = true ∧ p.fdMap fd = some (peerCtx addr side) := by
  cases side with
  | client =>
      obtain rfl : c = fd := Option.some.inj (at_.client.symm.trans held)
      exact ⟨at_.clientSmall, at_.clientOpen, at_.clientMapped⟩
  | upstream =>
      obtain rfl : u = fd := Option.some.inj (at_.upstream.symm.trans held)
      exact ⟨at_.upstreamSmall, at_.upstreamOpen, at_.upstreamMapped⟩

structure Registry (cfg : ProxyConfig) (listenFd : Nat) (p : Process) : Prop where
  attached : ∀ addr ∈ p.sessions, ∃ s c u, Attached p addr s c u
  mapped : ∀ fd ctx, p.fdMap fd = some ctx → ctx = listenerCtx ∧ fd = listenFd ∨
    ∃ addr ∈ p.sessions, ∃ side s, ctx = peerCtx addr side ∧ p.heap addr = some s ∧
      (s.peer side).fd = some fd
  allocated : ∀ addr s, p.heap addr = some s → addr ∈ p.sessions
  old : ∀ addr ∈ p.sessions, addr < p.created
  nodup : p.sessions.Nodup
  listenerOpen : p.openFds listenFd = true
  listenerMapped : p.fdMap listenFd = some listenerCtx
  active : p.metrics.active.toNat = p.sessions.length
  bounded : (p.sessions.length : Int) ≤ cfg.maxConnections
  total : p.metrics.active + p.metrics.closed = UInt64.ofNat p.created

theorem registry_listening (cfg : ProxyConfig) (listenFd : Nat) :
    Registry cfg listenFd (listening listenFd) := by
  refine ⟨by simp [listening], ?_, by simp [listening], by simp [listening], by simp [listening],
    by simp [listening], by simp [listening], rfl, Int.le_of_lt cfg.positive, rfl⟩
  intro fd ctx found
  simp only [listening, Function.update_apply] at found
  split at found
  · rename_i same
    exact Or.inl ⟨(Option.some.inj found).symm, same⟩
  · cases found

theorem toCInt_small (x : UInt64) (n : Nat) (few : n < 2147483648) (same : x.toNat = n) :
    toCInt x = n := by
  have inside : (n : Int).bmod 4294967296 = n := Int.bmod_eq_of_le (by omega) (by omega)
  unfold toCInt
  rw [same, inside]

section Facts

variable (cfg : ProxyConfig) (listenFd : Nat) (p : Process) (registry : Registry cfg listenFd p)

include registry

/-- A descriptor of an allocated session is open and mapped to it. -/
theorem peer_mapped (addr : Nat) (s : Session) (found : p.heap addr = some s) (side : Side)
    (fd : Nat) (held : (s.peer side).fd = some fd) :
    fd < infFdMapCap ∧ p.openFds fd = true ∧ p.fdMap fd = some (peerCtx addr side) := by
  obtain ⟨s', c, u, at_⟩ := registry.attached addr (registry.allocated addr s found)
  obtain rfl : s' = s := Option.some.inj (at_.allocated.symm.trans found)
  exact attached_peer p addr s' c u at_ side fd held

theorem mapped_open (fd : Nat) (ctx : FdCtx) (found : p.fdMap fd = some ctx) :
    p.openFds fd = true := by
  rcases registry.mapped fd ctx found with ⟨_, rfl⟩ | ⟨addr, _, side, s, _, heap, held⟩
  · exact registry.listenerOpen
  · exact (peer_mapped cfg listenFd p registry addr s heap side fd held).2.1

theorem mapped_peer (fd addr : Nat) (side : Side) (s : Session)
    (entry : p.fdMap fd = some (peerCtx addr side)) (found : p.heap addr = some s) :
    (s.peer side).fd = some fd := by
  rcases registry.mapped fd _ entry with ⟨listener, _⟩ | ⟨owner, _, side', s', same, heap, held⟩
  · simp [listenerCtx, peerCtx] at listener
  · obtain ⟨rfl, rfl⟩ : addr = owner ∧ side = side' := by simpa [peerCtx] using same
    obtain rfl : s = s' := Option.some.inj (found.symm.trans heap)
    exact held

theorem few_sessions : p.sessions.length < 2147483648 := by
  have bounded := registry.bounded
  have isInt := cfg.isInt
  omega

theorem active_cast : toCInt p.metrics.active = p.sessions.length := by
  have few := few_sessions cfg listenFd p registry
  exact toCInt_small _ _ few registry.active

theorem registry_ready : Ready p := by
  constructor
  · cases found : p.heap p.created with
    | none => rfl
    | some s =>
        -- An allocated session is listed, and listed addresses are older than the counter.
        have below := registry.old _ (registry.allocated _ s found)
        omega
  · intro fd closed
    cases found : p.fdMap fd with
    | none => rfl
    | some ctx =>
        have opened := mapped_open cfg listenFd p registry fd ctx found
        simp [closed] at opened
  · rw [registry.active]
    exact few_sessions cfg listenFd p registry

/-- The invariant only looks at the registry, so a turn that leaves it alone
keeps the invariant. -/
theorem registry_rejected (p' : Process) (same : Rejected p p') : Registry cfg listenFd p' := by
  obtain ⟨failed, created, closed⟩ := same.balance
  constructor
  · intro addr member
    obtain ⟨s, c, u, at_⟩ := registry.attached addr (same.sessions ▸ member)
    refine ⟨s, c, u, ?_, at_.client, at_.upstream, at_.distinct, ?_, ?_, ?_, ?_, at_.clientSmall,
      at_.upstreamSmall⟩
    · rw [same.heap]; exact at_.allocated
    · rw [same.openFds]; exact at_.clientOpen
    · rw [same.openFds]; exact at_.upstreamOpen
    · rw [same.fdMap]; exact at_.clientMapped
    · rw [same.fdMap]; exact at_.upstreamMapped
  · rw [same.fdMap, same.sessions, same.heap]; exact registry.mapped
  · rw [same.heap, same.sessions]; exact registry.allocated
  · intro addr member
    rw [created]
    exact Nat.lt_add_right failed (registry.old addr (same.sessions ▸ member))
  · rw [same.sessions]; exact registry.nodup
  · rw [same.openFds]; exact registry.listenerOpen
  · rw [same.fdMap]; exact registry.listenerMapped
  · rw [same.active, same.sessions]; exact registry.active
  · rw [same.sessions]; exact registry.bounded
  · rw [same.active, closed, created, UInt64.ofNat_add, ← UInt64.add_assoc, registry.total]

theorem registry_grown (p' : Process) (a : Attempt) (ufd : Nat) (fresh : FreshFds p a)
    (through : GoesThrough cfg p a ufd) (grown : Grown p p' a ufd) :
    Registry cfg listenFd p' := by
  obtain ⟨closedU, distinct⟩ := fresh.upstream ufd through.connect
  have ready := registry_ready cfg listenFd p registry
  have few := few_sessions cfg listenFd p registry
  have room := through.room
  rw [active_cast cfg listenFd p registry] at room
  -- Descriptors that were open keep their entries; the two new ones were not open.
  have keptOpen : ∀ fd, p.openFds fd = true → fd ≠ a.cfd ∧ fd ≠ ufd := by
    intro fd opened
    constructor
    · rintro rfl
      simp [fresh.client] at opened
    · rintro rfl
      simp [closedU] at opened
  have keptMap : ∀ fd ctx, p.fdMap fd = some ctx → p'.fdMap fd = some ctx := by
    intro fd ctx found
    obtain ⟨notC, notU⟩ := keptOpen fd (mapped_open cfg listenFd p registry fd ctx found)
    simp [grown.fdMap, notC, notU, found]
  have stillOpen : ∀ fd, p.openFds fd = true → p'.openFds fd = true := by
    intro fd opened
    obtain ⟨notC, notU⟩ := keptOpen fd opened
    simp [grown.openFds, notC, notU, opened]
  have keptHeap : ∀ addr ∈ p.sessions, p'.heap addr = p.heap addr := by
    intro addr member
    have below := registry.old addr member
    rw [grown.heap, Function.update_of_ne (Nat.ne_of_lt below)]
  constructor
  · intro addr member
    rw [grown.sessions] at member
    rcases List.mem_cons.mp member with rfl | old
    · exact ⟨acceptedSession p.nextSessionId a.now a.cfd ufd, a.cfd, ufd,
        { allocated := by rw [grown.heap, Function.update_self]
          client := rfl
          upstream := rfl
          distinct := distinct.symm
          clientOpen := by simp [grown.openFds, Function.update_apply]
          upstreamOpen := by simp [grown.openFds]
          clientMapped := by simp [grown.fdMap, distinct.symm]
          upstreamMapped := by simp [grown.fdMap]
          clientSmall := through.clientSmall
          upstreamSmall := through.upstreamSmall }⟩
    · obtain ⟨s, c, u, at_⟩ := registry.attached addr old
      exact ⟨s, c, u,
        { at_ with
          allocated := (keptHeap addr old).trans at_.allocated
          clientOpen := stillOpen c at_.clientOpen
          upstreamOpen := stillOpen u at_.upstreamOpen
          clientMapped := keptMap c _ at_.clientMapped
          upstreamMapped := keptMap u _ at_.upstreamMapped }⟩
  · intro fd ctx found
    have newHeap : p'.heap p.created =
        some (acceptedSession p.nextSessionId a.now a.cfd ufd) := by
      rw [grown.heap, Function.update_self]
    have newMember : p.created ∈ p'.sessions := by
      rw [grown.sessions]
      exact List.mem_cons_self
    rw [grown.fdMap] at found
    by_cases atU : fd = ufd
    · subst atU
      rw [Function.update_self] at found
      exact Or.inr ⟨_, newMember, .upstream, _, (Option.some.inj found).symm, newHeap, rfl⟩
    · rw [Function.update_of_ne atU] at found
      by_cases atC : fd = a.cfd
      · subst atC
        rw [Function.update_self] at found
        exact Or.inr ⟨_, newMember, .client, _, (Option.some.inj found).symm, newHeap, rfl⟩
      · rw [Function.update_of_ne atC] at found
        rcases registry.mapped fd ctx found with
          listener | ⟨addr, member, side, s, same, heap, held⟩
        · exact Or.inl listener
        · refine Or.inr ⟨addr, ?_, side, s, same, (keptHeap addr member).trans heap, held⟩
          rw [grown.sessions]
          exact List.mem_cons_of_mem _ member
  · intro addr s found
    rw [grown.sessions]
    by_cases new : addr = p.created
    · rw [new]
      exact List.mem_cons_self
    · rw [grown.heap, Function.update_of_ne new] at found
      exact List.mem_cons_of_mem _ (registry.allocated addr s found)
  · intro addr member
    rw [grown.sessions] at member
    rw [grown.created]
    rcases List.mem_cons.mp member with rfl | old
    · exact Nat.lt_succ_self _
    · exact Nat.lt_succ_of_lt (registry.old addr old)
  · rw [grown.sessions, List.nodup_cons]
    exact ⟨fun member => Nat.lt_irrefl _ (registry.old _ member), registry.nodup⟩
  · exact stillOpen listenFd registry.listenerOpen
  · exact keptMap listenFd _ registry.listenerMapped
  · rw [grown.active, grown.sessions, List.length_cons, UInt64.toNat_add, registry.active,
      Nat.mod_eq_of_lt (by simp; omega)]
    rfl
  · rw [grown.sessions, List.length_cons]
    omega
  · rw [grown.active, grown.closed, grown.created, UInt64.ofNat_add, ← registry.total,
      UInt64.add_assoc, UInt64.add_comm 1, ← UInt64.add_assoc]
    rfl

theorem held_mapped (addr : Nat) (s : Session) (found : p.heap addr = some s) (fd : Nat)
    (held : Holds s fd) :
    fd < infFdMapCap ∧ ∃ side, p.fdMap fd = some (peerCtx addr side) := by
  rcases held with client | upstream
  · obtain ⟨small, _, mapped⟩ := peer_mapped cfg listenFd p registry addr s found .client fd client
    exact ⟨small, .client, mapped⟩
  · obtain ⟨small, _, mapped⟩ :=
      peer_mapped cfg listenFd p registry addr s found .upstream fd upstream
    exact ⟨small, .upstream, mapped⟩

/-- Destroying a session removes it from the list and exactly its two
descriptors from the map. -/
theorem registry_destroyed (p' : Process) (addr : Nat) (s : Session) (found : p.heap addr = some s)
    (gone : Destroyed p p' addr s) : Registry cfg listenFd p' := by
  have member := registry.allocated addr s found
  have positive : 0 < p.sessions.length := List.length_pos_of_mem member
  have listed : ∀ other, other ∈ p'.sessions ↔ other ≠ addr ∧ other ∈ p.sessions := by
    intro other
    rw [gone.sessions, registry.nodup.mem_erase_iff]
  have freed : ∀ fd, Holds s fd → p'.fdMap fd = none := by
    intro fd held
    have small := (held_mapped cfg listenFd p registry addr s found fd held).1
    rw [gone.fdMap, if_pos ⟨held, small⟩]
  -- An entry that is not one of the session's two belongs to a descriptor it does not hold.
  have kept : ∀ fd ctx, p.fdMap fd = some ctx → (∀ side, ctx ≠ peerCtx addr side) →
      p'.fdMap fd = some ctx ∧ p'.openFds fd = p.openFds fd := by
    intro fd ctx entry other
    have unheld : ¬ Holds s fd := by
      intro held
      obtain ⟨_, side, same⟩ := held_mapped cfg listenFd p registry addr s found fd held
      exact other side (Option.some.inj (entry.symm.trans same))
    exact ⟨by rw [gone.fdMap, if_neg fun both => unheld both.1, entry],
      by rw [gone.openFds, if_neg unheld]⟩
  have counter : p.metrics.active > 0 := by
    rw [gt_iff_lt, UInt64.lt_iff_toNat_lt, registry.active]
    exact positive
  constructor
  · intro other survivor
    obtain ⟨different, old⟩ := (listed other).mp survivor
    obtain ⟨s', c, u, at_⟩ := registry.attached other old
    have apart : ∀ side side', peerCtx other side ≠ peerCtx addr side' := by
      intro side side' same
      exact different (by simpa [peerCtx] using congrArg FdCtx.session same)
    have client := kept c _ at_.clientMapped (apart _)
    have upstream := kept u _ at_.upstreamMapped (apart _)
    exact ⟨s', c, u,
      { at_ with
        allocated := by rw [gone.heap, Function.update_of_ne different, at_.allocated]
        clientOpen := client.2.trans at_.clientOpen
        upstreamOpen := upstream.2.trans at_.upstreamOpen
        clientMapped := client.1
        upstreamMapped := upstream.1 }⟩
  · intro fd ctx entry
    have unheld : ¬ Holds s fd := fun held => by simp [freed fd held] at entry
    rw [gone.fdMap, if_neg fun both => unheld both.1] at entry
    rcases registry.mapped fd ctx entry with listener | ⟨other, old, side, s', same, heap, held⟩
    · exact Or.inl listener
    · have different : other ≠ addr := by
        rintro rfl
        obtain rfl : s' = s := Option.some.inj (heap.symm.trans found)
        cases side with
        | client => exact unheld (Or.inl held)
        | upstream => exact unheld (Or.inr held)
      refine Or.inr ⟨other, (listed other).mpr ⟨different, old⟩, side, s', same, ?_, held⟩
      rw [gone.heap, Function.update_of_ne different, heap]
  · intro other s' heap
    by_cases same : other = addr
    · rw [same, gone.heap, Function.update_self] at heap
      cases heap
    · rw [gone.heap, Function.update_of_ne same] at heap
      exact (listed other).mpr ⟨same, registry.allocated other s' heap⟩
  · intro other survivor
    rw [gone.created]
    exact registry.old other ((listed other).mp survivor).2
  · rw [gone.sessions]
    exact registry.nodup.erase addr
  · have listener := kept listenFd _ registry.listenerMapped
      fun side same => by simp [listenerCtx, peerCtx] at same
    rw [listener.2, registry.listenerOpen]
  · exact (kept listenFd _ registry.listenerMapped
      fun side same => by simp [listenerCtx, peerCtx] at same).1
  · rw [gone.active, if_pos counter, gone.sessions, List.length_erase_of_mem member,
      UInt64.toNat_sub_of_le _ _ (by rw [UInt64.le_iff_toNat_le]; exact registry.active ▸ positive),
      registry.active]
    rfl
  · rw [gone.sessions, List.length_erase_of_mem member]
    have bounded := registry.bounded
    omega
  · rw [gone.active, if_pos counter, gone.closed, gone.created, ← registry.total,
      UInt64.add_comm p.metrics.closed 1, ← UInt64.add_assoc, UInt64.sub_add_cancel]

theorem turn_registry (a : Attempt) (fresh : FreshFds p a) :
    Registry cfg listenFd (acceptTurn cfg p a) := by
  rcases accept_turn cfg p a (registry_ready cfg listenFd p registry) fresh with
    ⟨ufd, through, grown⟩ | ⟨_, same⟩
  · exact registry_grown cfg listenFd p registry _ a ufd fresh through grown
  · exact registry_rejected cfg listenFd p registry _ same

theorem registry_accepts (attempts : List Attempt)
    (fresh : Trace.Steps (acceptTurn cfg) FreshFds p attempts) :
    Registry cfg listenFd (handleListenerAccept cfg p attempts) :=
  Trace.run_of_steps (acceptTurn cfg) FreshFds (Registry cfg listenFd)
    (fun q a kept answers => turn_registry cfg listenFd q kept a answers) p attempts registry fresh

theorem registry_destroy (addr : Nat) : Registry cfg listenFd (sessionDestroy p addr) := by
  cases found : p.heap addr with
  | none =>
      simp only [sessionDestroy, found]
      exact registry
  | some s =>
      exact registry_destroyed cfg listenFd p registry _ addr s found (destroyed p addr s found)

theorem registry_reap (now : Int) (addr : Nat) :
    Registry cfg listenFd (reapSession cfg now p addr) := by
  unfold reapSession
  split
  · exact registry
  · split
    · apply registry_destroy
      exact registry_rejected cfg listenFd p registry _ ⟨rfl, rfl, rfl, rfl, rfl, 0, rfl, by simp⟩
    · exact registry

end Facts

/-- What a handled event leaves alone: both descriptors and the session counters. -/
structure SameOwner (s : Session) (m : Metrics) (r : Relay) : Prop where
  client : r.session.client.fd = s.client.fd
  upstream : r.session.upstream.fd = s.upstream.fd
  active : r.metrics.active = m.active
  closed : r.metrics.closed = m.closed

theorem owner_moves (s : Session) (m : Metrics) (side : Side) :
    KeptByMoves side (SameOwner s m) where
  connected _ same := { same with }
  read _ _ same := by
    cases side with
    | client => exact { same with }
    | upstream => exact { same with }
  ended _ same := by
    cases side with
    | client => exact { same with }
    | upstream => exact { same with }
  written _ _ same := by
    cases side with
    | client => exact { same with }
    | upstream => exact { same with }
  halfClosed r same := by
    have kept (d : Side) : ((sessionConsiderHalfClose r.session).peer d.other).fd =
        (r.session.peer d.other).fd := by
      rw [half_close_peer]
      split
      · exact shutdown_fd _
      · rfl
    exact ⟨(kept .upstream).trans same.client, (kept .client).trans same.upstream, same.active,
      same.closed⟩
  failed _ _ _ _ same := { same with }
  refreshed _ _ same := { same with }

theorem sideIo_owner (calls : Calls) (side : Side) (ev : Events) (r : Relay) :
    SameOwner r.session r.metrics (handleSideIo calls side ev r).2 :=
  sideIo_kept _ calls side ev r (owner_moves r.session r.metrics side) ⟨rfl, rfl, rfl, rfl⟩

theorem same_owner_peer (s : Session) (m : Metrics) (r : Relay) (same : SameOwner s m r)
    (side : Side) : (r.session.peer side).fd = (s.peer side).fd := by
  cases side with
  | client => exact same.client
  | upstream => exact same.upstream

section Dispatch

variable (cfg : ProxyConfig) (listenFd : Nat) (p : Process) (registry : Registry cfg listenFd p)

include registry

/-- Writing a handled session back keeps the registry: its descriptors are
the ones it had. -/
theorem registry_store (addr : Nat) (s : Session) (r : Relay) (found : p.heap addr = some s)
    (same : SameOwner s p.metrics r) : Registry cfg listenFd (storeRelay p addr r) := by
  have heap : ∀ other s', p.heap other = some s' →
      ∃ s'', (storeRelay p addr r).heap other = some s'' ∧
        ∀ side, (s''.peer side).fd = (s'.peer side).fd := by
    intro other s' old
    by_cases here : other = addr
    · subst here
      obtain rfl : s = s' := Option.some.inj (found.symm.trans old)
      exact ⟨r.session, by simp [storeRelay, setSession], same_owner_peer s p.metrics r same⟩
    · exact ⟨s', by simp [storeRelay, setSession, here, old], fun _ => rfl⟩
  refine ⟨?_, ?_, ?_, registry.old, registry.nodup, registry.listenerOpen,
    registry.listenerMapped, ?_, registry.bounded, ?_⟩
  · intro other member
    obtain ⟨s', c, u, at_⟩ := registry.attached other member
    obtain ⟨s'', now, fds⟩ := heap other s' at_.allocated
    exact ⟨s'', c, u,
      { at_ with
        allocated := now
        client := (fds .client).trans at_.client
        upstream := (fds .upstream).trans at_.upstream }⟩
  · intro fd ctx entry
    rcases registry.mapped fd ctx entry with listener | ⟨other, old, side, s', ctxEq, at_, held⟩
    · exact Or.inl listener
    · obtain ⟨s'', now, fds⟩ := heap other s' at_
      exact Or.inr ⟨other, old, side, s'', ctxEq, now, (fds side).trans held⟩
  · intro other s' now
    by_cases here : other = addr
    · subst here
      exact registry.allocated other s found
    · simp only [storeRelay, setSession, Function.update_of_ne here] at now
      exact registry.allocated other s' now
  · exact (congrArg UInt64.toNat same.active).trans registry.active
  · simp only [storeRelay, setSession, same.active, same.closed]
    exact registry.total

theorem registry_io (addr : Nat) (s : Session) (side : Side) (e : Event)
    (found : p.heap addr = some s) : Registry cfg listenFd (dispatchIo p addr s side e) := by
  have stored := registry_store cfg listenFd p registry addr s _ found
    (sideIo_owner e.calls side e.events (relayOf p s))
  unfold dispatchIo
  simp only
  split
  · exact stored
  · exact registry_destroy cfg listenFd _ stored addr

theorem registry_dispatch (e : Event)
    (fresh : p.fdMap e.fd = some listenerCtx → Trace.Steps (acceptTurn cfg) FreshFds p e.attempts) :
    Registry cfg listenFd (dispatch cfg p e) := by
  unfold dispatch
  split
  · exact registry
  · split
    · exact registry
    · rename_i ctx entry
      split
      · rename_i listener
        apply registry_accepts cfg listenFd p registry
        apply fresh
        rcases registry.mapped e.fd ctx entry with ⟨same, _⟩ | ⟨_, _, side, _, same, _⟩
        · rw [entry, same]
        · simp [same, peerCtx] at listener
      · split
        · exact registry
        · split
          · exact registry
          · rename_i s found
            exact registry_io cfg listenFd p registry _ s _ e found

end Dispatch

/-- The kernel returns descriptors that are not open at the time. -/
def KernelAnswers (cfg : ProxyConfig) (p : Process) : LoopInput → Prop
  | .event e =>
      p.fdMap e.fd = some listenerCtx → Trace.Steps (acceptTurn cfg) FreshFds p e.attempts
  | .idle _ => True
  | .shutdown => True

theorem registry_step (cfg : ProxyConfig) (listenFd : Nat) (p : Process) (input : LoopInput)
    (registry : Registry cfg listenFd p) (answers : KernelAnswers cfg p input) :
    Registry cfg listenFd (loopStep cfg p input) := by
  cases input with
  | event e => exact registry_dispatch cfg listenFd p registry e answers
  | idle now =>
      exact Trace.run_invariant (reapSession cfg now) (Registry cfg listenFd)
        (fun q addr kept => registry_reap cfg listenFd q kept now addr) p p.sessions registry
  | shutdown =>
      exact Trace.run_invariant sessionDestroy (Registry cfg listenFd)
        (fun q addr kept => registry_destroy cfg listenFd q kept addr) p p.sessions registry

/-- The agreement of list, map, descriptors and counters, as observed between
two turns of the loop. -/
structure RegistryAgrees (cfg : ProxyConfig) (p : Process) : Prop where
  entries : ∀ fd ctx, p.fdMap fd = some ctx → ctx ≠ listenerCtx →
    ∃ addr ∈ p.sessions, ∃ side s, ctx = peerCtx addr side ∧ p.heap addr = some s ∧
      (s.peer side).fd = some fd
  sessions : ∀ addr ∈ p.sessions, ∃ s c u, p.heap addr = some s ∧ s.client.fd = some c ∧
    s.upstream.fd = some u ∧ c ≠ u ∧ p.openFds c = true ∧ p.openFds u = true ∧
    p.fdMap c = some (peerCtx addr .client) ∧ p.fdMap u = some (peerCtx addr .upstream)
  single : ∀ addr addr' s s' side side' fd, p.heap addr = some s → p.heap addr' = some s' →
    (s.peer side).fd = some fd → (s'.peer side').fd = some fd → addr = addr' ∧ side = side'
  distinct : p.sessions.Nodup
  active : p.metrics.active.toNat = p.sessions.length
  limit : (p.metrics.active.toNat : Int) ≤ cfg.maxConnections
  total : p.metrics.active + p.metrics.closed = UInt64.ofNat p.created

theorem registry_agrees (cfg : ProxyConfig) (listenFd : Nat) (p : Process)
    (registry : Registry cfg listenFd p) : RegistryAgrees cfg p := by
  refine ⟨?_, ?_, ?_, registry.nodup, registry.active, ?_, registry.total⟩
  · intro fd ctx entry other
    rcases registry.mapped fd ctx entry with ⟨listener, _⟩ | owned
    · exact absurd listener other
    · exact owned
  · intro addr member
    obtain ⟨s, c, u, at_⟩ := registry.attached addr member
    exact ⟨s, c, u, at_.allocated, at_.client, at_.upstream, at_.distinct, at_.clientOpen,
      at_.upstreamOpen, at_.clientMapped, at_.upstreamMapped⟩
  · intro addr addr' s s' side side' fd found found' held held'
    have first := (peer_mapped cfg listenFd p registry addr s found side fd held).2.2
    have second := (peer_mapped cfg listenFd p registry addr' s' found' side' fd held').2.2
    simpa [peerCtx] using Option.some.inj (first.symm.trans second)
  · rw [registry.active]
    exact registry.bounded

/-- Between any two turns of the event loop, in every run of accepts with any
failures, handled events, closes and reaps, the registry agrees. -/
theorem registry_always (cfg : ProxyConfig) (listenFd : Nat) (inputs : List LoopInput)
    (answers : Trace.Steps (loopStep cfg) (KernelAnswers cfg) (listening listenFd) inputs) :
    Trace.Always (loopStep cfg) (RegistryAgrees cfg) (listening listenFd) inputs := by
  apply Trace.always_mono (loopStep cfg) (Registry cfg listenFd) _ (registry_agrees cfg listenFd)
  exact Trace.always_of_steps (loopStep cfg) (KernelAnswers cfg) (Registry cfg listenFd)
    (registry_step cfg listenFd) _ inputs (registry_listening cfg listenFd) answers

def defaultConfig : ProxyConfig := ⟨4096, 120, by decide, by decide⟩

/-- A turn of the accept loop in which nothing fails. -/
def plainAttempt (cfd ufd : Nat) : Attempt :=
  { cfd := cfd
    nonblocking := true
    calloc := true
    now := 0
    connect := some ufd
    mallocClient := true
    mallocUpstream := true
    addClient := true
    addUpstream := true }

def quietCalls : Calls := ⟨0, some 0, .again, .again⟩

def acceptEvent (listenFd : Nat) (attempts : List Attempt) : Event :=
  ⟨listenFd, ⟨true, false, false, false, false⟩, quietCalls, attempts⟩

def hangupEvent (fd : Nat) : Event :=
  ⟨fd, ⟨false, false, false, true, false⟩, quietCalls, []⟩

theorem plain_fresh (p : Process) (c u : Nat) (client : p.openFds c = false)
    (upstream : p.openFds u = false) (distinct : u ≠ c) : FreshFds p (plainAttempt c u) := by
  refine ⟨client, ?_⟩
  rintro ufd connected
  obtain rfl : u = ufd := Option.some.inj connected
  exact ⟨upstream, distinct⟩

theorem registry_accept_then_hangup :
    Trace.Always (loopStep defaultConfig) (RegistryAgrees defaultConfig) (listening 3)
      [.event (acceptEvent 3 [plainAttempt 5 6]), .event (hangupEvent 5)] := by
  apply registry_always
  exact ⟨fun _ => ⟨plain_fresh _ 5 6 (by decide) (by decide) (by decide), trivial⟩,
    fun _ => trivial, trivial⟩

end RyzenBuild.Proxy
