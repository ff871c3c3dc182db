import RyzenBuild.Proxy.RegistryInvariant

/-!
One batch of `epoll_wait`, dispatched event by event. The loop looks the
session up by descriptor when it reaches an event, so an event can meet a
session that got its descriptor after the batch was returned.
-/
namespace RyzenBuild.Proxy

/-- The session and side an event on `fd` is applied to. -/
def target (p : Process) (fd : Nat) : Option (Nat × Side) :=
  if fd ≥ infFdMapCap then none
  else
    match p.fdMap fd with
    | some ⟨some addr, some side⟩ => some (addr, side)
    | _ => none

/-- Dispatching `e` in state `p` applies it to nobody, or to the session and
side that owned its descriptor in the state `origin`. -/
def Owned (origin p : Process) (e : Event) : Prop :=
  ∀ owner, target p e.fd = some owner → target origin e.fd = some owner

/-- A turn of the accept loop goes through on the descriptors `c` and `u`. -/
def AcceptsPair (cfg : ProxyConfig) : Process → List Attempt → Nat → Nat → Prop
  | _, [], _, _ => False
  | p, a :: rest, c, u =>
      c = a.cfd ∧ GoesThrough cfg p a u ∨ AcceptsPair cfg (acceptTurn cfg p a) rest c u

def HandsOut (cfg : ProxyConfig) (p : Process) (e : Event) (c u : Nat) : Prop :=
  e.fd < infFdMapCap ∧ p.fdMap e.fd = some listenerCtx ∧ AcceptsPair cfg p e.attempts c u

/-- No event of the batch names a descriptor that an accept earlier in the
batch gave to a new session. -/
def NoReuse (cfg : ProxyConfig) : Process → List Event → Prop
  | _, [] => True
  | p, e :: rest =>
      (∀ c u, HandsOut cfg p e c u → ∀ later ∈ rest, later.fd ≠ c ∧ later.fd ≠ u) ∧
        NoReuse cfg (dispatch cfg p e) rest

def BatchAnswers (cfg : ProxyConfig) (p : Process) (e : Event) : Prop :=
  KernelAnswers cfg p (.event e)

/-- Both descriptors of a session are mapped to it. -/
structure Holding (p : Process) (addr c u : Nat) : Prop where
  client : p.fdMap c = some (peerCtx addr .client)
  upstream : p.fdMap u = some (peerCtx addr .upstream)

theorem target_peer (p : Process) (fd addr : Nat) (side : Side) (small : fd < infFdMapCap)
    (entry : p.fdMap fd = some (peerCtx addr side)) : target p fd = some (addr, side) := by
  simp [target, Nat.not_le.mpr small, entry, peerCtx]

theorem target_entry (p : Process) (fd addr : Nat) (side : Side)
    (found : target p fd = some (addr, side)) :
    fd < infFdMapCap ∧ p.fdMap fd = some (peerCtx addr side) := by
  unfold target at found
  split at found
  · cases found
  · rename_i small
    split at found
    · rename_i entry
      obtain ⟨rfl, rfl⟩ := Prod.mk.inj (Option.some.inj found)
      exact ⟨Nat.lt_of_not_le small, entry⟩
    · cases found

theorem io_created (p : Process) (addr : Nat) (s : Session) (side : Side) (e : Event) :
    (dispatchIo p addr s side e).created = p.created := by
  unfold dispatchIo
  simp only
  split
  · rfl
  · have heap : (storeRelay p addr (handleSideIo e.calls side e.events (relayOf p s)).2).heap addr =
        some (handleSideIo e.calls side e.events (relayOf p s)).2.session := by
      simp [storeRelay, setSession]
    exact (destroyed _ addr _ heap).created

section Turns

variable (cfg : ProxyConfig) (listenFd : Nat) (p : Process) (registry : Registry cfg listenFd p)

include registry

/-- An entry after a turn of the accept loop was there before or belongs to
the pair the turn handed out. -/
theorem turn_entries (a : Attempt) (fresh : FreshFds p a) (fd : Nat) (ctx : FdCtx)
    (entry : (acceptTurn cfg p a).fdMap fd = some ctx) :
    p.fdMap fd = some ctx ∨ ∃ u, GoesThrough cfg p a u ∧ (fd = a.cfd ∨ fd = u) := by
  rcases accept_turn cfg p a (registry_ready cfg listenFd p registry) fresh with
    ⟨ufd, through, grown⟩ | ⟨_, same⟩
  · by_cases atU : fd = ufd
    · exact Or.inr ⟨ufd, through, Or.inr atU⟩
    · by_cases atC : fd = a.cfd
      · exact Or.inr ⟨ufd, through, Or.inl atC⟩
      · rw [grown.fdMap, Function.update_of_ne atU, Function.update_of_ne atC] at entry
        exact Or.inl entry
  · rw [same.fdMap] at entry
    exact Or.inl entry

/-- A turn of the accept loop only writes at descriptors that were not open. -/
theorem turn_keeps (a : Attempt) (fresh : FreshFds p a) (fd : Nat) (ctx : FdCtx)
    (entry : p.fdMap fd = some ctx) : (acceptTurn cfg p a).fdMap fd = some ctx := by
  -- A mapped descriptor is open, so the kernel did not return it in this turn.
  have opened := mapped_open cfg listenFd p registry fd ctx entry
  rcases accept_turn cfg p a (registry_ready cfg listenFd p registry) fresh with
    ⟨ufd, through, grown⟩ | ⟨_, same⟩
  · have notU : fd ≠ ufd := by
      rintro rfl
      simp [(fresh.upstream fd through.connect).1] at opened
    have notC : fd ≠ a.cfd := by
      rintro rfl
      simp [fresh.client] at opened
    rw [grown.fdMap, Function.update_of_ne notU, Function.update_of_ne notC, entry]
  · rw [same.fdMap, entry]

theorem turn_created (a : Attempt) (fresh : FreshFds p a) :
    p.created ≤ (acceptTurn cfg p a).created := by
  rcases accept_turn cfg p a (registry_ready cfg listenFd p registry) fresh with
    ⟨ufd, _, grown⟩ | ⟨_, same⟩
  · rw [grown.created]
    exact Nat.le_succ _
  · obtain ⟨failed, created, _⟩ := same.balance
    rw [created]
    exact Nat.le_add_right _ _

theorem accepts_entries (attempts : List Attempt)
    (fresh : Trace.Steps (acceptTurn cfg) FreshFds p attempts) (fd : Nat) (ctx : FdCtx)
    (entry : (handleListenerAccept cfg p attempts).fdMap fd = some ctx) :
    p.fdMap fd = some ctx ∨ ∃ c u, AcceptsPair cfg p attempts c u ∧ (fd = c ∨ fd = u) := by
  induction attempts generalizing p with
  | nil => exact Or.inl entry
  | cons a rest ih =>
      rw [handleListenerAccept, List.foldl_cons] at entry
      rcases ih (acceptTurn cfg p a) (turn_registry cfg listenFd p registry a fresh.1) fresh.2
        entry with before | ⟨c, u, accepts, here⟩
      · rcases turn_entries cfg listenFd p registry a fresh.1 fd ctx before with
          older | ⟨u, through, here⟩
        · exact Or.inl older
        · exact Or.inr ⟨a.cfd, u, Or.inl ⟨rfl, through⟩, here⟩
      · exact Or.inr ⟨c, u, Or.inr accepts, here⟩

theorem accepts_keeps (attempts : List Attempt)
    (fresh : Trace.Steps (acceptTurn cfg) FreshFds p attempts) (fd : Nat) (ctx : FdCtx)
    (entry : p.fdMap fd = some ctx) :
    (handleListenerAccept cfg p attempts).fdMap fd = some ctx := by
  induction attempts generalizing p with
  | nil => exact entry
  | cons a rest ih =>
      rw [handleListenerAccept, List.foldl_cons]
      exact ih (acceptTurn cfg p a) (turn_registry cfg listenFd p registry a fresh.1) fresh.2
        (turn_keeps cfg listenFd p registry a fresh.1 fd ctx entry)

theorem accepts_created (attempts : List Attempt)
    (fresh : Trace.Steps (acceptTurn cfg) FreshFds p attempts) :
    p.created ≤ (handleListenerAccept cfg p attempts).created := by
  induction attempts generalizing p with
  | nil => exact Nat.le_refl _
  | cons a rest ih =>
      rw [handleListenerAccept, List.foldl_cons]
      exact (turn_created cfg listenFd p registry a fresh.1).trans
        (ih (acceptTurn cfg p a) (turn_registry cfg listenFd p registry a fresh.1) fresh.2)

/-- The pair an accept hands out belongs to a session that did not exist before. -/
theorem accepts_holding (attempts : List Attempt)
    (fresh : Trace.Steps (acceptTurn cfg) FreshFds p attempts) (c u : Nat)
    (accepts : AcceptsPair cfg p attempts c u) :
    c < infFdMapCap ∧ u < infFdMapCap ∧ ∃ addr, p.created ≤ addr ∧
      Holding (handleListenerAccept cfg p attempts) addr c u := by
  induction attempts generalizing p with
  | nil => cases accepts
  | cons a rest ih =>
      have next := turn_registry cfg listenFd p registry a fresh.1
      rw [handleListenerAccept, List.foldl_cons]
      rcases accepts with ⟨rfl, through⟩ | later
      · rcases accept_turn cfg p a (registry_ready cfg listenFd p registry) fresh.1 with
          ⟨ufd, through', grown⟩ | ⟨never, _⟩
        · obtain rfl : u = ufd := Option.some.inj (through.connect.symm.trans through'.connect)
          have distinct := (fresh.1.upstream u through.connect).2
          -- The rest of the loop keeps the entries of this turn.
          refine ⟨through.clientSmall, through.upstreamSmall, p.created, Nat.le_refl _, ?_, ?_⟩
          · apply accepts_keeps cfg listenFd _ next rest fresh.2
            simp [grown.fdMap, distinct.symm]
          · apply accepts_keeps cfg listenFd _ next rest fresh.2
            simp [grown.fdMap]
        · exact absurd through (never u)
      · obtain ⟨smallC, smallU, addr, newer, holding⟩ := ih (acceptTurn cfg p a) next fresh.2 later
        exact ⟨smallC, smallU, addr,
          (turn_created cfg listenFd p registry a fresh.1).trans newer, holding⟩

/-- What one dispatched event can be: nothing, the accept loop, or the handler
of the session its descriptor maps to. -/
theorem dispatch_cases (e : Event) :
    target p e.fd = none ∧ dispatch cfg p e = p ∨
      (e.fd < infFdMapCap ∧ p.fdMap e.fd = some listenerCtx ∧
        dispatch cfg p e = handleListenerAccept cfg p e.attempts) ∨
      ∃ addr side s, target p e.fd = some (addr, side) ∧ p.heap addr = some s ∧
        dispatch cfg p e = dispatchIo p addr s side e := by
  by_cases small : e.fd < infFdMapCap
  · have bound : ¬ e.fd ≥ infFdMapCap := Nat.not_le.mpr small
    cases entry : p.fdMap e.fd with
    | none => exact Or.inl ⟨by simp [target, entry], by simp [dispatch, entry]⟩
    | some ctx =>
        rcases registry.mapped e.fd ctx entry with ⟨rfl, _⟩ | ⟨addr, _, side, s, rfl, heap, _⟩
        · exact Or.inr (Or.inl ⟨small, rfl, by simp [dispatch, bound, entry, listenerCtx]⟩)
        · exact Or.inr (Or.inr ⟨addr, side, s, target_peer p e.fd addr side small entry, heap,
            by simp [dispatch, bound, entry, peerCtx, heap]⟩)
  · have bound : e.fd ≥ infFdMapCap := Nat.le_of_not_lt small
    exact Or.inl ⟨by simp [target, bound], by simp [dispatch, bound]⟩

/-- A handled event changes the map only by clearing the two descriptors of
its own session. -/
theorem io_fdMap (addr : Nat) (s : Session) (side : Side) (e : Event)
    (found : p.heap addr = some s) (fd : Nat) :
    (dispatchIo p addr s side e).fdMap fd = p.fdMap fd ∨
      (dispatchIo p addr s side e).fdMap fd = none ∧
        ∃ owner, p.fdMap fd = some (peerCtx addr owner) := by
  have owner := sideIo_owner e.calls side e.events (relayOf p s)
  have stored := registry_store cfg listenFd p registry addr s _ found owner
  unfold dispatchIo
  simp only
  split
  · exact Or.inl rfl
  · have heap : (storeRelay p addr (handleSideIo e.calls side e.events (relayOf p s)).2).heap addr =
        some (handleSideIo e.calls side e.events (relayOf p s)).2.session := by
      simp [storeRelay, setSession]
    have gone := destroyed _ addr _ heap
    rw [gone.fdMap]
    split
    · rename_i held
      obtain ⟨_, side', entry⟩ := held_mapped cfg listenFd _ stored addr _ heap fd held.1
      exact Or.inr ⟨rfl, side', entry⟩
    · exact Or.inl rfl

theorem dispatch_created (e : Event) (answers : BatchAnswers cfg p e) :
    p.created ≤ (dispatch cfg p e).created := by
  rcases dispatch_cases cfg listenFd p registry e with
    ⟨_, same⟩ | ⟨_, entry, same⟩ | ⟨addr, side, s, _, _, same⟩
  · rw [same]
  · rw [same]
    exact accepts_created cfg listenFd p registry e.attempts (answers entry)
  · rw [same, io_created]

/-- An entry after an event was there before or belongs to a pair the event
handed out. -/
theorem dispatch_entries (e : Event) (answers : BatchAnswers cfg p e) (fd : Nat) (ctx : FdCtx)
    (entry : (dispatch cfg p e).fdMap fd = some ctx) :
    p.fdMap fd = some ctx ∨ ∃ c u, HandsOut cfg p e c u ∧ (fd = c ∨ fd = u) := by
  rcases dispatch_cases cfg listenFd p registry e with
    ⟨_, same⟩ | ⟨small, listener, same⟩ | ⟨addr, side, s, _, found, same⟩
  · exact Or.inl (same ▸ entry)
  · rw [same] at entry
    rcases accepts_entries cfg listenFd p registry e.attempts (answers listener) fd ctx entry with
      before | ⟨c, u, accepts, here⟩
    · exact Or.inl before
    · exact Or.inr ⟨c, u, ⟨small, listener, accepts⟩, here⟩
  · rw [same] at entry
    rcases io_fdMap cfg listenFd p registry addr s side e found fd with kept | ⟨cleared, _⟩
    · exact Or.inl (kept ▸ entry)
    · simp [cleared] at entry

/-- A session loses its descriptors only through an event on one of them. -/
theorem dispatch_holding (e : Event) (answers : BatchAnswers cfg p e) (addr c u : Nat)
    (holding : Holding p addr c u)
    (notC : e.fd ≠ c) (notU : e.fd ≠ u) : Holding (dispatch cfg p e) addr c u := by
  rcases dispatch_cases cfg listenFd p registry e with
    ⟨_, same⟩ | ⟨_, listener, same⟩ | ⟨other, side, s, hit, found, same⟩
  · rw [same]
    exact holding
  · rw [same]
    exact ⟨accepts_keeps cfg listenFd p registry e.attempts (answers listener) c _ holding.client,
      accepts_keeps cfg listenFd p registry e.attempts (answers listener) u _ holding.upstream⟩
  · obtain ⟨_, entry⟩ := target_entry p e.fd other side hit
    have different : other ≠ addr := by
      rintro rfl
      have held := mapped_peer cfg listenFd p registry e.fd other side s entry found
      cases side with
      | client =>
          have client := mapped_peer cfg listenFd p registry c other .client s holding.client found
          exact notC (Option.some.inj (held.symm.trans client))
      | upstream =>
          have upstream :=
            mapped_peer cfg listenFd p registry u other .upstream s holding.upstream found
          exact notU (Option.some.inj (held.symm.trans upstream))
    have kept : ∀ fd owner, p.fdMap fd = some (peerCtx addr owner) →
        (dispatchIo p other s side e).fdMap fd = some (peerCtx addr owner) := by
      intro fd owner mine
      rcases io_fdMap cfg listenFd p registry other s side e found fd with kept | ⟨_, owner', its⟩
      · rw [kept, mine]
      · have clash := Option.some.inj (mine.symm.trans its)
        exact absurd (by simpa [peerCtx] using congrArg FdCtx.session clash) different.symm
    rw [same]
    exact ⟨kept c .client holding.client, kept u .upstream holding.upstream⟩

/-- A new session is still there when the first event on one of its
descriptors is dispatched. -/
theorem reuse_is_met (batch : List Event)
    (answers : Trace.Steps (dispatch cfg) (BatchAnswers cfg) p batch) (origin : Process)
    (addr c u : Nat) (holding : Holding p addr c u)
    (smallC : c < infFdMapCap) (smallU : u < infFdMapCap)
    (foreign : ∀ fd side, target origin fd ≠ some (addr, side))
    (owned : Trace.Steps (dispatch cfg) (Owned origin) p batch) :
    ∀ later ∈ batch, later.fd ≠ c ∧ later.fd ≠ u := by
  induction batch generalizing p with
  | nil => simp
  | cons e rest ih =>
      have notC : e.fd ≠ c := by
        intro atC
        have hit := target_peer p e.fd addr .client (atC ▸ smallC) (atC ▸ holding.client)
        exact foreign e.fd .client (owned.1 _ hit)
      have notU : e.fd ≠ u := by
        intro atU
        have hit := target_peer p e.fd addr .upstream (atU ▸ smallU) (atU ▸ holding.upstream)
        exact foreign e.fd .upstream (owned.1 _ hit)
      intro later member
      rcases List.mem_cons.mp member with rfl | inRest
      · exact ⟨notC, notU⟩
      · exact ih (dispatch cfg p e) (registry_dispatch cfg listenFd p registry e answers.1)
          answers.2
          (dispatch_holding cfg listenFd p registry e answers.1 addr c u holding notC notU)
          owned.2 later inRest

theorem noReuse_of_owned (batch : List Event)
    (answers : Trace.Steps (dispatch cfg) (BatchAnswers cfg) p batch) (origin : Process)
    (older : origin.created ≤ p.created)
    (named : ∀ fd addr side, target origin fd = some (addr, side) → addr < origin.created)
    (owned : Trace.Steps (dispatch cfg) (Owned origin) p batch) : NoReuse cfg p batch := by
  induction batch generalizing p with
  | nil => trivial
  | cons e rest ih =>
      have next := registry_dispatch cfg listenFd p registry e answers.1
      refine ⟨?_, ih (dispatch cfg p e) next answers.2
        (older.trans (dispatch_created cfg listenFd p registry e answers.1)) owned.2⟩
      rintro c u ⟨small, listener, accepts⟩
      obtain ⟨smallC, smallU, addr, newer, holding⟩ :=
        accepts_holding cfg listenFd p registry e.attempts (answers.1 listener) c u accepts
      have same : dispatch cfg p e = handleListenerAccept cfg p e.attempts := by
        simp [dispatch, Nat.not_le.mpr small, listener, listenerCtx]
      apply reuse_is_met cfg listenFd _ next rest answers.2 origin addr c u (same ▸ holding)
        smallC smallU ?_ owned.2
      intro fd side hit
      -- Owners at the start of the batch are older than the session just accepted.
      have below := named fd addr side hit
      omega

/-- As long as reused descriptors are not named again, every entry an event
can meet is the one the batch was returned with. -/
theorem owned_of_noReuse (batch : List Event)
    (answers : Trace.Steps (dispatch cfg) (BatchAnswers cfg) p batch) (origin : Process)
    (entries : ∀ fd ctx, p.fdMap fd = some ctx →
      origin.fdMap fd = some ctx ∨ ∀ later ∈ batch, later.fd ≠ fd)
    (noReuse : NoReuse cfg p batch) : Trace.Steps (dispatch cfg) (Owned origin) p batch := by
  induction batch generalizing p with
  | nil => trivial
  | cons e rest ih =>
      refine ⟨?_, ih (dispatch cfg p e) (registry_dispatch cfg listenFd p registry e answers.1)
        answers.2 ?_ noReuse.2⟩
      · rintro ⟨addr, side⟩ hit
        obtain ⟨small, entry⟩ := target_entry p e.fd addr side hit
        rcases entries e.fd _ entry with same | unnamed
        · exact target_peer origin e.fd addr side small same
        · exact absurd rfl (unnamed e List.mem_cons_self)
      · intro fd ctx entry
        rcases dispatch_entries cfg listenFd p registry e answers.1 fd ctx entry with
          before | ⟨c, u, out, here⟩
        · rcases entries fd ctx before with same | unnamed
          · exact Or.inl same
          · exact Or.inr fun later member => unnamed later (List.mem_cons_of_mem e member)
        · refine Or.inr fun later member => ?_
          obtain ⟨notC, notU⟩ := noReuse.1 c u out later member
          rcases here with rfl | rfl
          · exact notC
          · exact notU

end Turns

/-- Every event of a batch is applied only to the session and side that owned
its descriptor when the batch was returned, exactly if no event names a
descriptor that an accept earlier in the batch gave to a new session. -/
theorem event_ownership_iff (cfg : ProxyConfig) (listenFd : Nat) (history : List LoopInput)
    (answers : Trace.Steps (loopStep cfg) (KernelAnswers cfg) (listening listenFd) history)
    (batch : List Event)
    (batchAnswers : Trace.Steps (dispatch cfg) (BatchAnswers cfg)
      (Trace.run (loopStep cfg) (listening listenFd) history) batch) :
    Trace.Steps (dispatch cfg) (Owned (Trace.run (loopStep cfg) (listening listenFd) history))
        (Trace.run (loopStep cfg) (listening listenFd) history) batch ↔
      NoReuse cfg (Trace.run (loopStep cfg) (listening listenFd) history) batch := by
  have registry : Registry cfg listenFd (Trace.run (loopStep cfg) (listening listenFd) history) :=
    Trace.run_of_steps (loopStep cfg) (KernelAnswers cfg) (Registry cfg listenFd)
      (registry_step cfg listenFd) _ history (registry_listening cfg listenFd) answers
  constructor
  · apply noReuse_of_owned cfg listenFd _ registry batch batchAnswers _ (Nat.le_refl _)
    intro fd addr side hit
    obtain ⟨_, entry⟩ := target_entry _ fd addr side hit
    rcases registry.mapped fd _ entry with ⟨listener, _⟩ | ⟨owner, member, _, _, same, _⟩
    · simp [listenerCtx, peerCtx] at listener
    · obtain rfl : addr = owner := by simpa [peerCtx] using congrArg FdCtx.session same
      exact registry.old addr member
  · exact owned_of_noReuse cfg listenFd _ registry batch batchAnswers _
      fun fd ctx entry => Or.inl entry

def oneAccept : List LoopInput := [.event (acceptEvent 3 [plainAttempt 5 6])]

/-- One session, on descriptors 5 and 6. -/
def oneSession : Process := Trace.run (loopStep defaultConfig) (listening 3) oneAccept

theorem one_accept_answers :
    Trace.Steps (loopStep defaultConfig) (KernelAnswers defaultConfig) (listening 3) oneAccept :=
  ⟨fun _ => ⟨plain_fresh _ 5 6 (by decide) (by decide) (by decide), trivial⟩, trivial⟩

/-- A hangup and an accept that reuses its descriptors, and then the event
`last`. -/
def reuseBatch (last : Event) : List Event :=
  [hangupEvent 5, acceptEvent 3 [plainAttempt 6 5], last]

theorem reuse_batch_answers (last : Event) (quiet : last.attempts = []) :
    Trace.Steps (dispatch defaultConfig) (BatchAnswers defaultConfig) oneSession
      (reuseBatch last) := by
  refine ⟨fun _ => trivial, fun _ => ⟨?_, trivial⟩, fun _ => ?_, trivial⟩
  · exact plain_fresh _ 6 5 (by decide +kernel) (by decide +kernel) (by decide)
  · rw [quiet]
    trivial

/-- Reuse alone does no harm: what follows the accept may name a third session. -/
theorem event_ownership_unnamed :
    Trace.Steps (dispatch defaultConfig) (Owned oneSession) oneSession
      (reuseBatch (hangupEvent 7)) := by
  refine (event_ownership_iff defaultConfig 3 oneAccept one_accept_answers
    (reuseBatch (hangupEvent 7)) (reuse_batch_answers _ rfl)).mpr ?_
  refine ⟨?_, ?_, ?_, trivial⟩
  · rintro c u ⟨_, _, none⟩
    cases none
  · rintro c u ⟨_, _, ⟨rfl, through⟩ | none⟩ later member
    · obtain rfl : 5 = u := Option.some.inj through.connect
      obtain rfl := List.mem_singleton.mp member
      exact ⟨by decide, by decide⟩
    · cases none
  · rintro c u _ later member
    cases member

/-- A hangup on 5 closes the session, the accept behind it reuses both
descriptors, and the event still recorded for 6 is applied to the new session. -/
theorem stale_event_applied :
    Trace.Steps (loopStep defaultConfig) (KernelAnswers defaultConfig) (listening 3) oneAccept ∧
      Trace.Steps (dispatch defaultConfig) (BatchAnswers defaultConfig) oneSession
        (reuseBatch (hangupEvent 6)) ∧
      ¬ Trace.Steps (dispatch defaultConfig) (Owned oneSession) oneSession
        (reuseBatch (hangupEvent 6)) := by
  refine ⟨one_accept_answers, reuse_batch_answers _ rfl, ?_⟩
  rintro ⟨_, _, stale, _⟩
  have applied := stale (1, .client) (by decide +kernel)
  exact absurd applied (by decide +kernel)

end RyzenBuild.Proxy
