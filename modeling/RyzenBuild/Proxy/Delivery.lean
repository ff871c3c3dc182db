import Mathlib.Algebra.BigOperators.Group.Finset.Basic
import RyzenBuild.Proxy.Ledger
import RyzenBuild.Proxy.Spool

/-!
What becomes of every byte the proxy receives, with any number of sessions at
once: it is sent on, still lies in the buffer of a live session, or was left behind
by a session that was closed. What a session closed by its own event leaves behind is
what its artifact holds, as far as the disk has taken it.
-/
namespace RyzenBuild.Proxy

open Memory

/-- The process with its files and a record of the bytes: for each session, by its
address, what each side's `recv` and the other side's `send` passed, and what was left
in the buffers at the close. `spooled` is there for the sessions whose artifact passes
for written, with the number of bytes that its stream puts into the file. -/
structure Record where
  process : Process
  files : Files
  received : Nat → Side → List UInt8
  sent : Nat → Side → List UInt8
  left : Nat → Side → List UInt8
  spooled : Nat → Option Nat

def remains (s : Session) : Side → List UInt8 := fun side => window (s.inbuf side)

/-- A handled event with its session's `session_destroy`, which emits the artifact. -/
def Record.handled (cfg : ProxyConfig) (spoolDir : List UInt8) (x : Record) (addr : Nat)
    (side : Side) (s : Session) (e : Event) (disk : DiskAnswer) : Record :=
  let result := handleSideIo e.calls side e.events (relayOf x.process s)
  let emitted := sessionEmitArtifact spoolDir disk x.files result.2.session
  { process := loopStep cfg x.process (.event e)
    received := Function.update x.received addr fun d => x.received addr d ++ result.2.received d
    sent := Function.update x.sent addr fun d => x.sent addr d ++ result.2.sent d
    left := if result.1 then x.left else Function.update x.left addr (remains result.2.session)
    files := if result.1 then x.files else emitted.2
    spooled :=
      if result.1 then x.spooled
      else Function.update x.spooled addr (if emitted.1 = 0 then some disk.flushed else none) }

/-- The idle reaper and the shutdown leave no artifact. -/
def Record.closed (cfg : ProxyConfig) (x : Record) (input : LoopInput) : Record :=
  { x with
    process := loopStep cfg x.process input
    left := fun addr =>
      match x.process.heap addr, (loopStep cfg x.process input).heap addr with
      | some s, none => remains s
      | _, _ => x.left addr }

def Record.step (cfg : ProxyConfig) (spoolDir : List UInt8) (x : Record)
    (input : LoopInput × DiskAnswer) : Record :=
  match input.1 with
  | .event e =>
      match target x.process e.fd with
      | none => { x with process := loopStep cfg x.process (.event e) }
      | some (addr, side) =>
          match x.process.heap addr with
          | none => { x with process := loopStep cfg x.process (.event e) }
          | some s => x.handled cfg spoolDir addr side s e input.2
  | other => x.closed cfg other

def Record.listening (listenFd : Nat) (files : Files) : Record :=
  { process := Proxy.listening listenFd
    files := files
    received := fun _ _ => []
    sent := fun _ _ => []
    left := fun _ _ => []
    spooled := fun _ => none }

section Resumed

variable (before : Side → List UInt8) (passed : Side → List UInt8)

/-- A relay behind what its session has received and sent before. -/
def resumed (r : Relay) : Relay :=
  { r with
    received := fun side => before side ++ r.received side
    sent := fun side => passed side ++ r.sent side }

theorem resumed_update (f : Side → List UInt8) (g : Side → List UInt8) (side : Side)
    (more : List UInt8) :
    (fun d => f d ++ Function.update g side (g side ++ more) d) =
      Function.update (fun d => f d ++ g d) side (f side ++ g side ++ more) := by
  funext d
  by_cases here : d = side
  · subst here
    simp
  · simp [here]

theorem resumed_read (answer : RecvAnswer) (side : Side) (r : Relay) :
    resumed before passed (relayRead answer side r).2 =
      (relayRead answer side (resumed before passed r)).2 := by
  simp only [resumed, relayRead, resumed_update]

theorem resumed_write (answer : SendAnswer) (side : Side) (r : Relay) :
    resumed before passed (relayWrite answer side r).2 =
      (relayWrite answer side (resumed before passed r)).2 := by
  simp only [resumed, relayWrite, resumed_update]

theorem resumed_moves (start : Side → UInt64) (side : Side) :
    KeptByMoves side fun r => StreamSound start (resumed before passed r) where
  connected r sound := (stream_moves start side).connected (resumed before passed r) sound
  read r answer sound := by
    rw [resumed_read]
    exact stream_read start answer side _ sound
  ended r sound := (stream_moves start side).ended (resumed before passed r) sound
  written r answer sound := by
    rw [resumed_write]
    exact stream_write start answer side.other _ sound
  halfClosed r sound := (stream_moves start side).halfClosed (resumed before passed r) sound
  failed r connects reads writes sound :=
    (stream_moves start side).failed (resumed before passed r) connects reads writes sound
  refreshed r masks sound := (stream_moves start side).refreshed (resumed before passed r) masks sound

end Resumed

theorem id_moves (id : UInt64) (side : Side) : KeptByMoves side fun r => r.session.id = id where
  connected _ same := same
  read _ _ same := by cases side <;> exact same
  ended _ same := by cases side <;> exact same
  written _ _ same := by cases side <;> exact same
  halfClosed r same := by
    rw [← same]
    simp only [sessionConsiderHalfClose]
    split <;> split <;> rfl
  failed _ _ _ _ same := same
  refreshed _ _ same := same

theorem sideIo_id (calls : Calls) (side : Side) (ev : Events) (r : Relay) :
    (handleSideIo calls side ev r).2.session.id = r.session.id :=
  sideIo_kept _ calls side ev r (id_moves r.session.id side) rfl

/-- What one event does to the streams of its session and to the byte counters. -/
theorem sideIo_stream (p : Process) (s : Session) (calls : Calls) (side : Side) (ev : Events)
    (before passed : Side → List UInt8) (sound : ∀ d : Side, Sound (s.inbuf d))
    (stream : ∀ d, passed d ++ window (s.inbuf d) = before d) (d : Side) :
    Sound ((handleSideIo calls side ev (relayOf p s)).2.session.inbuf d) ∧
      passed d ++ (handleSideIo calls side ev (relayOf p s)).2.sent d ++
          window ((handleSideIo calls side ev (relayOf p s)).2.session.inbuf d) =
        before d ++ (handleSideIo calls side ev (relayOf p s)).2.received d ∧
      (handleSideIo calls side ev (relayOf p s)).2.metrics.bytes d = p.metrics.bytes d +
        UInt64.ofNat ((handleSideIo calls side ev (relayOf p s)).2.received d).length := by
  let start : Side → UInt64 := fun d => p.metrics.bytes d - UInt64.ofNat (before d).length
  have first : StreamSound start (resumed before passed
      { relayOf p s with session := { s with lastActivity := calls.now } }) := by
    intro d
    have buffers : ({ s with lastActivity := calls.now } : Session).inbuf d = s.inbuf d := by
      cases d <;> rfl
    constructor
    · simp only [resumed, buffers]
      exact sound d
    · simp only [resumed, buffers, relayOf, List.append_nil]
      exact stream d
    · simp only [resumed, relayOf, List.append_nil, start, UInt64.sub_add_cancel]
  have kept := sideIo_kept _ calls side ev (relayOf p s) (resumed_moves before passed start side)
    first d
  refine ⟨kept.indices, kept.stream, ?_⟩
  have metric := kept.metric
  simp only [resumed, start, List.length_append, UInt64.ofNat_add] at metric
  rw [metric, ← UInt64.add_assoc, UInt64.sub_add_cancel]

/-- The ids go up with the addresses, and what was accepted since `origin` has moved
no byte. -/
structure Numbered (origin p : Process) : Prop where
  next : p.nextSessionId = UInt64.ofNat (p.created + 1)
  bytes : ∀ d, p.metrics.bytes d = origin.metrics.bytes d
  accepted : ∀ addr s, origin.created ≤ addr → p.heap addr = some s →
    s.id = UInt64.ofNat (addr + 1) ∧ ∀ d : Side, s.inbuf d = Buffer.zero

theorem destroy_bytes (p : Process) (addr : Nat) (d : Side) :
    (sessionDestroy p addr).metrics.bytes d = p.metrics.bytes d := by
  cases found : p.heap addr with
  | none => simp only [sessionDestroy, found]
  | some s => cases d <;> simp [sessionDestroy, found, sessionUnlink, Metrics.bytes]

theorem release_next (p : Process) (peer : Option Nat) :
    (releasePeer p peer).nextSessionId = p.nextSessionId := by
  cases peer with
  | none => rfl
  | some held => simp only [releasePeer, closeFd, unregisterFdCtx, epollDel]; split <;> rfl

theorem destroy_next (p : Process) (addr : Nat) :
    (sessionDestroy p addr).nextSessionId = p.nextSessionId := by
  cases found : p.heap addr with
  | none => simp only [sessionDestroy, found]
  | some s => simp [sessionDestroy, found, sessionUnlink, release_next]

theorem next_succ (p : Process) (next : p.nextSessionId = UInt64.ofNat (p.created + 1)) :
    p.nextSessionId + 1 = UInt64.ofNat (p.created + 1 + 1) := by
  rw [next, UInt64.ofNat_add (p.created + 1)]
  rfl

section Accepts

variable (cfg : ProxyConfig) (listenFd : Nat)

theorem numbered_turn (origin p : Process) (a : Attempt) (registry : Registry cfg listenFd p)
    (fresh : FreshFds p a) (numbered : Numbered origin p) :
    Numbered origin (acceptTurn cfg p a) := by
  have turn := accept_turn cfg p a (registry_ready cfg listenFd p registry) fresh
  have ending := turn_ending cfg p a
  generalize acceptTurn cfg p a = after at turn ending
  have accepted : ∀ addr s, origin.created ≤ addr → after.heap addr = some s →
      s.id = UInt64.ofNat (addr + 1) ∧ ∀ d : Side, s.inbuf d = Buffer.zero := by
    intro addr s new found
    rcases turn with ⟨ufd, _, grown⟩ | ⟨_, same⟩
    · rw [grown.heap] at found
      by_cases here : addr = p.created
      · subst here
        rw [Function.update_self] at found
        cases found
        exact ⟨numbered.next, fun d => by cases d <;> rfl⟩
      · rw [Function.update_of_ne here] at found
        exact numbered.accepted addr s new found
    · rw [same.heap] at found
      exact numbered.accepted addr s new found
  refine ⟨?_, ?_, accepted⟩
  · cases ending with
    | full => exact numbered.next
    | unstarted => exact numbered.next
    | unconnected q started =>
        rw [destroy_next, destroy_created, started.next, started.created]
        exact next_succ p numbered.next
    | unregistered ufd connected q started =>
        rw [destroy_next, destroy_created, started.next, started.created]
        exact next_succ p numbered.next
    | through ufd passed q next =>
        rcases turn with ⟨_, _, grown⟩ | ⟨failed, _⟩
        · rw [next, grown.created]
          exact next_succ p numbered.next
        · exact absurd passed (failed ufd)
  · intro d
    rw [← numbered.bytes d]
    cases ending with
    | full => cases d <;> rfl
    | unstarted => rfl
    | unconnected q started masks metrics =>
        rw [destroy_bytes, metrics]
        cases d <;> rfl
    | unregistered ufd connected q started metrics =>
        rw [destroy_bytes, metrics]
        cases d <;> rfl
    | through ufd passed q next metrics =>
        rw [metrics]
        cases d <;> rfl

theorem numbered_accepts (p : Process) (attempts : List Attempt)
    (registry : Registry cfg listenFd p) (next : p.nextSessionId = UInt64.ofNat (p.created + 1))
    (fresh : Trace.Steps (acceptTurn cfg) FreshFds p attempts) :
    Numbered p (handleListenerAccept cfg p attempts) := by
  have first : Numbered p p := by
    refine ⟨next, fun _ => rfl, ?_⟩
    intro addr s new found
    have below := registry.old addr (registry.allocated addr s found)
    omega
  have all := Trace.run_of_steps (acceptTurn cfg) FreshFds
    (fun q => Registry cfg listenFd q ∧ Numbered p q)
    (fun q a kept fresh => ⟨turn_registry cfg listenFd q kept.1 a fresh,
      numbered_turn cfg listenFd p q a kept.1 fresh kept.2⟩)
    p attempts ⟨registry, first⟩ fresh
  exact all.2

end Accepts

def totalReceived (x : Record) (d : Side) : Nat :=
  Finset.sum (Finset.range x.process.created) fun addr => (x.received addr d).length

/-- Nothing is recorded yet for the session at the address. -/
structure Blank (x : Record) (addr : Nat) : Prop where
  received : ∀ d, x.received addr d = []
  sent : ∀ d, x.sent addr d = []
  left : ∀ d, x.left addr d = []
  spooled : x.spooled addr = none

/-- A live session: its buffers hold what was received and not sent on. -/
structure Live (x : Record) (addr : Nat) (s : Session) : Prop where
  id : s.id = UInt64.ofNat (addr + 1)
  sound : ∀ d : Side, Sound (s.inbuf d)
  stream : ∀ d, x.sent addr d ++ window (s.inbuf d) = x.received addr d
  unspooled : x.spooled addr = none

/-- What is recorded for the session at the address is the same. -/
structure SameTapes (x y : Record) (addr : Nat) : Prop where
  received : y.received addr = x.received addr
  sent : y.sent addr = x.sent addr
  left : y.left addr = x.left addr
  spooled : y.spooled addr = x.spooled addr

theorem blank_same (x y : Record) (addr : Nat) (same : SameTapes x y addr) (blank : Blank x addr) :
    Blank y addr where
  received d := by rw [same.received, blank.received]
  sent d := by rw [same.sent, blank.sent]
  left d := by rw [same.left, blank.left]
  spooled := by rw [same.spooled, blank.spooled]

theorem live_same (x y : Record) (addr : Nat) (s : Session) (same : SameTapes x y addr)
    (live : Live x addr s) : Live y addr s where
  id := live.id
  sound := live.sound
  stream d := by rw [same.sent, same.received, live.stream]
  unspooled := by rw [same.spooled, live.unspooled]

/-- So much of the artifact of a session is in its file. -/
def Kept (spoolDir : List UInt8) (x : Record) (addr flushed : Nat) : Prop :=
  x.files (artifactPath spoolDir (UInt64.ofNat (addr + 1))) =
    some ((artifact (x.left addr .client) (x.left addr .upstream)).take flushed)

structure Traced (cfg : ProxyConfig) (listenFd : Nat) (spoolDir : List UInt8) (x : Record) :
    Prop where
  registry : Registry cfg listenFd x.process
  next : x.process.nextSessionId = UInt64.ofNat (x.process.created + 1)
  blank : ∀ addr, x.process.created ≤ addr → Blank x addr
  live : ∀ addr s, x.process.heap addr = some s → Live x addr s
  gone : ∀ addr, x.process.heap addr = none → ∀ d,
    x.sent addr d ++ x.left addr d = x.received addr d
  kept : x.process.created < 2 ^ 64 → spoolDir.length ≤ 4062 → ∀ addr flushed,
    x.spooled addr = some flushed → Kept spoolDir x addr flushed
  bytes : ∀ d, x.process.metrics.bytes d = UInt64.ofNat (totalReceived x d)

theorem traced_listening (cfg : ProxyConfig) (listenFd : Nat) (spoolDir : List UInt8)
    (files : Files) : Traced cfg listenFd spoolDir (Record.listening listenFd files) where
  registry := registry_listening cfg listenFd
  next := rfl
  blank _ _ := ⟨fun _ => rfl, fun _ => rfl, fun _ => rfl, rfl⟩
  live _ _ found := by cases found
  gone _ _ _ := rfl
  kept _ _ _ _ marked := by cases marked
  bytes d := by cases d <;> rfl

section Sums

/-- New sessions have received nothing. -/
theorem total_grown (x : Record) (more : Nat) (d : Side) (later : x.process.created ≤ more)
    (blank : ∀ addr, x.process.created ≤ addr → x.received addr d = []) :
    Finset.sum (Finset.range more) (fun addr => (x.received addr d).length) =
      totalReceived x d := by
  symm
  apply Finset.sum_subset
  · intro addr inside
    exact Finset.mem_range.mpr (Nat.lt_of_lt_of_le (Finset.mem_range.mp inside) later)
  · intro addr _ outside
    rw [blank addr (Nat.le_of_not_lt fun below => outside (Finset.mem_range.mpr below))]
    rfl

theorem total_received (x : Record) (addr : Nat) (more : Side → List UInt8) (d : Side)
    (old : addr < x.process.created) :
    Finset.sum (Finset.range x.process.created) (fun other =>
        (Function.update x.received addr (fun d => x.received addr d ++ more d) other d).length) =
      totalReceived x d + (more d).length := by
  have inside := Finset.mem_range.mpr old
  rw [totalReceived, ← Finset.add_sum_erase _ _ inside, ← Finset.add_sum_erase _ _ inside,
    Function.update_self, List.length_append]
  have others : Finset.sum ((Finset.range x.process.created).erase addr) (fun other =>
      (Function.update x.received addr (fun d => x.received addr d ++ more d) other d).length) =
      Finset.sum ((Finset.range x.process.created).erase addr) fun other =>
        (x.received other d).length := by
    apply Finset.sum_congr rfl
    intro other member
    rw [Function.update_of_ne (Finset.ne_of_mem_erase member)]
  rw [others]
  omega

end Sums

/-- A step that only closes sessions. -/
structure Closes (p p' : Process) : Prop where
  created : p'.created = p.created
  next : p'.nextSessionId = p.nextSessionId
  bytes : ∀ d, p'.metrics.bytes d = p.metrics.bytes d
  heap : ∀ addr, p'.heap addr = p.heap addr ∨ p'.heap addr = none

theorem closes_refl (p : Process) : Closes p p := ⟨rfl, rfl, fun _ => rfl, fun _ => Or.inl rfl⟩

theorem closes_trans (p q r : Process) (first : Closes p q) (next : Closes q r) : Closes p r where
  created := next.created.trans first.created
  next := next.next.trans first.next
  bytes d := (next.bytes d).trans (first.bytes d)
  heap addr := by
    rcases next.heap addr with same | gone
    · rw [same]
      exact first.heap addr
    · exact Or.inr gone

theorem closes_destroy (p : Process) (addr : Nat) : Closes p (sessionDestroy p addr) where
  created := destroy_created p addr
  next := destroy_next p addr
  bytes := destroy_bytes p addr
  heap other := by
    rw [destroy_heap]
    split
    · exact Or.inr rfl
    · exact Or.inl rfl

theorem closes_reap (cfg : ProxyConfig) (now : Int) (p : Process) (addr : Nat) :
    Closes p (reapSession cfg now p addr) := by
  unfold reapSession
  split
  · exact closes_refl p
  · split
    · refine closes_trans p _ _ ?_ (closes_destroy _ addr)
      exact ⟨rfl, rfl, fun d => by cases d <;> rfl, fun _ => Or.inl rfl⟩
    · exact closes_refl p

theorem closes_shutdown (p : Process) : Closes p (closeAllSessions p) :=
  Trace.run_invariant sessionDestroy (Closes p)
    (fun q addr kept => closes_trans p q _ kept (closes_destroy q addr)) p p.sessions (closes_refl p)

theorem closes_idle (cfg : ProxyConfig) (now : Int) (p : Process) :
    Closes p (enforceIdleTimeouts cfg now p) :=
  Trace.run_invariant (reapSession cfg now) (Closes p)
    (fun q addr kept => closes_trans p q _ kept (closes_reap cfg now q addr)) p p.sessions
    (closes_refl p)

section Steps

variable (cfg : ProxyConfig) (listenFd : Nat) (spoolDir : List UInt8) (x : Record)
  (traced : Traced cfg listenFd spoolDir x)

include traced

theorem traced_accepts (attempts : List Attempt)
    (fresh : Trace.Steps (acceptTurn cfg) FreshFds x.process attempts) :
    Traced cfg listenFd spoolDir
      { x with process := handleListenerAccept cfg x.process attempts } := by
  have numbered := numbered_accepts cfg listenFd x.process attempts traced.registry traced.next fresh
  have later := accepts_created cfg listenFd x.process traced.registry attempts fresh
  have old := accepts_heap cfg listenFd x.process traced.registry attempts fresh
  constructor
  · exact registry_accepts cfg listenFd x.process traced.registry attempts fresh
  · exact numbered.next
  · intro addr new
    exact { traced.blank addr (later.trans new) with }
  · intro addr s found
    by_cases new : x.process.created ≤ addr
    · obtain ⟨id, zero⟩ := numbered.accepted addr s new found
      have blank := traced.blank addr new
      refine ⟨id, fun d => zero d ▸ sound_zero, ?_, blank.spooled⟩
      intro d
      simp only [zero, blank.sent, blank.received, window_zero, List.nil_append]
    · rw [old addr (Nat.lt_of_not_le new)] at found
      exact { traced.live addr s found with }
  · intro addr gone d
    by_cases new : x.process.created ≤ addr
    · have blank := traced.blank addr new
      simp only [blank.sent, blank.left, blank.received, List.nil_append]
    · rw [old addr (Nat.lt_of_not_le new)] at gone
      exact traced.gone addr gone d
  · intro few short addr flushed marked
    exact traced.kept (Nat.lt_of_le_of_lt later few) short addr flushed marked
  · intro d
    rw [numbered.bytes, traced.bytes]
    exact congrArg UInt64.ofNat (total_grown x _ d later fun addr new =>
      (traced.blank addr new).received d).symm

theorem traced_closed (input : LoopInput)
    (registry : Registry cfg listenFd (loopStep cfg x.process input))
    (closes : Closes x.process (loopStep cfg x.process input)) :
    Traced cfg listenFd spoolDir (x.closed cfg input) := by
  -- What was left before stays, for a session that is gone has been gone already.
  have stays (addr : Nat) (gone : x.process.heap addr = none) :
      (x.closed cfg input).left addr = x.left addr := by
    simp [Record.closed, gone]
  constructor
  · exact registry
  · exact closes.next.trans (traced.next.trans (by rw [Record.closed, closes.created]))
  · intro addr new
    rw [Record.closed, closes.created] at new
    have blank := traced.blank addr new
    have unused : x.process.heap addr = none := by
      cases found : x.process.heap addr with
      | none => rfl
      | some s =>
          have below := traced.registry.old addr (traced.registry.allocated addr s found)
          omega
    exact ⟨blank.received, blank.sent, fun d => by rw [stays addr unused]; exact blank.left d,
      blank.spooled⟩
  · intro addr s found
    rcases closes.heap addr with same | gone
    · exact { traced.live addr s (same.symm.trans found) with }
    · cases gone.symm.trans found
  · intro addr gone d
    cases found : x.process.heap addr with
    | none =>
        rw [stays addr found]
        exact traced.gone addr found d
    | some s =>
        have left : (x.closed cfg input).left addr = remains s := by
          simp only [Record.closed, found] at gone ⊢
          rw [gone]
        rw [left]
        exact (traced.live addr s found).stream d
  · intro few short addr flushed marked
    have unused : x.process.heap addr = none := by
      cases found : x.process.heap addr with
      | none => rfl
      | some s =>
          have unspooled := (traced.live addr s found).unspooled
          rw [show x.spooled addr = some flushed from marked] at unspooled
          cases unspooled
    rw [Record.closed, closes.created] at few
    have kept := traced.kept few short addr flushed marked
    rw [Kept, stays addr unused]
    exact kept
  · intro d
    refine (closes.bytes d).trans ((traced.bytes d).trans ?_)
    simp only [totalReceived, Record.closed, closes.created]

omit traced in
theorem emit_kept (disk : DiskAnswer) (files : Files) (s : Session)
    (done : (sessionEmitArtifact spoolDir disk files s).1 = 0) :
    (sessionEmitArtifact spoolDir disk files s).2 (artifactPath spoolDir s.id) =
      some ((artifact (window s.toUpstream) (window s.toClient)).take disk.flushed) := by
  simp only [sessionEmitArtifact, writeArtifactFile, merged_artifact] at done ⊢
  cases dir : disk.dir with
  | false => simp [dir] at done
  | true =>
      cases opened : disk.opened with
      | false => simp [dir, opened] at done
      | true =>
          simp only [dir, opened, Bool.not_true, Bool.false_eq_true, if_false] at done ⊢
          split at done
          · cases done
          · next whole =>
              have long : (artifact (window s.toUpstream) (window s.toClient)).length ≤
                  disk.written := by
                rw [List.length_take] at whole
                omega
              rw [Function.update_self, List.take_of_length_le long]

omit traced in
theorem emit_others (disk : DiskAnswer) (files : Files) (s : Session) (path : List UInt8)
    (other : path ≠ artifactPath spoolDir s.id) :
    (sessionEmitArtifact spoolDir disk files s).2 path = files path := by
  simp only [sessionEmitArtifact, writeArtifactFile]
  split
  · rfl
  · split
    · rfl
    · simp only [Function.update_of_ne other]

omit traced in
theorem io_bytes (p : Process) (addr : Nat) (s : Session) (side : Side) (e : Event) (d : Side) :
    (dispatchIo p addr s side e).metrics.bytes d =
      (handleSideIo e.calls side e.events (relayOf p s)).2.metrics.bytes d := by
  unfold dispatchIo
  simp only
  split
  · rfl
  · rw [destroy_bytes]
    rfl

omit traced in
theorem io_next (p : Process) (addr : Nat) (s : Session) (side : Side) (e : Event) :
    (dispatchIo p addr s side e).nextSessionId = p.nextSessionId := by
  unfold dispatchIo
  simp only
  split
  · rfl
  · rw [destroy_next]
    rfl

omit traced in
/-- A handled event records nothing at another address. -/
theorem handled_elsewhere (addr other : Nat) (side : Side) (s : Session) (e : Event)
    (disk : DiskAnswer) (different : other ≠ addr) :
    SameTapes x (x.handled cfg spoolDir addr side s e disk) other := by
  constructor
  · simp only [Record.handled, Function.update_of_ne different]
  · simp only [Record.handled, Function.update_of_ne different]
  · simp only [Record.handled]
    split
    · rfl
    · rw [Function.update_of_ne different]
  · simp only [Record.handled]
    split
    · rfl
    · rw [Function.update_of_ne different]

theorem unspooled_new (addr flushed : Nat) (marked : x.spooled addr = some flushed) :
    addr < x.process.created := by
  by_contra new
  have unspooled := (traced.blank addr (Nat.le_of_not_lt new)).spooled
  rw [marked] at unspooled
  cases unspooled

/-- The files after a handled event: an artifact that was there stays, and one that
is written is this session's. -/
theorem handled_kept (addr : Nat) (side : Side) (s : Session) (e : Event) (disk : DiskAnswer)
    (found : x.process.heap addr = some s) (few : x.process.created < 2 ^ 64)
    (short : spoolDir.length ≤ 4062) (other flushed : Nat)
    (marked : (x.handled cfg spoolDir addr side s e disk).spooled other = some flushed) :
    Kept spoolDir (x.handled cfg spoolDir addr side s e disk) other flushed := by
  have live := traced.live addr s found
  have old := traced.registry.old addr (traced.registry.allocated addr s found)
  have id := (sideIo_id e.calls side e.events (relayOf x.process s)).trans live.id
  unfold Kept
  by_cases here : other = addr
  · subst here
    simp only [Record.handled] at marked ⊢
    split at marked
    · rw [live.unspooled] at marked
      cases marked
    · next ended =>
        rw [Function.update_self] at marked
        split at marked
        · next done =>
            obtain rfl := Option.some.inj marked
            have written := emit_kept spoolDir disk x.files _ done
            rw [id] at written
            rw [if_neg ended, if_neg ended, written, Function.update_self]
            rfl
        · cases marked
  · have same := handled_elsewhere cfg spoolDir x addr other side s e disk here
    rw [same.spooled] at marked
    have kept := traced.kept few short other flushed marked
    have inside := unspooled_new cfg listenFd spoolDir x traced other flushed marked
    rw [same.left]
    simp only [Record.handled]
    split
    · exact kept
    · have apart : artifactPath spoolDir (UInt64.ofNat (other + 1)) ≠ artifactPath spoolDir
          (handleSideIo e.calls side e.events (relayOf x.process s)).2.session.id := by
        intro clash
        have ids := congrArg UInt64.toNat (path_inj spoolDir short _ _ clash)
        rw [id, UInt64.toNat_ofNat_of_lt' (show other + 1 < 2 ^ 64 by omega),
          UInt64.toNat_ofNat_of_lt' (show addr + 1 < 2 ^ 64 by omega)] at ids
        omega
      rw [emit_others spoolDir disk x.files _ _ apart]
      exact kept

theorem traced_handled (addr : Nat) (side : Side) (s : Session) (e : Event) (disk : DiskAnswer)
    (found : x.process.heap addr = some s)
    (stepped : loopStep cfg x.process (.event e) = dispatchIo x.process addr s side e) :
    Traced cfg listenFd spoolDir (x.handled cfg spoolDir addr side s e disk) := by
  have live := traced.live addr s found
  have old := traced.registry.old addr (traced.registry.allocated addr s found)
  have moved := sideIo_stream x.process s e.calls side e.events (x.received addr) (x.sent addr)
    live.sound live.stream
  have elsewhere (other : Nat) := handled_elsewhere cfg spoolDir x addr other side s e disk
  have process : (x.handled cfg spoolDir addr side s e disk).process =
      dispatchIo x.process addr s side e := stepped
  constructor
  · rw [process]
    exact registry_io cfg listenFd x.process traced.registry addr s side e found
  · rw [process, io_next, io_created]
    exact traced.next
  · intro other new
    rw [process, io_created] at new
    exact blank_same x _ other (elsewhere other (by omega)) (traced.blank other new)
  · intro other s' found'
    rw [process, io_heap] at found'
    by_cases here : other = addr
    · subst here
      rw [if_pos rfl] at found'
      split at found'
      · next goes =>
          obtain rfl := Option.some.inj found'
          refine ⟨(sideIo_id e.calls side e.events (relayOf x.process s)).trans live.id,
            fun d => (moved d).1, ?_, ?_⟩
          · intro d
            simp only [Record.handled, Function.update_self]
            exact (moved d).2.1
          · simp only [Record.handled, goes, if_true]
            exact live.unspooled
      · cases found'
    · rw [if_neg here] at found'
      exact live_same x _ other s' (elsewhere other here) (traced.live other s' found')
  · intro other gone d
    rw [process, io_heap] at gone
    by_cases here : other = addr
    · subst here
      rw [if_pos rfl] at gone
      split at gone
      · cases gone
      · next ended =>
          simp only [Record.handled, Function.update_self, if_neg ended]
          exact (moved d).2.1
    · rw [if_neg here] at gone
      have same := elsewhere other here
      rw [same.sent, same.left, same.received]
      exact traced.gone other gone d
  · intro few short other flushed marked
    rw [process, io_created] at few
    exact handled_kept cfg listenFd spoolDir x traced addr side s e disk found few short other
      flushed marked
  · intro d
    have total : totalReceived (x.handled cfg spoolDir addr side s e disk) d = totalReceived x d +
        ((handleSideIo e.calls side e.events (relayOf x.process s)).2.received d).length := by
      rw [totalReceived, process, io_created]
      exact total_received x addr _ d old
    rw [process, io_bytes, (moved d).2.2, traced.bytes d, ← UInt64.ofNat_add, total]

theorem traced_step (input : LoopInput × DiskAnswer)
    (answers : KernelAnswers cfg x.process input.1) :
    Traced cfg listenFd spoolDir (x.step cfg spoolDir input) := by
  obtain ⟨input, disk⟩ := input
  cases input with
  | event e =>
      simp only [Record.step]
      rcases dispatch_cases cfg listenFd x.process traced.registry e with
        ⟨missed, same⟩ | ⟨_, entry, same⟩ | ⟨addr, side, s, hit, found, same⟩
      · simp only [missed, loopStep, same]
        exact traced
      · have missed : target x.process e.fd = none := by simp [target, entry, listenerCtx]
        simp only [missed, loopStep, same]
        exact traced_accepts cfg listenFd spoolDir x traced e.attempts (answers entry)
      · simp only [hit, found]
        exact traced_handled cfg listenFd spoolDir x traced addr side s e disk found same
  | idle now =>
      exact traced_closed cfg listenFd spoolDir x traced (.idle now)
        (registry_step cfg listenFd x.process (.idle now) traced.registry trivial)
        (closes_idle cfg now x.process)
  | shutdown =>
      exact traced_closed cfg listenFd spoolDir x traced .shutdown
        (registry_step cfg listenFd x.process .shutdown traced.registry trivial)
        (closes_shutdown x.process)

end Steps

/-- The record runs beside the process and does not change it. -/
theorem record_process (cfg : ProxyConfig) (spoolDir : List UInt8) (x : Record)
    (input : LoopInput × DiskAnswer) :
    (x.step cfg spoolDir input).process = loopStep cfg x.process input.1 := by
  obtain ⟨input, disk⟩ := input
  cases input with
  | event e =>
      simp only [Record.step]
      split
      · rfl
      · split <;> rfl
  | idle now => rfl
  | shutdown => rfl

/-- Where the bytes of a direction are: sent, in the buffer, or left behind. -/
structure Conserved (spoolDir : List UInt8) (x : Record) : Prop where
  live : ∀ addr s, x.process.heap addr = some s → ∀ d,
    x.sent addr d ++ window (s.inbuf d) = x.received addr d
  gone : ∀ addr, x.process.heap addr = none → ∀ d,
    x.sent addr d ++ x.left addr d = x.received addr d
  counted : ∀ d, x.process.metrics.bytes d = UInt64.ofNat (totalReceived x d)
  spooled : x.process.created < 2 ^ 64 → spoolDir.length ≤ 4062 → ∀ addr flushed,
    x.spooled addr = some flushed →
    ∃ file, x.files (artifactPath spoolDir (UInt64.ofNat (addr + 1))) = some file ∧
      file = (artifact (x.left addr .client) (x.left addr .upstream)).take flushed ∧
      ((artifact (x.left addr .client) (x.left addr .upstream)).length ≤ flushed →
        file = artifact (x.left addr .client) (x.left addr .upstream) ∧
        ((x.left addr .client).length + (x.left addr .upstream).length ≤ infBufferCap →
          file = x.left addr .client ++ x.left addr .upstream))

theorem artifact_length (fromClient fromUpstream : List UInt8) :
    (artifact fromClient fromUpstream).length ≤ infBufferCap := by
  have fit := merged_fit fromClient.length fromUpstream.length
  rw [artifact, List.length_append, List.length_take, List.length_take]
  omega

/-- In every state of every run, with any number of sessions side by side, no byte
received is lost from sight: it was sent on in order, it waits in its buffer, or it
was left by a session that is gone, and then it is in the artifact if that was
written, the disk has taken it all and the two remainders fit into it. -/
theorem every_byte_accounted (cfg : ProxyConfig) (listenFd : Nat) (spoolDir : List UInt8)
    (files : Files) (inputs : List (LoopInput × DiskAnswer))
    (answers : Trace.Steps (Record.step cfg spoolDir)
      (fun x input => KernelAnswers cfg x.process input.1) (Record.listening listenFd files) inputs) :
    Trace.Always (Record.step cfg spoolDir) (Conserved spoolDir)
      (Record.listening listenFd files) inputs := by
  refine Trace.always_mono (Record.step cfg spoolDir) (Traced cfg listenFd spoolDir) _ ?_ _ inputs
    (Trace.always_of_steps (Record.step cfg spoolDir) _ (Traced cfg listenFd spoolDir)
      (fun x input traced answers => traced_step cfg listenFd spoolDir x traced input answers)
      _ inputs (traced_listening cfg listenFd spoolDir files) answers)
  intro x traced
  refine ⟨fun addr s found => (traced.live addr s found).stream, traced.gone, traced.bytes, ?_⟩
  intro few short addr flushed marked
  refine ⟨_, traced.kept few short addr flushed marked, rfl, ?_⟩
  intro taken
  rw [List.take_of_length_le taken]
  exact ⟨rfl, artifact_whole _ _⟩

def goodDisk : DiskAnswer := ⟨true, true, infBufferCap, infBufferCap⟩

/-- A session whose client sends two bytes and hangs up before they are sent on. -/
def cutShort : List (LoopInput × DiskAnswer) :=
  [(.event (acceptEvent 3 [plainAttempt 5 6]), goodDisk),
    (.event ⟨5, ⟨true, false, false, false, false⟩, ⟨0, some 0, .bytes 104 [105], .again⟩, []⟩,
      goodDisk),
    (.event (hangupEvent 5), goodDisk)]

theorem cut_short_spooled :
    (Trace.run (Record.step defaultConfig [46]) (Record.listening 3 fun _ => none) cutShort).files
        (artifactPath [46] 1) = some [104, 105] := by
  have always := every_byte_accounted defaultConfig 3 [46] (fun _ => none) cutShort
    ⟨fun _ => ⟨plain_fresh _ 5 6 (by decide) (by decide) (by decide), trivial⟩,
      fun _ => trivial, fun _ => trivial, trivial⟩
  obtain ⟨file, found, _, taken⟩ := (Trace.always_final _ _ _ _ always).spooled
    (by decide +kernel) (by decide) 0 infBufferCap (by decide +kernel)
  rw [(taken (artifact_length _ _)).2 (by decide +kernel)] at found
  exact found.trans (by decide +kernel)

end RyzenBuild.Proxy
