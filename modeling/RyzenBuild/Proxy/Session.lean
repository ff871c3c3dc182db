import Mathlib.Logic.Function.Basic
import RyzenBuild.Proxy.Buffer

/-!
One proxied connection of `infinity.c`: two peers, a buffer for each
direction, and the event handler. A direction is named by the side its bytes
come from. What the kernel answers during one event is the argument `Calls`.
-/
namespace RyzenBuild.Proxy

inductive Side where
  | client
  | upstream
  deriving DecidableEq, Repr

def Side.other : Side → Side
  | .client => .upstream
  | .upstream => .client

@[simp] theorem other_other (side : Side) : side.other.other = side := by
  cases side <;> rfl

@[simp] theorem other_ne (side : Side) : side.other ≠ side := by
  cases side <;> simp [Side.other]

/-- `fd` is `none` for -1. -/
structure Peer where
  fd : Option Nat
  readEof : Bool
  writeShutdown : Bool
  connecting : Bool

structure Session where
  id : UInt64
  createdAt : Int
  lastActivity : Int
  client : Peer
  upstream : Peer
  toUpstream : Buffer
  toClient : Buffer

structure Metrics where
  accepted : UInt64
  rejected : UInt64
  active : UInt64
  closed : UInt64
  upstreamConnectFail : UInt64
  bytesC2u : UInt64
  bytesU2c : UInt64
  readErrors : UInt64
  writeErrors : UInt64
  idleKills : UInt64

def Metrics.zero : Metrics := ⟨0, 0, 0, 0, 0, 0, 0, 0, 0, 0⟩

/-- The bits of an epoll mask that the proxy uses. -/
structure Events where
  epollin : Bool
  epollout : Bool
  epollerr : Bool
  epollhup : Bool
  epollrdhup : Bool
  deriving DecidableEq, Repr

def Session.peer (s : Session) : Side → Peer
  | .client => s.client
  | .upstream => s.upstream

def Session.setPeer (s : Session) (side : Side) (p : Peer) : Session :=
  match side with
  | .client => { s with client := p }
  | .upstream => { s with upstream := p }

/-- The buffer that the bytes read from a side go into. -/
def Session.inbuf (s : Session) : Side → Buffer
  | .client => s.toUpstream
  | .upstream => s.toClient

def Session.setInbuf (s : Session) (side : Side) (b : Buffer) : Session :=
  match side with
  | .client => { s with toUpstream := b }
  | .upstream => { s with toClient := b }

def Metrics.bytes (m : Metrics) : Side → UInt64
  | .client => m.bytesC2u
  | .upstream => m.bytesU2c

def Metrics.setBytes (m : Metrics) (side : Side) (bytes : UInt64) : Metrics :=
  match side with
  | .client => { m with bytesC2u := bytes }
  | .upstream => { m with bytesU2c := bytes }

/-- A session as `handle_listener_accept` leaves it behind. -/
def acceptedSession (id : UInt64) (now : Int) (cfd ufd : Nat) : Session :=
  { id := id
    createdAt := now
    lastActivity := now
    client := { fd := some cfd, readEof := false, writeShutdown := false, connecting := false }
    upstream := { fd := some ufd, readEof := false, writeShutdown := false, connecting := true }
    toUpstream := Buffer.zero
    toClient := Buffer.zero }

def peerShutdownWrite (p : Peer) : Peer :=
  if p.fd.isSome && !p.writeShutdown then { p with writeShutdown := true } else p

def sessionEventsForSide (s : Session) (side : Side) : Events :=
  let ev : Events := ⟨false, false, true, true, true⟩
  match side with
  | .client =>
      { ev with
        epollin := !s.client.readEof && bufferSpace s.toUpstream > 0
        epollout := !bufferEmpty s.toClient }
  | .upstream =>
      if s.upstream.connecting then { ev with epollout := true }
      else
        { ev with
          epollin := !s.upstream.readEof && bufferSpace s.toClient > 0
          epollout := !bufferEmpty s.toUpstream }

def sessionRefreshInterest (s : Session) (masks : Side → Events) : Side → Events :=
  fun side => if (s.peer side).fd.isSome then sessionEventsForSide s side else masks side

def sessionFullyDone (s : Session) : Bool :=
  s.client.readEof && s.upstream.readEof && bufferEmpty s.toUpstream && bufferEmpty s.toClient

def sessionConsiderHalfClose (s : Session) : Session :=
  let s :=
    if s.client.readEof && bufferEmpty s.toUpstream then
      { s with upstream := peerShutdownWrite s.upstream }
    else s
  if s.upstream.readEof && bufferEmpty s.toClient then
    { s with client := peerShutdownWrite s.client }
  else s

/-- `soError` is what `getsockopt` reads, `none` when it fails itself; the
result is `none` for -1. -/
def handleConnectComplete (soError : Option Int) (s : Session) : Option Session :=
  if !s.upstream.connecting then some s
  else
    match soError with
    | none => none
    | some err =>
        if err ≠ 0 then none
        else some { s with upstream := { s.upstream with connecting := false } }

/-- The answers of the kernel during one event. -/
structure Calls where
  now : Int
  soError : Option Int
  recv : RecvAnswer
  send : SendAnswer

/-- A session with the globals its handler touches. `masks` holds the interest
last given to epoll; `received` and `sent` record, for each direction, the
bytes every `recv` returned and every `send` took. -/
structure Relay where
  session : Session
  metrics : Metrics
  masks : Side → Events
  received : Side → List UInt8
  sent : Side → List UInt8

def Relay.accepted (id : UInt64) (now : Int) (cfd ufd : Nat) (metrics : Metrics) : Relay :=
  { session := acceptedSession id now cfd ufd
    metrics := metrics
    masks := sessionEventsForSide (acceptedSession id now cfd ufd)
    received := fun _ => []
    sent := fun _ => [] }

def relayRead (answer : RecvAnswer) (source : Side) (r : Relay) : Int × Relay :=
  let result := relayReadIntoBuffer answer (r.session.inbuf source) (r.metrics.bytes source)
  (result.rc,
    { r with
      session := r.session.setInbuf source result.dst
      metrics := r.metrics.setBytes source result.metricBytes
      received := Function.update r.received source (r.received source ++ result.got) })

/-- Writes the bytes that came from side `source` to the other peer. -/
def relayWrite (answer : SendAnswer) (source : Side) (r : Relay) : Int × Relay :=
  let result := relayWriteFromBuffer answer (r.session.inbuf source)
  (result.rc,
    { r with
      session := r.session.setInbuf source result.src
      sent := Function.update r.sent source (r.sent source ++ result.put) })

def compactBuffer (source : Side) (r : Relay) : Relay :=
  { r with session := r.session.setInbuf source (bufferCompact (r.session.inbuf source)) }

def markEof (side : Side) (r : Relay) : Relay :=
  { r with session := r.session.setPeer side { r.session.peer side with readEof := true } }

/-- The stages of `handle_side_io`; an error is a `return false`. -/
def connectStage (calls : Calls) (side : Side) (ev : Events) (r : Relay) : Except Relay Relay :=
  if side = .upstream ∧ (r.session.peer side).connecting ∧ ev.epollout then
    match handleConnectComplete calls.soError r.session with
    | some s => .ok { r with session := s }
    | none =>
        .error { r with
          metrics := { r.metrics with upstreamConnectFail := r.metrics.upstreamConnectFail + 1 } }
  else .ok r

def readStage (calls : Calls) (side : Side) (ev : Events) (r : Relay) : Except Relay Relay :=
  if ev.epollin then
    let (rr, r) := relayRead calls.recv side r
    if rr < 0 then
      if rr = -2 then .ok (markEof side r)
      else .error { r with metrics := { r.metrics with readErrors := r.metrics.readErrors + 1 } }
    else .ok r
  else .ok r

def hangupStage (side : Side) (ev : Events) (r : Relay) : Relay :=
  if ev.epollrdhup then markEof side r else r

def writeStage (calls : Calls) (side : Side) (ev : Events) (r : Relay) : Except Relay Relay :=
  if ev.epollout ∧ ¬ (side = .upstream ∧ (r.session.peer side).connecting) then
    let (wr, r) := relayWrite calls.send side.other r
    if wr < 0 then
      .error { r with metrics := { r.metrics with writeErrors := r.metrics.writeErrors + 1 } }
    else .ok r
  else .ok r

def closeStage (r : Relay) : Except Relay Relay :=
  let r := { r with session := sessionConsiderHalfClose r.session }
  if sessionFullyDone r.session then .error r
  else .ok { r with masks := sessionRefreshInterest r.session r.masks }

def sideIoStages (calls : Calls) (side : Side) (ev : Events) (r : Relay) : Except Relay Relay := do
  let r := { r with session := { r.session with lastActivity := calls.now } }
  -- Both end the session before anything is read.
  if ev.epollerr || ev.epollhup then
    .error r
  else
    let r ← connectStage calls side ev r
    let r ← readStage calls side ev r
    -- `EPOLLRDHUP` counts as the end of the stream, whatever the one `recv` left behind.
    let r ← writeStage calls side ev (hangupStage side ev r)
    closeStage r

/-- The flag is the return value: `false` asks the loop to destroy the session. -/
def handleSideIo (calls : Calls) (side : Side) (ev : Events) (r : Relay) : Bool × Relay :=
  match sideIoStages calls side ev r with
  | .ok r => (true, r)
  | .error r => (false, r)

@[simp] theorem shutdown_readEof (p : Peer) : (peerShutdownWrite p).readEof = p.readEof := by
  unfold peerShutdownWrite
  split <;> rfl

@[simp] theorem shutdown_fd (p : Peer) : (peerShutdownWrite p).fd = p.fd := by
  unfold peerShutdownWrite
  split <;> rfl

section Access

variable (s : Session) (m : Metrics) (side other : Side)

theorem setInbuf_inbuf (b : Buffer) :
    (s.setInbuf side b).inbuf other = if other = side then b else s.inbuf other := by
  cases side <;> cases other <;> rfl

@[simp] theorem setInbuf_peer (b : Buffer) : (s.setInbuf side b).peer other = s.peer other := by
  cases side <;> cases other <;> rfl

@[simp] theorem setPeer_inbuf (p : Peer) : (s.setPeer side p).inbuf other = s.inbuf other := by
  cases side <;> cases other <;> rfl

theorem setPeer_peer (p : Peer) :
    (s.setPeer side p).peer other = if other = side then p else s.peer other := by
  cases side <;> cases other <;> rfl

theorem setBytes_bytes (bytes : UInt64) :
    (m.setBytes side bytes).bytes other = if other = side then bytes else m.bytes other := by
  cases side <;> cases other <;> rfl

@[simp] theorem half_close_inbuf : (sessionConsiderHalfClose s).inbuf side = s.inbuf side := by
  unfold sessionConsiderHalfClose
  cases side <;> simp only <;> split <;> split <;> rfl

/-- Half closing shuts a peer's writing exactly when the other one's stream
has ended and its buffer is empty. -/
theorem half_close_peer :
    (sessionConsiderHalfClose s).peer side.other =
      if (s.peer side).readEof && bufferEmpty (s.inbuf side) then
        peerShutdownWrite (s.peer side.other)
      else s.peer side.other := by
  -- The second test runs after the first shutdown, which leaves `readEof` alone.
  unfold sessionConsiderHalfClose
  cases first : s.client.readEof && bufferEmpty s.toUpstream <;>
    cases second : s.upstream.readEof && bufferEmpty s.toClient <;>
    cases side <;> simp [Side.other, Session.peer, Session.inbuf, first, second]

/-- A completed connect only clears the `connecting` mark. -/
theorem connect_complete_cases (soError : Option Int) (s' : Session)
    (completed : handleConnectComplete soError s = some s') :
    s' = s ∨ s' = { s with upstream := { s.upstream with connecting := false } } := by
  unfold handleConnectComplete at completed
  split at completed
  · exact Or.inl (Option.some.inj completed).symm
  · cases soError with
    | none => cases completed
    | some err =>
        simp only at completed
        split at completed
        · cases completed
        · exact Or.inr (Option.some.inj completed).symm

end Access

/-- Both ways a handler stage can end satisfy the invariant. -/
def Settles (invariant : Relay → Prop) : Except Relay Relay → Prop
  | .ok r => invariant r
  | .error r => invariant r

theorem settles_bind (invariant : Relay → Prop) (x : Except Relay Relay)
    (f : Relay → Except Relay Relay) (first : Settles invariant x)
    (next : ∀ r, invariant r → Settles invariant (f r)) : Settles invariant (x >>= f) := by
  cases x with
  | ok r => exact next r first
  | error r => exact first

/-- What every stage keeps, a handled event keeps, whether or not it ends the session. -/
theorem sideIo_settles (invariant : Relay → Prop) (calls : Calls) (side : Side) (ev : Events)
    (r : Relay)
    (touched : invariant { r with session := { r.session with lastActivity := calls.now } })
    (connect : ∀ r, invariant r → Settles invariant (connectStage calls side ev r))
    (read : ∀ r, invariant r → Settles invariant (readStage calls side ev r))
    (hangup : ∀ r, invariant r → invariant (hangupStage side ev r))
    (write : ∀ r, invariant r → Settles invariant (writeStage calls side ev r))
    (close : ∀ r, invariant r → Settles invariant (closeStage r)) :
    invariant (handleSideIo calls side ev r).2 := by
  have settles : Settles invariant (sideIoStages calls side ev r) := by
    unfold sideIoStages
    simp only
    split
    · exact touched
    · apply settles_bind _ _ _ (connect _ touched)
      intro connected kept
      apply settles_bind _ _ _ (read _ kept)
      intro filled kept
      apply settles_bind _ _ _ (write _ (hangup _ kept))
      intro drained kept
      exact close _ kept
  unfold handleSideIo
  cases ended : sideIoStages calls side ev r with
  | ok r' => simpa [Settles, ended] using settles
  | error r' => simpa [Settles, ended] using settles

/-- The single moves that a handled event at a side is made of keep the invariant. -/
structure KeptByMoves (side : Side) (invariant : Relay → Prop) : Prop where
  connected : ∀ r : Relay, invariant r → invariant { r with session := { r.session with
    upstream := { r.session.upstream with connecting := false } } }
  read : ∀ (r : Relay) (answer : RecvAnswer), invariant r → invariant (relayRead answer side r).2
  ended : ∀ r : Relay, invariant r → invariant (markEof side r)
  written : ∀ (r : Relay) (answer : SendAnswer), invariant r →
    invariant (relayWrite answer side.other r).2
  halfClosed : ∀ r : Relay, invariant r →
    invariant { r with session := sessionConsiderHalfClose r.session }
  failed : ∀ (r : Relay) (connects reads writes : UInt64), invariant r →
    invariant { r with metrics := { r.metrics with
      upstreamConnectFail := connects, readErrors := reads, writeErrors := writes } }
  refreshed : ∀ (r : Relay) (masks : Side → Events), invariant r →
    invariant { r with masks := masks }

section Moves

variable (invariant : Relay → Prop) (calls : Calls) (side : Side) (ev : Events) (r : Relay)
  (moves : KeptByMoves side invariant) (holds : invariant r)

include moves holds

theorem kept_connect : Settles invariant (connectStage calls side ev r) := by
  unfold connectStage
  split
  · cases completed : handleConnectComplete calls.soError r.session with
    | none => exact moves.failed r _ _ _ holds
    | some s =>
        rcases connect_complete_cases _ _ _ completed with rfl | rfl
        · exact holds
        · exact moves.connected r holds
  · exact holds

theorem kept_read : Settles invariant (readStage calls side ev r) := by
  have moved := moves.read r calls.recv holds
  unfold readStage
  split
  · simp only
    split
    · split
      · exact moves.ended _ moved
      · exact moves.failed _ _ _ _ moved
    · exact moved
  · exact holds

theorem kept_hangup : invariant (hangupStage side ev r) := by
  unfold hangupStage
  split
  · exact moves.ended r holds
  · exact holds

theorem kept_write : Settles invariant (writeStage calls side ev r) := by
  have moved := moves.written r calls.send holds
  unfold writeStage
  split
  · simp only
    split
    · exact moves.failed _ _ _ _ moved
    · exact moved
  · exact holds

theorem kept_close : Settles invariant (closeStage r) := by
  have closed := moves.halfClosed r holds
  unfold closeStage
  simp only
  split
  · exact closed
  · exact moves.refreshed _ _ closed

end Moves

/-- What holds once the event has set the last activity, and is kept by every
single move, holds when the event is handled. -/
theorem sideIo_kept (invariant : Relay → Prop) (calls : Calls) (side : Side) (ev : Events)
    (r : Relay) (moves : KeptByMoves side invariant)
    (touched : invariant { r with session := { r.session with lastActivity := calls.now } }) :
    invariant (handleSideIo calls side ev r).2 := by
  apply sideIo_settles invariant
  · exact touched
  · exact fun r => kept_connect invariant calls side ev r moves
  · exact fun r => kept_read invariant calls side ev r moves
  · exact fun r => kept_hangup invariant side ev r moves
  · exact fun r => kept_write invariant calls side ev r moves
  · exact fun r => kept_close invariant side r moves

end RyzenBuild.Proxy
