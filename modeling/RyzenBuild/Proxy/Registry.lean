import RyzenBuild.Proxy.Session

/-!
The process state of `infinity.c`: the session list, the map from file
descriptors to sessions, the counters, the kernel's table of open
descriptors and the epoll set; with the accept loop, the dispatch of one
event and the maintenance pass. Session artifacts and logging are left out.
-/
namespace RyzenBuild.Proxy

def infFdMapCap : Nat := 65536

/-- `max_connections` is an `int` and positive, as the first option parser checks. -/
structure ProxyConfig where
  maxConnections : Int
  idleTimeoutSec : Int
  positive : 0 < maxConnections
  isInt : maxConnections < 2147483648

/-- `side` is `none` for 2, the listener. -/
structure FdCtx where
  session : Option Nat
  side : Option Side
  deriving DecidableEq, Repr

def listenerCtx : FdCtx := ⟨none, none⟩

def peerCtx (addr : Nat) (side : Side) : FdCtx := ⟨some addr, some side⟩

/-- `heap` holds the sessions that are allocated, `created` counts the
allocations so far. An address is never used twice, so a pointer that
outlives its session stays recognisable. `masks` is the epoll set. -/
structure Process where
  metrics : Metrics
  fdMap : Nat → Option FdCtx
  heap : Nat → Option Session
  sessions : List Nat
  nextSessionId : UInt64
  masks : Nat → Option Events
  openFds : Nat → Bool
  created : Nat

def openFd (p : Process) (fd : Nat) : Process :=
  { p with openFds := Function.update p.openFds fd true }

def closeFd (p : Process) (fd : Nat) : Process :=
  { p with openFds := Function.update p.openFds fd false }

def epollAdd (p : Process) (fd : Nat) (events : Events) : Process :=
  { p with masks := Function.update p.masks fd (some events) }

def epollDel (p : Process) (fd : Nat) : Process :=
  { p with masks := Function.update p.masks fd none }

def setSession (p : Process) (addr : Nat) (s : Session) : Process :=
  { p with heap := Function.update p.heap addr (some s) }

def unregisterFdCtx (p : Process) (fd : Nat) : Process :=
  if fd < infFdMapCap then { p with fdMap := Function.update p.fdMap fd none } else p

/-- `none` for -1; `malloc` says whether the allocation succeeds. -/
def registerFdCtx (malloc : Bool) (p : Process) (fd addr : Nat) (side : Side) : Option Process :=
  if fd ≥ infFdMapCap then none
  else if !malloc then none
  else some { p with fdMap := Function.update p.fdMap fd (some (peerCtx addr side)) }

def freshSession (id : UInt64) (now : Int) : Session :=
  { id := id
    createdAt := now
    lastActivity := now
    client := { fd := none, readEof := false, writeShutdown := false, connecting := false }
    upstream := { fd := none, readEof := false, writeShutdown := false, connecting := false }
    toUpstream := Buffer.zero
    toClient := Buffer.zero }

/-- Allocates at address `created`. -/
def sessionCreate (now : Int) (p : Process) : Process :=
  { setSession p p.created (freshSession p.nextSessionId now) with
    nextSessionId := p.nextSessionId + 1
    sessions := p.created :: p.sessions
    metrics := { p.metrics with active := p.metrics.active + 1 }
    created := p.created + 1 }

def sessionUnlink (p : Process) (addr : Nat) : Process :=
  { p with sessions := p.sessions.erase addr }

def releasePeer (p : Process) (fd : Option Nat) : Process :=
  match fd with
  | none => p
  | some fd => closeFd (unregisterFdCtx (epollDel p fd) fd) fd

def sessionDestroy (p : Process) (addr : Nat) : Process :=
  match p.heap addr with
  | none => p
  | some s =>
      let p := releasePeer p s.client.fd
      let p := releasePeer p s.upstream.fd
      let p := sessionUnlink p addr
      { p with
        heap := Function.update p.heap addr none
        metrics := { p.metrics with
          closed := p.metrics.closed + 1
          active := if p.metrics.active > 0 then p.metrics.active - 1 else p.metrics.active } }

/-- The value of a 64-bit counter cast to `int`. -/
def toCInt (x : UInt64) : Int := (x.toNat : Int).bmod 4294967296

/-- What the kernel and the allocator answer during one turn of the accept
loop; `connect` is the descriptor of the upstream socket. -/
structure Attempt where
  cfd : Nat
  nonblocking : Bool
  calloc : Bool
  now : Int
  connect : Option Nat
  mallocClient : Bool
  mallocUpstream : Bool
  addClient : Bool
  addUpstream : Bool

/-- The end of a turn: both descriptors of the session at `addr` are mapped
and given to epoll. -/
def registerPeers (p : Process) (addr : Nat) (s : Session) (ufd : Nat) (a : Attempt) : Process :=
  match registerFdCtx a.mallocClient p a.cfd addr .client with
  | none => sessionDestroy p addr
  | some p =>
      -- From here on an exit also has to take the client's entry back.
      match registerFdCtx a.mallocUpstream p ufd addr .upstream with
      | none => sessionDestroy p addr
      | some p =>
          if !a.addClient then sessionDestroy p addr
          else
            let p := epollAdd p a.cfd (sessionEventsForSide s .client)
            if !a.addUpstream then sessionDestroy p addr
            else
              let p := epollAdd p ufd (sessionEventsForSide s .upstream)
              { p with metrics := { p.metrics with accepted := p.metrics.accepted + 1 } }

/-- The part of the turn after the session exists, at address `addr`. -/
def attachUpstream (p : Process) (addr : Nat) (s : Session) (a : Attempt) : Process :=
  match a.connect with
  | none =>
      sessionDestroy { p with
        metrics := { p.metrics with
          upstreamConnectFail := p.metrics.upstreamConnectFail + 1 } } addr
  | some ufd =>
      let s := { s with upstream := { s.upstream with fd := some ufd, connecting := true } }
      registerPeers (setSession (openFd p ufd) addr s) addr s ufd a

/-- One turn of the accept loop, after `accept` returned a descriptor. -/
def acceptTurn (cfg : ProxyConfig) (p : Process) (a : Attempt) : Process :=
  let p := openFd p a.cfd
  -- The descriptor is open before the limit is checked, and closed by every exit.
  if toCInt p.metrics.active ≥ cfg.maxConnections then
    closeFd { p with metrics := { p.metrics with rejected := p.metrics.rejected + 1 } } a.cfd
  else if !a.nonblocking then closeFd p a.cfd
  else if !a.calloc then closeFd p a.cfd
  else
    let addr := p.created
    let s := freshSession p.nextSessionId a.now
    let p := sessionCreate a.now p
    let s := { s with client := { s.client with fd := some a.cfd } }
    attachUpstream (setSession p addr s) addr s a

/-- The loop ends with the first failing `accept`, after these attempts. -/
def handleListenerAccept (cfg : ProxyConfig) (p : Process) (attempts : List Attempt) : Process :=
  attempts.foldl (acceptTurn cfg) p

def relayOf (p : Process) (s : Session) : Relay :=
  { session := s
    metrics := p.metrics
    masks := fun side => ((s.peer side).fd.bind p.masks).getD ⟨false, false, false, false, false⟩
    received := fun _ => []
    sent := fun _ => [] }

/-- The effects of a handled event on the process state. -/
def storeRelay (p : Process) (addr : Nat) (r : Relay) : Process :=
  { setSession p addr r.session with
    metrics := r.metrics
    masks := fun fd =>
      if r.session.client.fd = some fd then some (r.masks .client)
      else if r.session.upstream.fd = some fd then some (r.masks .upstream)
      else p.masks fd }

/-- An event of a batch, with what the kernel answers while it is handled. -/
structure Event where
  fd : Nat
  events : Events
  calls : Calls
  attempts : List Attempt

def dispatchIo (p : Process) (addr : Nat) (s : Session) (side : Side) (e : Event) : Process :=
  let (keep, r) := handleSideIo e.calls side e.events (relayOf p s)
  let p := storeRelay p addr r
  if keep then p else sessionDestroy p addr

/-- One turn of the event loop in `main`. -/
def dispatch (cfg : ProxyConfig) (p : Process) (e : Event) : Process :=
  if e.fd ≥ infFdMapCap then p
  else
    -- The entry of this moment, not the one the batch was returned with.
    match p.fdMap e.fd with
    | none => p
    | some ctx =>
        match ctx.side with
        | none => handleListenerAccept cfg p e.attempts
        | some side =>
            match ctx.session with
            | none => p
            | some addr =>
                match p.heap addr with
                | none => p
                | some s => dispatchIo p addr s side e

def reapSession (cfg : ProxyConfig) (now : Int) (p : Process) (addr : Nat) : Process :=
  match p.heap addr with
  | none => p
  | some s =>
      if now - s.lastActivity > cfg.idleTimeoutSec then
        sessionDestroy { p with
          metrics := { p.metrics with idleKills := p.metrics.idleKills + 1 } } addr
      else p

/-- The walk reads the next pointer of a session before it may free it, so it
visits the sessions listed when it starts. -/
def enforceIdleTimeouts (cfg : ProxyConfig) (now : Int) (p : Process) : Process :=
  p.sessions.foldl (reapSession cfg now) p

def closeAllSessions (p : Process) : Process := p.sessions.foldl sessionDestroy p

inductive LoopInput where
  | event (e : Event)
  | idle (now : Int)
  | shutdown

def loopStep (cfg : ProxyConfig) (p : Process) : LoopInput → Process
  | .event e => dispatch cfg p e
  | .idle now => enforceIdleTimeouts cfg now p
  | .shutdown => closeAllSessions p

/-- The state in which `main` enters its loop. -/
def listening (listenFd : Nat) : Process :=
  { metrics := Metrics.zero
    fdMap := Function.update (fun _ => none) listenFd (some listenerCtx)
    heap := fun _ => none
    sessions := []
    nextSessionId := 1
    masks := Function.update (fun _ => none) listenFd (some ⟨true, false, true, true, false⟩)
    openFds := Function.update (fun _ => false) listenFd true
    created := 0 }

end RyzenBuild.Proxy
