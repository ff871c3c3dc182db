import RyzenBuild.Proxy.Session

/-!
A proxied connection between two endpoints over TCP: what each endpoint sends
travels to the proxy's socket in order, the FIN behind the last byte, and the
event loop handles whatever epoll reports. Neither endpoint resets, no timeout
expires and no call fails.
-/
namespace RyzenBuild.Proxy

/-- The stream of one endpoint towards the proxy: all it sent, whether it sent
its FIN, what is under way, what waits in the proxy's socket unread, and
whether the FIN has arrived there. -/
structure Wire where
  sent : List UInt8
  fin : Bool
  flight : List UInt8
  queue : List UInt8
  finArrived : Bool

def Wire.idle : Wire := ⟨[], false, [], [], false⟩

structure World where
  relay : Relay
  wire : Side → Wire
  alive : Bool

def kernelRecv (wire : Wire) (limit : Option Nat) : RecvAnswer :=
  match limit with
  | none => .again
  | some more =>
      match wire.queue with
      | [] => if wire.finArrived then .eof else .again
      | first :: rest => .bytes first (rest.take more)

def kernelSend (limit : Option Nat) : SendAnswer :=
  match limit with
  | none => .again
  | some more => .sent (more + 1)

/-- `recv` and `send` bound the bytes the call moves beyond the first; `none`
is `EAGAIN`. -/
inductive Act where
  | write (side : Side) (bytes : List UInt8)
  | finish (side : Side)
  | arrive (side : Side) (count : Nat)
  | arriveFin (side : Side)
  | event (side : Side) (ev : Events) (now : Int) (recv send : Option Nat)

def setWire (w : World) (side : Side) (wire : Wire) : World :=
  { w with wire := Function.update w.wire side wire }

def orderlyCalls (w : World) (side : Side) (now : Int) (recv send : Option Nat) : Calls :=
  { now := now
    soError := some 0
    recv := kernelRecv (w.wire side) recv
    send := kernelSend send }

def handleEvent (w : World) (side : Side) (ev : Events) (now : Int) (recv send : Option Nat) :
    World :=
  let (keep, r) := handleSideIo (orderlyCalls w side now recv send) side ev w.relay
  let taken := (r.received side).length - (w.relay.received side).length
  let wire := { w.wire side with queue := (w.wire side).queue.drop taken }
  { setWire w side wire with relay := r, alive := keep }

def worldStep (w : World) : Act → World
  | .write side bytes =>
      let wire := w.wire side
      if wire.fin then w
      else setWire w side { wire with sent := wire.sent ++ bytes, flight := wire.flight ++ bytes }
  | .finish side => setWire w side { w.wire side with fin := true }
  | .arrive side count =>
      let wire := w.wire side
      setWire w side { wire with
        queue := wire.queue ++ wire.flight.take count
        flight := wire.flight.drop count }
  | .arriveFin side =>
      let wire := w.wire side
      if wire.fin && wire.flight.isEmpty then setWire w side { wire with finArrived := true } else w
  | .event side ev now recv send => if w.alive then handleEvent w side ev now recv send else w

def World.accepted (id : UInt64) (now : Int) (cfd ufd : Nat) (metrics : Metrics) : World :=
  { relay := Relay.accepted id now cfd ufd metrics, wire := fun _ => Wire.idle, alive := true }

/-- What the kernel promises about the bits it reports: no error, `EPOLLRDHUP`
only after the FIN has arrived, `EPOLLHUP` only once both directions are shut
down. Either may come with bytes unread. -/
def KernelReports (w : World) : Act → Prop
  | .event side ev _ _ _ =>
      ev.epollerr = false ∧
        (ev.epollrdhup = true → (w.wire side).finArrived = true) ∧
        (ev.epollhup = true → (w.wire side).finArrived = true ∧
          (w.relay.session.peer side).writeShutdown = true)
  | _ => True

/-- The `recv` of the event empties the side's socket, or it was empty. -/
def Drains (w : World) (side : Side) (ev : Events) (recv : Option Nat) : Prop :=
  (w.wire side).queue = [] ∨
    ev.epollin = true ∧ ∃ more, recv = some more ∧ (w.wire side).queue.length ≤ more + 1 ∧
      (w.wire side).queue.length ≤ bufferSpace (bufferCompact (w.relay.session.inbuf side))

/-- `EPOLLRDHUP` is only handled together with the last unread byte, and
`EPOLLHUP` only when nothing of the side is left in its socket or in the proxy. -/
def NothingUnread (w : World) : Act → Prop
  | .event side ev _ recv _ =>
      (ev.epollhup = true →
        (w.wire side).queue = [] ∧ bufferEmpty (w.relay.session.inbuf side) = true) ∧
      (ev.epollhup = false → ev.epollrdhup = true → Drains w side ev recv)
  | _ => True

/-- Everything the endpoint sent has been handed to the other one's socket,
and it has sent its FIN. -/
def Delivered (w : World) (side : Side) : Prop :=
  (w.wire side).fin = true ∧ w.relay.sent side = (w.wire side).sent

/-- The session is only destroyed, and writing towards a receiver only shut
down, after the sender's bytes have been delivered. -/
def OrderlyClose (w : World) : Prop :=
  ∀ side : Side, w.alive = false ∨ (w.relay.session.peer side.other).writeShutdown = true →
    Delivered w side

end RyzenBuild.Proxy
