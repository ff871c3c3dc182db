import RyzenBuild.Lib.Trace
import RyzenBuild.Proxy.Session

/-!
The stream relation of a proxied connection. In each direction what was sent
followed by what still lies between the indices of the buffer is what was
received; single buffer operations and whole handled events keep it.
-/
namespace RyzenBuild.Proxy

/-- The relation for one direction, from the metric's value at the start. -/
structure DirectionSound (start : UInt64) (r : Relay) (source : Side) : Prop where
  indices : Sound (r.session.inbuf source)
  stream : r.sent source ++ window (r.session.inbuf source) = r.received source
  metric : r.metrics.bytes source = start + UInt64.ofNat (r.received source).length

def StreamSound (start : Side → UInt64) (r : Relay) : Prop :=
  ∀ source, DirectionSound (start source) r source

/-- The relation only looks at the buffers, the two metrics and the record. -/
theorem stream_congr (start : Side → UInt64) (r r' : Relay) (sound : StreamSound start r)
    (buffers : ∀ side, r'.session.inbuf side = r.session.inbuf side)
    (metrics : ∀ side, r'.metrics.bytes side = r.metrics.bytes side)
    (received : r'.received = r.received) (sent : r'.sent = r.sent) : StreamSound start r' := by
  intro side
  have here := sound side
  exact
    { indices := by rw [buffers]; exact here.indices
      stream := by rw [buffers, received, sent]; exact here.stream
      metric := by rw [metrics, received]; exact here.metric }

theorem stream_accepted (id : UInt64) (now : Int) (cfd ufd : Nat) (metrics : Metrics) :
    StreamSound metrics.bytes (Relay.accepted id now cfd ufd metrics) := by
  intro side
  have zero : (Relay.accepted id now cfd ufd metrics).session.inbuf side = Buffer.zero := by
    cases side <;> rfl
  exact
    { indices := zero ▸ sound_zero
      stream := by rw [zero]; rfl
      metric := by simp [Relay.accepted] }

theorem stream_read (start : Side → UInt64) (answer : RecvAnswer) (source : Side) (r : Relay)
    (sound : StreamSound start r) : StreamSound start (relayRead answer source r).2 := by
  intro side
  by_cases same : side = source
  · subst same
    have here := sound side
    obtain ⟨indices, content, metric⟩ :=
      read_stream answer (r.session.inbuf side) (r.metrics.bytes side) here.indices
    constructor
    · simpa [relayRead, setInbuf_inbuf] using indices
    · simp only [relayRead, setInbuf_inbuf, if_true, Function.update_self]
      rw [content, ← List.append_assoc, here.stream]
    · simp only [relayRead, setBytes_bytes, if_true, Function.update_self]
      rw [metric, here.metric, List.length_append, UInt64.ofNat_add, UInt64.add_assoc]
  · have other := sound side
    constructor
    · simpa [relayRead, setInbuf_inbuf, same] using other.indices
    · simpa [relayRead, setInbuf_inbuf, same] using other.stream
    · simpa [relayRead, setBytes_bytes, same] using other.metric

theorem stream_write (start : Side → UInt64) (answer : SendAnswer) (source : Side) (r : Relay)
    (sound : StreamSound start r) : StreamSound start (relayWrite answer source r).2 := by
  intro side
  by_cases same : side = source
  · subst same
    have here := sound side
    obtain ⟨indices, content⟩ := write_stream answer (r.session.inbuf side) here.indices
    constructor
    · simpa [relayWrite, setInbuf_inbuf] using indices
    · simp only [relayWrite, setInbuf_inbuf, if_true, Function.update_self]
      rw [List.append_assoc, content, here.stream]
    · exact here.metric
  · have other := sound side
    constructor
    · simpa [relayWrite, setInbuf_inbuf, same] using other.indices
    · simpa [relayWrite, setInbuf_inbuf, same] using other.stream
    · exact other.metric

theorem stream_compact (start : Side → UInt64) (source : Side) (r : Relay)
    (sound : StreamSound start r) : StreamSound start (compactBuffer source r) := by
  intro side
  by_cases same : side = source
  · subst same
    have here := sound side
    obtain ⟨indices, content⟩ := compact_sound (r.session.inbuf side) here.indices
    refine ⟨?_, ?_, here.metric⟩
    · simpa [compactBuffer, setInbuf_inbuf] using indices
    · simpa [compactBuffer, setInbuf_inbuf, content] using here.stream
  · have other := sound side
    refine ⟨?_, ?_, other.metric⟩
    · simpa [compactBuffer, setInbuf_inbuf, same] using other.indices
    · simpa [compactBuffer, setInbuf_inbuf, same] using other.stream

theorem stream_eof (start : Side → UInt64) (side : Side) (r : Relay)
    (sound : StreamSound start r) : StreamSound start (markEof side r) :=
  stream_congr start r _ sound (fun _ => by simp [markEof]) (fun _ => rfl) rfl rfl

theorem stream_moves (start : Side → UInt64) (side : Side) :
    KeptByMoves side (StreamSound start) where
  connected r sound :=
    stream_congr start r _ sound (fun k => by cases k <;> rfl) (fun _ => rfl) rfl rfl
  read r answer sound := stream_read start answer side r sound
  ended r sound := stream_eof start side r sound
  written r answer sound := stream_write start answer side.other r sound
  halfClosed r sound :=
    stream_congr start r _ sound (fun _ => half_close_inbuf _ _) (fun _ => rfl) rfl rfl
  failed r _ _ _ sound :=
    stream_congr start r _ sound (fun _ => rfl) (fun k => by cases k <;> rfl) rfl rfl
  refreshed r _ sound := stream_congr start r _ sound (fun _ => rfl) (fun _ => rfl) rfl rfl

/-- A handled event keeps the stream relation, whether or not it ends the session. -/
theorem stream_sideIo (start : Side → UInt64) (calls : Calls) (side : Side) (ev : Events)
    (r : Relay) (sound : StreamSound start r) :
    StreamSound start (handleSideIo calls side ev r).2 :=
  sideIo_kept _ calls side ev r (stream_moves start side)
    (stream_congr start r _ sound (fun k => by cases k <;> rfl) (fun _ => rfl) rfl rfl)

/-- What can happen to the buffers of a connection: one of the three buffer
operations in one direction, or a whole handled event. -/
inductive StreamOp where
  | compact (source : Side)
  | read (source : Side) (answer : RecvAnswer)
  | write (source : Side) (answer : SendAnswer)
  | event (side : Side) (ev : Events) (calls : Calls)

def streamStep (r : Relay) : StreamOp → Relay
  | .compact source => compactBuffer source r
  | .read source answer => (relayRead answer source r).2
  | .write source answer => (relayWrite answer source r).2
  | .event side ev calls => (handleSideIo calls side ev r).2

/-- In every state of every interleaving, in each direction: what was sent,
followed by the window of the buffer, is what was received; the indices are
ordered and within the buffer; the metric grew by the bytes received. -/
theorem stream_integrity (id : UInt64) (now : Int) (cfd ufd : Nat) (metrics : Metrics)
    (ops : List StreamOp) :
    Trace.Always streamStep
      (fun r => ∀ source : Side,
        r.sent source ++ window (r.session.inbuf source) = r.received source ∧
          (r.session.inbuf source).start ≤ (r.session.inbuf source).stop ∧
          (r.session.inbuf source).stop ≤ infBufferCap ∧
          r.metrics.bytes source - metrics.bytes source =
            UInt64.ofNat (r.received source).length)
      (Relay.accepted id now cfd ufd metrics) ops := by
  apply Trace.always_mono streamStep (StreamSound metrics.bytes)
  · intro r sound source
    have here := sound source
    refine ⟨here.stream, here.indices.ordered, here.indices.within, ?_⟩
    rw [here.metric, UInt64.add_comm, UInt64.add_sub_cancel]
  · apply Trace.always_of_invariant streamStep (StreamSound metrics.bytes) ?_ _ _
      (stream_accepted id now cfd ufd metrics)
    intro r op sound
    cases op with
    | compact source => exact stream_compact _ source r sound
    | read source answer => exact stream_read _ answer source r sound
    | write source answer => exact stream_write _ answer source r sound
    | event side ev calls => exact stream_sideIo _ calls side ev r sound

end RyzenBuild.Proxy
