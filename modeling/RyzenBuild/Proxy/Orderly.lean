import RyzenBuild.Lib.Trace
import RyzenBuild.Proxy.Carries

/-!
Orderly close. No byte is lost as long as the end of a stream is only reported
together with its last unread byte; the handler stops reading at the report,
so a byte behind it stays unread.
-/
namespace RyzenBuild.Proxy

structure Orderly (w : World) : Prop where
  wires : ∀ side, (w.wire side).finArrived = true →
    (w.wire side).fin = true ∧ (w.wire side).flight = []
  running : w.alive = true → Carries w.wire (fun side => (w.wire side).queue) w.relay
  ended : w.alive = false → ∀ side, Delivered w side

theorem handleSideIo_hangup (calls : Calls) (side : Side) (ev : Events) (r : Relay)
    (hangup : ev.epollhup = true) :
    handleSideIo calls side ev r =
      (false, { r with session := { r.session with lastActivity := calls.now } }) := by
  simp [handleSideIo, sideIoStages, hangup]

/-- What an event leaves of a wire: only the queue gets shorter. -/
theorem handleEvent_wire (w : World) (side : Side) (ev : Events) (now : Int)
    (recv send : Option Nat) (d : Side) :
    ((handleEvent w side ev now recv send).wire d).sent = (w.wire d).sent ∧
      ((handleEvent w side ev now recv send).wire d).fin = (w.wire d).fin ∧
      ((handleEvent w side ev now recv send).wire d).flight = (w.wire d).flight ∧
      ((handleEvent w side ev now recv send).wire d).finArrived = (w.wire d).finArrived := by
  by_cases same : d = side
  · subst same
    simp [handleEvent, setWire]
  · simp [handleEvent, setWire, same]

theorem orderly_event (w : World) (side : Side) (ev : Events) (now : Int)
    (recv send : Option Nat) (alive : w.alive = true) (orderly : Orderly w)
    (reports : KernelReports w (.event side ev now recv send))
    (spares : NothingUnread w (.event side ev now recv send)) :
    Orderly (handleEvent w side ev now recv send) := by
  have carries := orderly.running alive
  obtain ⟨noError, onEof, onHangup⟩ := reports
  have wires : ∀ d, ((handleEvent w side ev now recv send).wire d).finArrived = true →
      ((handleEvent w side ev now recv send).wire d).fin = true ∧
        ((handleEvent w side ev now recv send).wire d).flight = [] := by
    intro d arrived
    obtain ⟨_, fin, flight, landed⟩ := handleEvent_wire w side ev now recv send d
    rw [fin, flight]
    exact orderly.wires d (landed ▸ arrived)
  cases hangup : ev.epollhup with
  | true =>
      -- The session is destroyed unread; both directions had been drained before.
      obtain ⟨arrived, closed⟩ := onHangup hangup
      obtain ⟨nothing, empty⟩ := spares.1 hangup
      have handled := handleSideIo_hangup (orderlyCalls w side now recv send) side ev w.relay hangup
      have ended : ∀ d, w.relay.sent d = (w.wire d).sent ∧ (w.wire d).fin = true := by
        intro d
        by_cases same : d = side
        · subst same
          obtain ⟨fin, landed⟩ := orderly.wires d arrived
          exact ⟨delivered_of_carries _ _ _ carries d landed nothing (window_of_empty _ empty), fin⟩
        · obtain rfl : d = side.other := by
            cases d <;> cases side <;> simp_all [Side.other]
          obtain ⟨eof, drained⟩ := carries.shut side.other (by rw [other_other]; exact closed)
          obtain ⟨landed, read⟩ := carries.eof side.other eof
          obtain ⟨fin, flown⟩ := orderly.wires side.other landed
          exact ⟨delivered_of_carries _ _ _ carries side.other flown read drained, fin⟩
      refine ⟨wires, ?_, ?_⟩
      · intro still
        simp [handleEvent, handled, setWire] at still
      · intro _ d
        obtain ⟨sent, fin, _, _⟩ := handleEvent_wire w side ev now recv send d
        refine ⟨fin.trans (ended d).2, ?_⟩
        rw [sent, ← (ended d).1]
        simp [handleEvent, handled]
  | false =>
      -- The wires lose what the `recv` took; the rest is the relation of the handler.
      obtain ⟨r', got, carries', received, outcome⟩ := carries_sideIo w.wire _
        (orderlyCalls w side now recv send) side ev w.relay carries recv send rfl rfl rfl rfl
        noError hangup onEof (spares.2 hangup)
      have relay : (handleEvent w side ev now recv send).relay = r' := by
        rcases outcome with kept | ⟨gone, _⟩
        · simp [handleEvent, kept]
        · simp [handleEvent, gone]
      have queues : (fun d => ((handleEvent w side ev now recv send).wire d).queue) =
          Function.update (fun d => (w.wire d).queue) side
            ((w.wire side).queue.drop got.length) := by
        have taken : (r'.received side).length - (w.relay.received side).length = got.length := by
          rw [received, List.length_append, Nat.add_sub_cancel_left]
        have result : (handleSideIo (orderlyCalls w side now recv send) side ev w.relay).2 = r' :=
          relay
        funext d
        by_cases same : d = side
        · subst same
          simp [handleEvent, setWire, result, taken]
        · simp [handleEvent, setWire, same]
      have after : Carries (handleEvent w side ev now recv send).wire
          (fun d => ((handleEvent w side ev now recv send).wire d).queue) r' := by
        rw [queues]
        exact carries_wires w.wire _ _ r' carries'
          (fun d => (handleEvent_wire w side ev now recv send d).1)
          (fun d => (handleEvent_wire w side ev now recv send d).2.2.1)
          (fun d => (handleEvent_wire w side ev now recv send d).2.2.2)
      refine ⟨wires, fun _ => relay ▸ after, ?_⟩
      intro gone d
      rcases outcome with kept | ⟨_, done⟩
      · simp [handleEvent, kept, setWire] at gone
      · obtain ⟨eof, empty⟩ := done d
        obtain ⟨arrived, nothing⟩ := after.eof d eof
        obtain ⟨fin, landed⟩ := wires d arrived
        exact ⟨fin, relay ▸ delivered_of_carries _ _ r' after d landed nothing empty⟩

/-- The endpoints and the network touch one wire: bytes are only added at its
far end and moved along, and nothing follows a FIN. -/
theorem orderly_setWire (w : World) (side : Side) (wire : Wire) (orderly : Orderly w)
    (landed : wire.finArrived = true → wire.fin = true ∧ wire.flight = [])
    (bytes : ∀ received, (w.wire side).sent = received ++ ((w.wire side).queue ++
      (w.wire side).flight) → wire.sent = received ++ (wire.queue ++ wire.flight))
    (arrived : (w.wire side).finArrived = true → wire.finArrived = true ∧
      wire.queue = (w.wire side).queue)
    (kept : (w.wire side).fin = true → wire.fin = true ∧ wire.sent = (w.wire side).sent) :
    Orderly (setWire w side wire) := by
  constructor
  · intro d
    by_cases same : d = side
    · subst same
      simpa [setWire] using landed
    · simpa [setWire, same] using orderly.wires d
  · intro alive
    have carries := orderly.running alive
    refine ⟨carries.sound, carries.stream, ?_, ?_, carries.shut⟩
    · intro d
      by_cases same : d = side
      · subst same
        simpa [setWire] using bytes _ (carries.total d)
      · simpa [setWire, same] using carries.total d
    · intro d ended
      obtain ⟨before, nothing⟩ := carries.eof d ended
      by_cases same : d = side
      · subst same
        obtain ⟨still, queue⟩ := arrived before
        simpa [setWire, still, queue] using nothing
      · simpa [setWire, same] using And.intro before nothing
  · intro gone d
    obtain ⟨fin, sent⟩ := orderly.ended gone d
    by_cases same : d = side
    · subst same
      obtain ⟨still, all⟩ := kept fin
      exact ⟨by simpa [setWire] using still, by simpa [setWire, all] using sent⟩
    · exact ⟨by simpa [setWire, same] using fin, by simpa [setWire, same] using sent⟩

theorem orderly_step (w : World) (act : Act) (orderly : Orderly w) (reports : KernelReports w act)
    (spares : NothingUnread w act) : Orderly (worldStep w act) := by
  cases act with
  | write side bytes =>
      cases fin : (w.wire side).fin with
      | true =>
          simp only [worldStep, fin, if_true]
          exact orderly
      | false =>
          -- A FIN that has arrived was sent, and then the endpoint writes no more.
          have unlanded : (w.wire side).finArrived = false := by
            rw [Bool.eq_false_iff]
            intro arrived
            simp [(orderly.wires side arrived).1] at fin
          simp only [worldStep, fin, Bool.false_eq_true, if_false]
          apply orderly_setWire w side _ orderly
          · simp [unlanded]
          · intro received total
            simp only
            rw [total, List.append_assoc, List.append_assoc]
          · simp [unlanded]
          · simp [fin]
  | finish side =>
      exact orderly_setWire w side _ orderly (fun arrived => ⟨rfl, (orderly.wires side arrived).2⟩)
        (fun _ total => total) (fun arrived => ⟨arrived, rfl⟩) (fun _ => ⟨rfl, rfl⟩)
  | arrive side count =>
      apply orderly_setWire w side _ orderly
      · intro arrived
        obtain ⟨fin, landed⟩ := orderly.wires side arrived
        exact ⟨fin, by simp [landed]⟩
      · intro received total
        simp only
        rw [total, List.append_assoc, List.take_append_drop]
      · intro arrived
        exact ⟨arrived, by simp [(orderly.wires side arrived).2]⟩
      · exact fun fin => ⟨fin, rfl⟩
  | arriveFin side =>
      simp only [worldStep]
      split
      · rename_i last
        simp only [Bool.and_eq_true, List.isEmpty_iff] at last
        exact orderly_setWire w side _ orderly (fun _ => last) (fun _ total => total)
          (fun _ => ⟨rfl, rfl⟩) (fun fin => ⟨fin, rfl⟩)
      · exact orderly
  | event side ev now recv send =>
      cases alive : w.alive with
      | true =>
          simp only [worldStep, alive, if_true]
          exact orderly_event w side ev now recv send alive orderly reports spares
      | false =>
          simp only [worldStep, alive, Bool.false_eq_true, if_false]
          exact orderly

theorem orderly_accepted (id : UInt64) (now : Int) (cfd ufd : Nat) (metrics : Metrics) :
    Orderly (World.accepted id now cfd ufd metrics) := by
  refine ⟨fun d landed => (by cases landed), fun _ => ?_, fun gone => (by cases gone)⟩
  exact
    { sound := fun d => (stream_accepted id now cfd ufd metrics d).indices
      stream := fun d => (stream_accepted id now cfd ufd metrics d).stream
      total := fun _ => rfl
      eof := fun d ended => by cases d <;> cases ended
      shut := fun d closed => by cases d <;> cases closed }

theorem orderly_close (w : World) (orderly : Orderly w) : OrderlyClose w := by
  rintro side (gone | closed)
  · exact orderly.ended gone side
  · cases alive : w.alive with
    | false => exact orderly.ended alive side
    | true =>
        have carries := orderly.running alive
        obtain ⟨eof, empty⟩ := carries.shut side closed
        obtain ⟨arrived, nothing⟩ := carries.eof side eof
        obtain ⟨fin, landed⟩ := orderly.wires side arrived
        exact ⟨fin, delivered_of_carries _ _ _ carries side landed nothing empty⟩

/-- In every run whose events only report the end of a stream together with
its last unread byte, no byte is lost: the session is destroyed, and writing
towards an endpoint shut down, only after all the other one sent is delivered. -/
theorem orderly_close_of_nothing_unread (id : UInt64) (now : Int) (cfd ufd : Nat)
    (metrics : Metrics) (acts : List Act)
    (reports : Trace.Steps worldStep KernelReports (World.accepted id now cfd ufd metrics) acts)
    (spares : Trace.Steps worldStep NothingUnread (World.accepted id now cfd ufd metrics) acts) :
    Trace.Always worldStep OrderlyClose (World.accepted id now cfd ufd metrics) acts := by
  apply Trace.always_mono worldStep Orderly OrderlyClose orderly_close
  apply Trace.always_of_steps worldStep (fun w act => KernelReports w act ∧ NothingUnread w act)
    Orderly (fun w act orderly both => orderly_step w act orderly both.1 both.2) _ _
    (orderly_accepted id now cfd ufd metrics)
  exact (Trace.steps_and worldStep KernelReports NothingUnread _ _).mpr ⟨reports, spares⟩

instance (w : World) : ∀ act, Decidable (KernelReports w act)
  | .event _ _ _ _ _ => inferInstanceAs (Decidable (_ ∧ _ ∧ _))
  | .write _ _ | .finish _ | .arrive _ _ | .arriveFin _ => isTrue trivial

theorem drains_iff_get (w : World) (side : Side) (ev : Events) (recv : Option Nat) :
    Drains w side ev recv ↔ (w.wire side).queue = [] ∨
      ev.epollin = true ∧ recv.isSome = true ∧
        (w.wire side).queue.length ≤ recv.getD 0 + 1 ∧
        (w.wire side).queue.length ≤
          bufferSpace (bufferCompact (w.relay.session.inbuf side)) := by
  cases recv with
  | none => simp [Drains]
  | some more => simp [Drains]

instance (w : World) (side : Side) (ev : Events) (recv : Option Nat) :
    Decidable (Drains w side ev recv) :=
  decidable_of_iff _ (drains_iff_get w side ev recv).symm

instance (w : World) : ∀ act, Decidable (NothingUnread w act)
  | .event _ _ _ _ _ => inferInstanceAs (Decidable ((_ → _) ∧ (_ → _ → _)))
  | .write _ _ | .finish _ | .arrive _ _ | .arriveFin _ => isTrue trivial

/-- A client asks for one byte and closes; the upstream answers with one byte
and closes, all by the time the proxy looks again. -/
def requestResponse : List Act :=
  [.event .upstream ⟨false, true, false, false, false⟩ 0 none none,
    .write .client [113], .arrive .client 1,
    .event .client ⟨true, false, false, false, false⟩ 0 (some 0) none,
    .event .upstream ⟨false, true, false, false, false⟩ 0 none (some 0),
    .finish .client, .arriveFin .client,
    .event .client ⟨true, false, false, false, true⟩ 0 (some 0) none,
    .write .upstream [114], .finish .upstream, .arrive .upstream 1, .arriveFin .upstream]

def freshWorld : World := World.accepted 1 0 5 6 Metrics.zero

/-- The answer is read together with the report of its end, and delivered. -/
theorem response_delivered :
    Trace.Always worldStep OrderlyClose freshWorld
      (requestResponse ++
        [.event .upstream ⟨true, false, false, false, true⟩ 0 (some 0) none,
          .event .client ⟨false, true, false, false, false⟩ 0 none (some 0)]) := by
  apply orderly_close_of_nothing_unread
  · decide +kernel
  · decide +kernel

/-- The upstream socket is shut down in both directions, so epoll reports a
hangup with the answer unread, and the session is destroyed before reading it. -/
theorem response_lost :
    Trace.Steps worldStep KernelReports freshWorld
        (requestResponse ++ [.event .upstream ⟨true, false, false, true, true⟩ 0 (some 0) none]) ∧
      ¬ Trace.Always worldStep OrderlyClose freshWorld
        (requestResponse ++
          [.event .upstream ⟨true, false, false, true, true⟩ 0 (some 0) none]) := by
  refine ⟨by decide +kernel, fun always => ?_⟩
  have close := Trace.always_final worldStep OrderlyClose _ _ always
  have delivered := close .upstream (Or.inl (by decide +kernel))
  exact absurd delivered.2 (by decide +kernel)

end RyzenBuild.Proxy
