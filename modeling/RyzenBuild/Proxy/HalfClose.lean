import RyzenBuild.Proxy.Interest

/-!
Half closing. A peer is to be shut down for writing only behind the last byte
towards it: the other one's stream has ended, its buffer is drained and, for
the upstream, the connect is over. epoll reports what the masks of the last
wait ask for; the reports of one wait are handled in any order.
-/
namespace RyzenBuild.Proxy

/-- The mask asks for every bit of the report. -/
def Events.within (ev mask : Events) : Bool :=
  (!ev.epollin || mask.epollin) && (!ev.epollout || mask.epollout) &&
    (!ev.epollerr || mask.epollerr) && (!ev.epollhup || mask.epollhup) &&
    (!ev.epollrdhup || mask.epollrdhup)

/-- A session in the event loop. `reported` holds what the last `epoll_wait`
returned for its descriptors and the loop has not come to yet. -/
structure Connection where
  relay : Relay
  alive : Bool
  reported : Side → Option Events

/-- The loop waits, comes to the report for a side, or destroys the session
for its age or at the end. -/
inductive Turn where
  | wait (ready : Side → Option Events)
  | handle (side : Side) (calls : Calls)
  | destroy

/-- A wait starts when all reports are handled, and reports what it is asked for. -/
def Connection.mayReport (c : Connection) (ready : Side → Option Events) : Bool :=
  [Side.client, Side.upstream].all fun side =>
    (c.reported side).isNone && (ready side).all fun ev => ev.within (c.relay.masks side)

def handleReport (c : Connection) (side : Side) (calls : Calls) : Connection :=
  match c.reported side with
  | none => c
  | some ev =>
      let (keep, r) := handleSideIo calls side ev c.relay
      { relay := r, alive := keep, reported := Function.update c.reported side none }

def connectionStep (c : Connection) : Turn → Connection
  | .wait ready => if c.alive && c.mayReport ready then { c with reported := ready } else c
  | .handle side calls => if c.alive then handleReport c side calls else c
  | .destroy => { c with alive := false }

/-- `stale` is what the current wait reported for the two descriptors before
the session was accepted on them. -/
def Connection.accepted (id : UInt64) (now : Int) (cfd ufd : Nat) (metrics : Metrics)
    (stale : Side → Option Events) : Connection :=
  { relay := Relay.accepted id now cfd ufd metrics, alive := true, reported := stale }

def Ordered (s : Session) : Prop :=
  (s.upstream.writeShutdown = true →
    s.upstream.connecting = false ∧ s.client.readEof = true ∧ bufferEmpty s.toUpstream = true) ∧
  (s.client.writeShutdown = true → s.upstream.readEof = true ∧ bufferEmpty s.toClient = true)

/-- The `recv` of the event or its `EPOLLRDHUP` ends the stream, and nothing is read. -/
def EndsUnread (ev : Events) (recv : RecvAnswer) : Prop :=
  if ev.epollin then recv = .eof ∨ recv = .again ∧ ev.epollrdhup = true
  else ev.epollrdhup = true

/-- The `send` of the event, if there is one, does not fail. -/
def WriteGoesOn (ev : Events) (send : SendAnswer) (b : Buffer) : Prop :=
  ev.epollout = true → bufferEmpty b = false → send ≠ .error ∧ send ≠ .sent 0

/-- The client's stream ends while the connect is still on its way and nothing
waits for the upstream. -/
def ClosesEarly (c : Connection) : Turn → Prop
  | .handle .client calls =>
      ∃ ev, c.alive = true ∧ c.reported .client = some ev ∧ ev.epollerr = false ∧
        ev.epollhup = false ∧ c.relay.session.upstream.connecting = true ∧
        bufferEmpty c.relay.session.toUpstream = true ∧ EndsUnread ev calls.recv ∧
        WriteGoesOn ev calls.send c.relay.session.toClient
  | _ => False

/-- Behind a shut peer the other one's stream has ended and its buffer is drained. -/
def Drained (s : Session) : Prop :=
  ∀ d : Side, (s.peer d.other).writeShutdown = true →
    (s.peer d).readEof = true ∧ bufferEmpty (s.inbuf d) = true

/-- Every peer that a half close could shut down is shut down already. -/
def PassedOn (s : Session) : Prop :=
  ∀ d : Side, (s.peer d).readEof = true → bufferEmpty (s.inbuf d) = true →
    (s.peer d.other).writeShutdown = true

/-- What holds of a connection whatever the order of its events. -/
structure Settled (c : Connection) : Prop where
  tidy : TidyRelay c.relay
  held : ∀ d, (c.relay.session.peer d).fd.isSome = true
  drained : Drained c.relay.session
  unread : ∀ d ev, c.reported d = some ev → ev.epollin = true →
    (c.relay.session.peer d).readEof = false
  masks : c.alive = true → ∀ d, c.relay.masks d = sessionEventsForSide c.relay.session d
  closed : c.alive = true → PassedOn c.relay.session

theorem settled_accepted (id : UInt64) (now : Int) (cfd ufd : Nat) (metrics : Metrics)
    (stale : Side → Option Events) :
    Settled (Connection.accepted id now cfd ufd metrics stale) where
  tidy d := by cases d <;> exact tidy_zero
  held d := by cases d <;> rfl
  drained d shut := by cases d <;> cases shut
  unread d _ _ _ := by cases d <;> rfl
  masks _ _ := rfl
  closed _ d ended := by cases d <;> cases ended

theorem drained_before (side : Side) (ev : Events) (s s' : Session) (drained : Drained s)
    (unread : ev.epollin = true → (s.peer side).readEof = false)
    (before : BeforeClose side ev s s') : Drained s' := by
  intro d shut
  rw [before.shut] at shut
  obtain ⟨ended, empty⟩ := drained d shut
  by_cases same : d = side
  · subst same
    -- An ended stream is not read any more, so nothing comes into its buffer.
    have quiet : ev.epollin = false := by
      rw [← Bool.not_eq_true]
      intro readable
      rw [unread readable] at ended
      cases ended
    exact ⟨before.eof ended, by rw [before.unread quiet]; exact empty⟩
  · obtain rfl : d = side.other := by
      cases d <;> cases side <;> first | rfl | exact absurd rfl same
    exact ⟨before.otherEof.trans ended, by rw [before.drained empty]; exact empty⟩

theorem drained_close (s : Session) (drained : Drained s) :
    Drained (sessionConsiderHalfClose s) := by
  intro d shut
  rw [half_close_eof, half_close_inbuf]
  rcases half_close_shut s d shut with before | now
  · exact drained d before
  · exact now

section Handle

variable (calls : Calls) (side : Side) (ev : Events) (r : Relay)

theorem handled_drained (tidy : TidyRelay r) (drained : Drained r.session)
    (unread : ev.epollin = true → (r.session.peer side).readEof = false) :
    Drained (handleSideIo calls side ev r).2.session := by
  rcases sideIo_cases calls side ev r tidy with ⟨r', reaches, before⟩ | ⟨r', ended, before⟩
  · rw [reaches_session calls side ev r r' reaches]
    exact drained_close _ (drained_before side ev _ _ drained unread before)
  · rw [ended]
    exact drained_before side ev _ _ drained unread before

theorem handled_other_eof (tidy : TidyRelay r) :
    ((handleSideIo calls side ev r).2.session.peer side.other).readEof =
      (r.session.peer side.other).readEof := by
  rcases sideIo_cases calls side ev r tidy with ⟨r', reaches, before⟩ | ⟨r', ended, before⟩
  · rw [reaches_session calls side ev r r' reaches, half_close_eof]
    exact before.otherEof
  · rw [ended]
    exact before.otherEof

theorem settled_handle (c : Connection) (settled : Settled c) (report : c.reported side = some ev) :
    Settled
      { relay := (handleSideIo calls side ev c.relay).2
        alive := (handleSideIo calls side ev c.relay).1
        reported := Function.update c.reported side none } := by
  have held (d : Side) :
      ((handleSideIo calls side ev c.relay).2.session.peer d).fd.isSome = true := by
    rw [same_owner_peer _ _ _ (sideIo_owner calls side ev c.relay) d]
    exact settled.held d
  constructor
  · exact tidy_sideIo calls side ev c.relay settled.tidy
  · exact held
  · exact handled_drained calls side ev c.relay settled.tidy settled.drained
      (settled.unread side ev report)
  · intro d ev' pending readable
    by_cases same : d = side
    · subst same
      simp at pending
    · simp only [Function.update_of_ne same] at pending
      obtain rfl : d = side.other := by
        cases d <;> cases side <;> first | rfl | exact absurd rfl same
      exact (handled_other_eof calls side ev c.relay settled.tidy).trans
        (settled.unread side.other ev' pending readable)
  · intro alive d
    exact kept_masks calls side ev c.relay _ settled.tidy (Prod.ext alive rfl) d (held d)
  · intro alive d ended empty
    rcases sideIo_cases calls side ev c.relay settled.tidy with ⟨r', reaches, _⟩ | ⟨r', gone, _⟩
    · have closed := reaches_session calls side ev c.relay r' reaches
      have open_ := held d.other
      simp only at ended empty ⊢
      rw [closed] at ended empty open_ ⊢
      rw [half_close_eof] at ended
      rw [half_close_inbuf] at empty
      refine half_close_passes r'.session d ?_ ended empty
      rw [half_close_peer] at open_
      split at open_
      · rwa [shutdown_fd] at open_
      · exact open_
    · rw [gone] at alive
      cases alive

end Handle

theorem within_readable (ev mask : Events) (within : ev.within mask = true)
    (readable : ev.epollin = true) : mask.epollin = true := by
  simp only [Events.within, readable, Bool.and_eq_true, Bool.not_true, Bool.false_or] at within
  exact within.1.1.1.1

/-- A stream that has ended is not waited for. -/
theorem readable_unread (s : Session) (d : Side)
    (asked : (sessionEventsForSide s d).epollin = true) : (s.peer d).readEof = false := by
  cases d with
  | client =>
      simp only [sessionEventsForSide, Bool.and_eq_true, Bool.not_eq_true'] at asked
      exact asked.1
  | upstream =>
      simp only [sessionEventsForSide] at asked
      split at asked
      · cases asked
      · simp only [Bool.and_eq_true, Bool.not_eq_true'] at asked
        exact asked.1

theorem settled_wait (c : Connection) (settled : Settled c) (ready : Side → Option Events)
    (alive : c.alive = true) (may : c.mayReport ready = true) :
    Settled { c with reported := ready } := by
  simp only [Connection.mayReport, List.all_cons, List.all_nil, Bool.and_true,
    Bool.and_eq_true, Option.all_eq_true] at may
  obtain ⟨⟨_, client⟩, _, upstream⟩ := may
  refine ⟨settled.tidy, settled.held, settled.drained, ?_, settled.masks, settled.closed⟩
  intro d ev report readable
  have within : ev.within (c.relay.masks d) = true := by
    cases d with
    | client => exact client ev report
    | upstream => exact upstream ev report
  have mask := within_readable ev _ within readable
  rw [settled.masks alive d] at mask
  exact readable_unread c.relay.session d mask

theorem settled_step (c : Connection) (turn : Turn) (settled : Settled c) :
    Settled (connectionStep c turn) := by
  cases turn with
  | wait ready =>
      simp only [connectionStep]
      split
      · rename_i may
        obtain ⟨alive, asked⟩ := Bool.and_eq_true_iff.mp may
        exact settled_wait c settled ready alive asked
      · exact settled
  | handle side calls =>
      simp only [connectionStep]
      split
      · unfold handleReport
        cases report : c.reported side with
        | none => exact settled
        | some ev => exact settled_handle calls side ev c settled report
      · exact settled
  | destroy =>
      refine ⟨settled.tidy, settled.held, settled.drained, settled.unread, ?_, ?_⟩
      · intro alive
        cases alive
      · intro alive
        cases alive

theorem compact_empty (b : Buffer) (empty : bufferEmpty b = true) :
    bufferCompact b = { b with start := 0, stop := 0 } := by
  have same : b.start = b.stop := by simpa [bufferEmpty] using empty
  simp [bufferCompact, same]

/-- A `recv` into an empty buffer has the whole of it to fill. -/
theorem read_unread (answer : RecvAnswer) (b : Buffer) (metric : UInt64)
    (empty : bufferEmpty b = true) :
    bufferEmpty (relayReadIntoBuffer answer b metric).dst = true ↔
      ∀ first rest, answer ≠ .bytes first rest := by
  have positive : ¬ infBufferCap - 0 = 0 := by decide
  simp only [relayReadIntoBuffer, compact_empty b empty, bufferSpace, positive, if_false]
  cases answer with
  | bytes first rest =>
      simp [bufferEmpty, infBufferCap]
  | eof => simp [bufferEmpty]
  | again => simp [bufferEmpty]
  | error => simp [bufferEmpty]

theorem read_rc_empty (answer : RecvAnswer) (b : Buffer) (metric : UInt64)
    (empty : bufferEmpty b = true) :
    (relayReadIntoBuffer answer b metric).rc =
      match answer with
      | .bytes _ _ => 1
      | .eof => -2
      | .again => 0
      | .error => -1 := by
  have positive : ¬ infBufferCap - 0 = 0 := by decide
  simp only [relayReadIntoBuffer, compact_empty b empty, bufferSpace, positive, if_false]
  cases answer <;> rfl

theorem hangup_ends (side : Side) (ev : Events) (r : Relay) :
    ((hangupStage side ev r).session.peer side).readEof =
        ((r.session.peer side).readEof || ev.epollrdhup) ∧
      (hangupStage side ev r).session.inbuf side = r.session.inbuf side := by
  unfold hangupStage
  cases ev.epollrdhup with
  | true => cases side <;> simp [markEof, Session.setPeer, Session.peer, Session.inbuf]
  | false => simp

/-- From an open stream and an empty buffer. -/
theorem ends_unread_iff (calls : Calls) (side : Side) (ev : Events) (r : Relay)
    (empty : bufferEmpty (r.session.inbuf side) = true)
    (open_ : (r.session.peer side).readEof = false) :
    EndsUnread ev calls.recv ↔ ∃ r', readStage calls side ev r = .ok r' ∧
      ((hangupStage side ev r').session.peer side).readEof = true ∧
      bufferEmpty ((hangupStage side ev r').session.inbuf side) = true := by
  have unread := read_unread calls.recv (r.session.inbuf side) (r.metrics.bytes side) empty
  have rc := read_rc_empty calls.recv (r.session.inbuf side) (r.metrics.bytes side) empty
  have dst : (relayRead calls.recv side r).2.session.inbuf side =
      (relayReadIntoBuffer calls.recv (r.session.inbuf side) (r.metrics.bytes side)).dst := by
    simp [relayRead, setInbuf_inbuf]
  have peer : (relayRead calls.recv side r).2.session.peer side = r.session.peer side := by
    simp [relayRead]
  have result : (relayRead calls.recv side r).1 =
      (relayReadIntoBuffer calls.recv (r.session.inbuf side) (r.metrics.bytes side)).rc := rfl
  simp only [hangup_ends]
  unfold EndsUnread readStage
  cases readable : ev.epollin with
  | false => simp [empty, open_]
  | true =>
      simp only [if_true]
      cases answer : calls.recv with
      | bytes first rest =>
          rw [answer] at unread rc dst peer result
          simp [result, rc, dst, peer, unread]
      | eof =>
          rw [answer] at unread rc dst peer result
          simp [result, rc, dst, peer, unread, markEof, setPeer_peer]
      | again =>
          rw [answer] at unread rc dst peer result
          simp [result, rc, dst, peer, unread, open_]
      | error =>
          rw [answer] at rc result
          simp [result, rc]

theorem write_goes_on_iff (calls : Calls) (ev : Events) (r : Relay)
    (sound : Sound r.session.toClient) :
    WriteGoesOn ev calls.send r.session.toClient ↔
      ∃ r', writeStage calls .client ev r = .ok r' := by
  have ordered := sound.ordered
  unfold WriteGoesOn writeStage
  cases writable : ev.epollout with
  | false => simp
  | true =>
      cases empty : bufferEmpty r.session.toClient with
      | true => simp [relayWrite, Session.inbuf, Side.other, relayWriteFromBuffer, empty]
      | false =>
          have size : 0 < bufferSize r.session.toClient := by
            simp only [bufferEmpty, beq_eq_false_iff_ne] at empty
            unfold bufferSize
            omega
          cases answer : calls.send with
          | sent count =>
              cases count with
              | zero => simp [relayWrite, Session.inbuf, Side.other, relayWriteFromBuffer, empty]
              | succ more =>
                  have moved : min (more + 1) (bufferSize r.session.toClient) > 0 := by omega
                  simp only [relayWrite, Session.inbuf, Side.other, relayWriteFromBuffer, empty,
                    moved]
                  by_cases whole : r.session.toClient.start +
                      min (more + 1) (bufferSize r.session.toClient) = r.session.toClient.stop
                  · simp [whole]
                  · simp [whole]
          | again => simp [relayWrite, Session.inbuf, Side.other, relayWriteFromBuffer, empty]
          | error => simp [relayWrite, Session.inbuf, Side.other, relayWriteFromBuffer, empty]

/-- A client's event reaches the half close with the stream ended and nothing
read exactly if nothing stops it. -/
theorem reaches_ended_iff (calls : Calls) (ev : Events) (r : Relay) (tidy : TidyRelay r)
    (empty : bufferEmpty r.session.toUpstream = true) (open_ : r.session.client.readEof = false) :
    (ev.epollerr = false ∧ ev.epollhup = false ∧ EndsUnread ev calls.recv ∧
        WriteGoesOn ev calls.send r.session.toClient) ↔
      ∃ r', Reaches calls .client ev r r' ∧ r'.session.client.readEof = true ∧
        bufferEmpty r'.session.toUpstream = true := by
  have ends := ends_unread_iff calls .client ev
    { r with session := { r.session with lastActivity := calls.now } } empty open_
  have writes (r₂ : Relay) (read : readStage calls .client ev
      { r with session := { r.session with lastActivity := calls.now } } = .ok r₂) :
      WriteGoesOn ev calls.send r.session.toClient ↔
        ∃ r', writeStage calls .client ev (hangupStage .client ev r₂) = .ok r' := by
    have same : (hangupStage .client ev r₂).session.toClient = r.session.toClient :=
      (read_others calls .client ev _ _ read).2
    rw [← same]
    exact write_goes_on_iff calls ev _ (by rw [same]; exact (tidy .upstream).sound)
  constructor
  · rintro ⟨noError, noHangup, unread, goesOn⟩
    obtain ⟨r₂, read, ended, still⟩ := ends.mp unread
    obtain ⟨r', write⟩ := (writes r₂ read).mp goesOn
    obtain ⟨peer, buffer⟩ := write_session calls .client ev _ _ write .client
    refine ⟨r', ⟨_, r₂, noError, noHangup, rfl, read, write⟩, ?_, ?_⟩
    · exact (congrArg Peer.readEof peer).trans ended
    · exact (congrArg bufferEmpty buffer).trans still
  · rintro ⟨r', ⟨r₁, r₂, noError, noHangup, connect, read, write⟩, ended, still⟩
    cases connect
    obtain ⟨peer, buffer⟩ := write_session calls .client ev _ _ write .client
    refine ⟨noError, noHangup, ends.mpr ⟨r₂, read, ?_, ?_⟩, (writes r₂ read).mpr ⟨r', write⟩⟩
    · exact (congrArg Peer.readEof peer).symm.trans ended
    · exact (congrArg bufferEmpty buffer).symm.trans still

theorem ordered_iff (s : Session) (drained : Drained s) :
    Ordered s ↔ (s.upstream.writeShutdown = true → s.upstream.connecting = false) := by
  constructor
  · exact fun ordered shut => (ordered.1 shut).1
  · exact fun completed => ⟨fun shut => ⟨completed shut, drained .client shut⟩, drained .upstream⟩

/-- Before the connect is over nothing has been passed on to the upstream. -/
theorem connecting_unshut (s : Session) (ordered : Ordered s)
    (connecting : s.upstream.connecting = true) : s.upstream.writeShutdown = false := by
  rw [← Bool.not_eq_true]
  intro shut
  cases connecting.symm.trans (ordered.1 shut).1

theorem unshut_open (c : Connection) (settled : Settled c) (alive : c.alive = true)
    (unshut : c.relay.session.upstream.writeShutdown = false)
    (empty : bufferEmpty c.relay.session.toUpstream = true) :
    c.relay.session.client.readEof = false := by
  rw [← Bool.not_eq_true]
  intro ended
  cases unshut.symm.trans (settled.closed alive .client ended empty)

section Report

variable (c : Connection) (calls : Calls) (ev : Events) (settled : Settled c)
  (ordered : Ordered c.relay.session)

include settled ordered

theorem early_shuts (report : c.reported .client = some ev)
    (early : ClosesEarly c (.handle .client calls)) :
    (handleSideIo calls .client ev c.relay).2.session.upstream.writeShutdown = true ∧
      (handleSideIo calls .client ev c.relay).2.session.upstream.connecting = true := by
  obtain ⟨ev', alive, report', noError, noHangup, connecting, empty, unread, goesOn⟩ := early
  cases report.symm.trans report'
  have unshut := connecting_unshut c.relay.session ordered connecting
  have open_ := unshut_open c settled alive unshut empty
  obtain ⟨r', reaches, ended, still⟩ :=
    (reaches_ended_iff calls ev c.relay settled.tidy empty open_).mp
      ⟨noError, noHangup, unread, goesOn⟩
  have upstream := reaches_upstream calls ev c.relay r' reaches
  have held : r'.session.upstream.fd.isSome = true := by
    rw [upstream]
    exact settled.held .upstream
  rw [reaches_session calls .client ev c.relay r' reaches, half_close_connecting, upstream]
  exact ⟨half_close_passes r'.session .client held ended still, connecting⟩

theorem shut_is_early (side : Side) (alive : c.alive = true) (report : c.reported side = some ev)
    (shut : (handleSideIo calls side ev c.relay).2.session.upstream.writeShutdown = true)
    (still : (handleSideIo calls side ev c.relay).2.session.upstream.connecting = true) :
    ClosesEarly c (.handle side calls) := by
  rcases sideIo_cases calls side ev c.relay settled.tidy with
    ⟨r', reaches, before⟩ | ⟨r', gone, before⟩
  · rw [reaches_session calls side ev c.relay r' reaches] at shut still
    rw [half_close_connecting] at still
    have connecting : c.relay.session.upstream.connecting = true := by
      rw [← Bool.not_eq_false]
      intro completed
      cases still.symm.trans (before.connected completed)
    have unshut := connecting_unshut c.relay.session ordered connecting
    -- So this very half close has shut the upstream down.
    have passed : r'.session.client.readEof = true ∧
        bufferEmpty r'.session.toUpstream = true := by
      rcases half_close_shut r'.session .client shut with already | passed
      · cases ((before.shut .upstream).symm.trans already).symm.trans unshut
      · exact passed
    cases side with
    | upstream =>
        have ended : c.relay.session.client.readEof = true := before.otherEof ▸ passed.1
        have same : r'.session.toUpstream = c.relay.session.toUpstream :=
          before.pending rfl still
        rw [same] at passed
        cases ended.symm.trans (unshut_open c settled alive unshut passed.2)
    | client =>
        have empty : bufferEmpty c.relay.session.toUpstream = true := by
          rw [← Bool.not_eq_false]
          intro bytes
          cases (before.filled bytes).symm.trans passed.2
        have open_ := unshut_open c settled alive unshut empty
        obtain ⟨noError, noHangup, unread, goesOn⟩ :=
          (reaches_ended_iff calls ev c.relay settled.tidy empty open_).mpr
            ⟨r', reaches, passed.1, passed.2⟩
        exact ⟨ev, alive, report, noError, noHangup, connecting, empty, unread, goesOn⟩
  · rw [gone] at shut still
    have already : c.relay.session.upstream.writeShutdown = true :=
      (before.shut .upstream).symm.trans shut
    cases still.symm.trans (before.connected (ordered.1 already).1)

/-- Handling a report keeps the order exactly if it does not close early. -/
theorem handled_order (side : Side) (alive : c.alive = true) (report : c.reported side = some ev) :
    ((handleSideIo calls side ev c.relay).2.session.upstream.writeShutdown = true →
        (handleSideIo calls side ev c.relay).2.session.upstream.connecting = false) ↔
      ¬ ClosesEarly c (.handle side calls) := by
  constructor
  · intro order early
    cases side with
    | upstream => exact early
    | client =>
        obtain ⟨shut, still⟩ := early_shuts c calls ev settled ordered report early
        cases still.symm.trans (order shut)
  · intro late shut
    rw [← Bool.not_eq_true]
    intro still
    exact late (shut_is_early c calls ev settled ordered side alive report shut still)

end Report

theorem ordered_step (c : Connection) (turn : Turn) (settled : Settled c)
    (ordered : Ordered c.relay.session) :
    Ordered (connectionStep c turn).relay.session ↔ ¬ ClosesEarly c turn := by
  cases turn with
  | wait ready =>
      simp only [connectionStep]
      split
      · exact ⟨fun _ early => early, fun _ => ordered⟩
      · exact ⟨fun _ early => early, fun _ => ordered⟩
  | destroy => exact ⟨fun _ early => early, fun _ => ordered⟩
  | handle side calls =>
      rw [ordered_iff _ (settled_step c (.handle side calls) settled).drained]
      have stays (same : connectionStep c (.handle side calls) = c)
          (idle : ¬ ClosesEarly c (.handle side calls)) :
          ((connectionStep c (.handle side calls)).relay.session.upstream.writeShutdown = true →
            (connectionStep c (.handle side calls)).relay.session.upstream.connecting = false) ↔
          ¬ ClosesEarly c (.handle side calls) := by
        rw [same]
        exact ⟨fun _ => idle, fun _ shut => (ordered.1 shut).1⟩
      cases alive : c.alive with
      | false =>
          apply stays
          · simp [connectionStep, alive]
          · cases side with
            | upstream => exact id
            | client =>
                rintro ⟨_, running, _⟩
                cases alive.symm.trans running
      | true =>
          cases report : c.reported side with
          | none =>
              apply stays
              · simp [connectionStep, alive, handleReport, report]
              · cases side with
                | upstream => exact id
                | client =>
                    rintro ⟨ev, _, pending, _⟩
                    cases report.symm.trans pending
          | some ev =>
              have handled : (connectionStep c (.handle side calls)).relay =
                  (handleSideIo calls side ev c.relay).2 := by
                simp [connectionStep, alive, handleReport, report]
              rw [handled]
              exact handled_order c calls ev settled ordered side alive report

/-- A run keeps the half-close order in every state exactly if no report ends
the client's stream, with nothing waiting for the upstream, while the connect
is still on its way. -/
theorem half_close_order_iff (id : UInt64) (now : Int) (cfd ufd : Nat) (metrics : Metrics)
    (stale : Side → Option Events) (turns : List Turn) :
    Trace.Always connectionStep (fun c => Ordered c.relay.session)
        (Connection.accepted id now cfd ufd metrics stale) turns ↔
      Trace.Steps connectionStep (fun c turn => ¬ ClosesEarly c turn)
        (Connection.accepted id now cfd ufd metrics stale) turns := by
  apply Trace.always_iff_steps connectionStep _ Settled
  · exact settled_step
  · exact ordered_step
  · exact settled_accepted id now cfd ufd metrics stale
  · exact ⟨nofun, nofun⟩

/-- The client closes at once, before the upstream has answered the connect. -/
theorem early_client_breaks_order :
    ¬ Trace.Always connectionStep (fun c => Ordered c.relay.session)
      (Connection.accepted 1 0 5 6 Metrics.zero fun _ => none)
      [.wait fun side =>
          if side = .client then some ⟨true, false, false, false, true⟩ else none,
        .handle .client ⟨0, none, .eof, .again⟩] := by
  intro always
  have closed := Trace.always_final connectionStep _ _ _ always
  have completed := (closed.1 (by decide +kernel)).1
  exact absurd completed (by decide +kernel)

end RyzenBuild.Proxy
