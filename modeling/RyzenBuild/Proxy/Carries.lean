import RyzenBuild.Proxy.Stream
import RyzenBuild.Proxy.World

/-!
How the bytes on the two wires relate to the relay while one event is handled,
and what every stage of the handler keeps of that relation.
-/
namespace RyzenBuild.Proxy

/-- The relation between the wires and the relay while bytes `left` are unread. -/
structure Carries (wire : Side → Wire) (left : Side → List UInt8) (r : Relay) : Prop where
  sound : ∀ side, Sound (r.session.inbuf side)
  stream : ∀ side, r.sent side ++ window (r.session.inbuf side) = r.received side
  total : ∀ side, (wire side).sent = r.received side ++ (left side ++ (wire side).flight)
  eof : ∀ side, (r.session.peer side).readEof = true →
    (wire side).finArrived = true ∧ left side = []
  shut : ∀ side : Side, (r.session.peer side.other).writeShutdown = true →
    (r.session.peer side).readEof = true ∧ window (r.session.inbuf side) = []

theorem prefix_parts (taken whole : List UInt8) (front : taken <+: whole) :
    whole = taken ++ whole.drop taken.length :=
  (List.prefix_iff_eq_append.mp front).symm

/-- A `recv` takes a prefix of the queue, and only reports the end of the
stream when nothing is left before it. -/
theorem kernel_read (wire : Wire) (limit : Option Nat) (b : Buffer) (metric : UInt64) :
    (relayReadIntoBuffer (kernelRecv wire limit) b metric).got <+: wire.queue ∧
      ((relayReadIntoBuffer (kernelRecv wire limit) b metric).rc ≥ 0 ∨
        (relayReadIntoBuffer (kernelRecv wire limit) b metric).rc = -2 ∧
          wire.finArrived = true ∧ wire.queue = []) := by
  unfold relayReadIntoBuffer
  by_cases full : bufferSpace (bufferCompact b) = 0
  · simp [full]
  · simp only [full, if_false]
    cases limit with
    | none => simp [kernelRecv]
    | some more =>
        cases unread : wire.queue with
        | nil =>
            cases arrived : wire.finArrived with
            | false => simp [kernelRecv, unread, arrived]
            | true => simp [kernelRecv, unread, arrived]
        | cons first rest =>
            simp only [kernelRecv, unread]
            refine ⟨?_, Or.inl (by decide)⟩
            -- Cut twice, by the kernel and by the space: still a prefix of the queue.
            have limited : first :: rest.take more = (first :: rest).take (more + 1) := rfl
            rw [limited, List.take_take]
            exact List.take_prefix _ _

/-- A `recv` with room for the whole queue that is not cut short empties it. -/
theorem kernel_drains (wire : Wire) (more : Nat) (b : Buffer) (metric : UInt64)
    (long : wire.queue.length ≤ more + 1)
    (room : wire.queue.length ≤ bufferSpace (bufferCompact b)) :
    (relayReadIntoBuffer (kernelRecv wire (some more)) b metric).got = wire.queue := by
  unfold relayReadIntoBuffer
  cases unread : wire.queue with
  | nil =>
      cases arrived : wire.finArrived with
      | false => simp [kernelRecv, unread, arrived]
      | true =>
          simp only [kernelRecv, unread, arrived, if_true]
          split <;> rfl
  | cons first rest =>
      rw [unread] at long room
      have open_ : ¬ bufferSpace (bufferCompact b) = 0 := by
        rw [List.length_cons] at room
        omega
      simp only [kernelRecv, unread, open_, if_false]
      have limited : first :: rest.take more = (first :: rest).take (more + 1) := rfl
      rw [limited, List.take_take, List.take_of_length_le (by omega)]

/-- A `send` on a nonempty buffer never fails here. -/
theorem kernel_write (limit : Option Nat) (b : Buffer) (sound : Sound b) :
    (relayWriteFromBuffer (kernelSend limit) b).rc ≥ 0 := by
  unfold relayWriteFromBuffer
  by_cases empty : bufferEmpty b = true
  · simp [empty]
  · simp only [empty, Bool.false_eq_true, if_false]
    cases limit with
    | none => simp [kernelSend]
    | some more =>
        have ordered := sound.ordered
        have distinct : b.start ≠ b.stop := by simpa [bufferEmpty] using empty
        have moved : min (more + 1) (bufferSize b) > 0 := by
          unfold bufferSize
          omega
        simp only [kernelSend, moved, if_true]
        split <;> simp

theorem connect_completes (s : Session) :
    handleConnectComplete (some 0) s =
      some { s with upstream := { s.upstream with connecting := false } } := by
  unfold handleConnectComplete
  cases pending : s.upstream.connecting with
  | true => rfl
  | false =>
      have same : { s with upstream := { s.upstream with connecting := false } } = s := by
        rw [← pending]
      simp [same]

theorem half_close_eof (s : Session) (d : Side) :
    ((sessionConsiderHalfClose s).peer d).readEof = (s.peer d).readEof := by
  rw [← other_other d, half_close_peer]
  split
  · exact shutdown_readEof _
  · rfl

theorem half_close_shut (s : Session) (d : Side)
    (closed : ((sessionConsiderHalfClose s).peer d.other).writeShutdown = true) :
    (s.peer d.other).writeShutdown = true ∨
      (s.peer d).readEof = true ∧ bufferEmpty (s.inbuf d) = true := by
  rw [half_close_peer] at closed
  split at closed
  · rename_i drained
    exact Or.inr (by simpa using drained)
  · exact Or.inl closed

section Stages

variable (wire : Side → Wire) (left : Side → List UInt8) (calls : Calls) (side : Side) (ev : Events)
  (r : Relay) (carries : Carries wire left r)

include carries

theorem carries_congr (r' : Relay)
    (buffers : ∀ d, r'.session.inbuf d = r.session.inbuf d)
    (eof : ∀ d, (r'.session.peer d).readEof = (r.session.peer d).readEof)
    (shut : ∀ d, (r'.session.peer d).writeShutdown = (r.session.peer d).writeShutdown)
    (received : r'.received = r.received) (sent : r'.sent = r.sent) : Carries wire left r' := by
  constructor
  · intro d
    rw [buffers]
    exact carries.sound d
  · intro d
    rw [buffers, sent, received]
    exact carries.stream d
  · intro d
    rw [received]
    exact carries.total d
  · intro d ended
    rw [eof] at ended
    exact carries.eof d ended
  · intro d closed
    rw [shut] at closed
    rw [eof, buffers]
    exact carries.shut d closed

theorem carries_eof (arrived : (wire side).finArrived = true) (nothing : left side = []) :
    Carries wire left (markEof side r) := by
  refine ⟨?_, ?_, carries.total, ?_, ?_⟩
  · intro d
    simpa [markEof] using carries.sound d
  · intro d
    simpa [markEof] using carries.stream d
  · intro d ended
    by_cases same : d = side
    · rw [same]
      exact ⟨arrived, nothing⟩
    · exact carries.eof d (by simpa [markEof, setPeer_peer, same] using ended)
  · intro d closed
    have before : (r.session.peer d.other).writeShutdown = true := by
      simp only [markEof, setPeer_peer] at closed
      split at closed
      · rename_i same
        rw [same]
        exact closed
      · exact closed
    obtain ⟨ended, empty⟩ := carries.shut d before
    refine ⟨?_, by simpa [markEof] using empty⟩
    simp only [markEof, setPeer_peer]
    split
    · rfl
    · exact ended

/-- Reading a prefix of what is unread keeps the relation with the rest. -/
theorem carries_read (answer : RecvAnswer)
    (front : (relayReadIntoBuffer answer (r.session.inbuf side) (r.metrics.bytes side)).got <+:
      left side) :
    Carries wire
      (Function.update left side ((left side).drop
        (relayReadIntoBuffer answer (r.session.inbuf side) (r.metrics.bytes side)).got.length))
      (relayRead answer side r).2 := by
  obtain ⟨indices, content, _⟩ :=
    read_stream answer (r.session.inbuf side) (r.metrics.bytes side) (carries.sound side)
  have parts := prefix_parts _ _ front
  have peers : ∀ d, (relayRead answer side r).2.session.peer d = r.session.peer d :=
    fun d => setInbuf_peer _ _ _ _
  constructor
  · intro d
    by_cases same : d = side
    · subst same
      simpa [relayRead, setInbuf_inbuf] using indices
    · simpa [relayRead, setInbuf_inbuf, same] using carries.sound d
  · intro d
    by_cases same : d = side
    · subst same
      simp only [relayRead, setInbuf_inbuf, if_true, Function.update_self]
      rw [content, ← List.append_assoc, carries.stream]
    · simpa [relayRead, setInbuf_inbuf, same] using carries.stream d
  · intro d
    by_cases same : d = side
    · subst same
      simp only [relayRead, Function.update_self]
      rw [carries.total d, List.append_assoc]
      conv_lhs => rw [parts, List.append_assoc]
    · simpa [relayRead, same] using carries.total d
  · intro d ended
    rw [peers] at ended
    obtain ⟨arrived, nothing⟩ := carries.eof d ended
    refine ⟨arrived, ?_⟩
    by_cases same : d = side
    · subst same
      simp [nothing]
    · simp [same, nothing]
  · intro d closed
    rw [peers] at closed
    obtain ⟨ended, empty⟩ := carries.shut d closed
    refine ⟨by rw [peers]; exact ended, ?_⟩
    by_cases same : d = side
    · -- Past the end of the stream there is nothing left to read.
      subst same
      have none := (carries.eof d ended).2
      rw [none, List.prefix_nil] at front
      simp only [relayRead, setInbuf_inbuf, if_true]
      rw [content, empty, front, List.append_nil]
    · simpa [relayRead, setInbuf_inbuf, same] using empty

theorem carries_write (answer : SendAnswer) (source : Side) :
    Carries wire left (relayWrite answer source r).2 := by
  obtain ⟨indices, content⟩ := write_stream answer (r.session.inbuf source) (carries.sound source)
  have peers : ∀ d, (relayWrite answer source r).2.session.peer d = r.session.peer d :=
    fun d => setInbuf_peer _ _ _ _
  refine ⟨?_, ?_, carries.total, ?_, ?_⟩
  · intro d
    by_cases same : d = source
    · subst same
      simpa [relayWrite, setInbuf_inbuf] using indices
    · simpa [relayWrite, setInbuf_inbuf, same] using carries.sound d
  · intro d
    by_cases same : d = source
    · subst same
      simp only [relayWrite, setInbuf_inbuf, if_true, Function.update_self]
      rw [List.append_assoc, content, carries.stream]
    · simpa [relayWrite, setInbuf_inbuf, same] using carries.stream d
  · intro d ended
    rw [peers] at ended
    exact carries.eof d ended
  · intro d closed
    rw [peers] at closed
    obtain ⟨ended, empty⟩ := carries.shut d closed
    refine ⟨by rw [peers]; exact ended, ?_⟩
    by_cases same : d = source
    · subst same
      rw [empty, List.append_eq_nil_iff] at content
      simp only [relayWrite, setInbuf_inbuf, if_true]
      exact content.2
    · simpa [relayWrite, setInbuf_inbuf, same] using empty

theorem carries_connect (healthy : calls.soError = some 0) :
    ∃ r', connectStage calls side ev r = .ok r' ∧ Carries wire left r' ∧
      r'.received = r.received ∧ (∀ d, r'.session.inbuf d = r.session.inbuf d) := by
  unfold connectStage
  split
  · rw [healthy, connect_completes]
    refine ⟨_, rfl, ?_, rfl, fun d => by cases d <;> rfl⟩
    exact carries_congr wire left r carries _ (fun d => by cases d <;> rfl)
      (fun d => by cases d <;> rfl) (fun d => by cases d <;> rfl) rfl rfl
  · exact ⟨r, rfl, carries, rfl, fun _ => rfl⟩

/-- The read stage succeeds, and what it took is a prefix of the unread bytes;
it is all of them when the call was not cut short. -/
theorem carries_readStage (limit : Option Nat) (answer : calls.recv = kernelRecv (wire side) limit)
    (unread : left side = (wire side).queue) :
    ∃ r' got, readStage calls side ev r = .ok r' ∧
      Carries wire (Function.update left side ((left side).drop got.length)) r' ∧
      r'.received side = r.received side ++ got ∧
      (ev.epollin = true → ∀ more, limit = some more → (left side).length ≤ more + 1 →
        (left side).length ≤ bufferSpace (bufferCompact (r.session.inbuf side)) →
        got = left side) := by
  cases readable : ev.epollin with
  | false =>
      refine ⟨r, [], ?_, ?_, by simp, by simp⟩
      · simp [readStage, readable]
      · simpa using carries
  | true =>
      obtain ⟨front, outcome⟩ :=
        kernel_read (wire side) limit (r.session.inbuf side) (r.metrics.bytes side)
      rw [← answer, ← unread] at front
      have moved := carries_read wire left side r carries calls.recv front
      have filled : ∀ more, limit = some more → (left side).length ≤ more + 1 →
          (left side).length ≤ bufferSpace (bufferCompact (r.session.inbuf side)) →
          (relayReadIntoBuffer calls.recv (r.session.inbuf side)
            (r.metrics.bytes side)).got = left side := by
        rintro more rfl long room
        rw [unread] at long room
        rw [answer, kernel_drains (wire side) more _ _ long room, unread]
      have grown : (relayRead calls.recv side r).2.received side = r.received side ++
          (relayReadIntoBuffer calls.recv (r.session.inbuf side)
            (r.metrics.bytes side)).got := by
        simp [relayRead]
      rw [← answer] at outcome
      rcases outcome with fine | ⟨ended, arrived, nothing⟩
      · refine ⟨(relayRead calls.recv side r).2, _, ?_, moved, grown, fun _ => filled⟩
        have positive : ¬ (relayRead calls.recv side r).1 < 0 := Int.not_lt.mpr fine
        simp [readStage, readable, positive]
      · have rc : (relayRead calls.recv side r).1 = -2 := ended
        refine ⟨markEof side (relayRead calls.recv side r).2, _, ?_, ?_, grown, fun _ => filled⟩
        · simp [readStage, readable, rc]
        · apply carries_eof wire _ side _ moved arrived
          rw [Function.update_self, unread, nothing, List.drop_nil]

theorem carries_writeStage (limit : Option Nat) (answer : calls.send = kernelSend limit) :
    ∃ r', writeStage calls side ev r = .ok r' ∧ Carries wire left r' ∧
      r'.received = r.received := by
  unfold writeStage
  split
  · have moved := carries_write wire left r carries calls.send side.other
    have fine := kernel_write limit (r.session.inbuf side.other) (carries.sound side.other)
    rw [← answer] at fine
    have positive : ¬ (relayWrite calls.send side.other r).1 < 0 := Int.not_lt.mpr fine
    simp only [positive, if_false]
    exact ⟨_, rfl, moved, rfl⟩
  · exact ⟨r, rfl, carries, rfl⟩

theorem carries_half_close :
    Carries wire left { r with session := sessionConsiderHalfClose r.session } := by
  refine ⟨?_, ?_, carries.total, ?_, ?_⟩
  · intro d
    simpa using carries.sound d
  · intro d
    simpa using carries.stream d
  · intro d ended
    rw [half_close_eof] at ended
    exact carries.eof d ended
  · intro d closed
    rw [half_close_eof, half_close_inbuf]
    rcases half_close_shut r.session d closed with before | ⟨ended, empty⟩
    · exact carries.shut d before
    · exact ⟨ended, window_of_empty _ empty⟩

/-- The last stage ends the session only when both streams have ended and
both buffers are empty. -/
theorem carries_close :
    (∃ r', closeStage r = .ok r' ∧ Carries wire left r' ∧ r'.received = r.received) ∨
      ∃ r', closeStage r = .error r' ∧ Carries wire left r' ∧ r'.received = r.received ∧
        ∀ d, (r'.session.peer d).readEof = true ∧ window (r'.session.inbuf d) = [] := by
  have closed := carries_half_close wire left r carries
  unfold closeStage
  simp only
  split
  · rename_i done
    refine Or.inr ⟨_, rfl, closed, rfl, ?_⟩
    simp only [sessionFullyDone, Bool.and_eq_true] at done
    obtain ⟨⟨⟨client, upstream⟩, toUpstream⟩, toClient⟩ := done
    intro d
    cases d with
    | client => exact ⟨client, window_of_empty _ toUpstream⟩
    | upstream => exact ⟨upstream, window_of_empty _ toClient⟩
  · exact Or.inl ⟨_, rfl, { closed with }, rfl⟩

end Stages

theorem carries_wires (wire wire' : Side → Wire) (left : Side → List UInt8) (r : Relay)
    (carries : Carries wire left r) (sent : ∀ d, (wire' d).sent = (wire d).sent)
    (flight : ∀ d, (wire' d).flight = (wire d).flight)
    (arrived : ∀ d, (wire' d).finArrived = (wire d).finArrived) : Carries wire' left r :=
  { carries with
    total := fun d => by rw [sent, flight]; exact carries.total d
    eof := fun d => by rw [arrived]; exact carries.eof d }

/-- The bytes of a side have all been handed on once its FIN has arrived, its
socket is empty and so is its buffer. -/
theorem delivered_of_carries (wire : Side → Wire) (left : Side → List UInt8) (r : Relay)
    (carries : Carries wire left r) (d : Side) (landed : (wire d).flight = [])
    (nothing : left d = []) (empty : window (r.session.inbuf d) = []) :
    r.sent d = (wire d).sent := by
  have stream := carries.stream d
  rw [empty, List.append_nil] at stream
  rw [carries.total d, nothing, landed, stream, List.append_nil, List.append_nil]

/-- A handled event without `EPOLLHUP` keeps the relation, and ends the session
only when both directions are drained. -/
theorem carries_sideIo (wire : Side → Wire) (left : Side → List UInt8) (calls : Calls)
    (side : Side) (ev : Events) (r : Relay) (carries : Carries wire left r)
    (recv send : Option Nat) (healthy : calls.soError = some 0)
    (recvAnswer : calls.recv = kernelRecv (wire side) recv)
    (sendAnswer : calls.send = kernelSend send) (unread : left side = (wire side).queue)
    (noError : ev.epollerr = false) (noHangup : ev.epollhup = false)
    (arrived : ev.epollrdhup = true → (wire side).finArrived = true)
    (drains : ev.epollrdhup = true → left side = [] ∨
      ev.epollin = true ∧ ∃ more, recv = some more ∧ (left side).length ≤ more + 1 ∧
        (left side).length ≤ bufferSpace (bufferCompact (r.session.inbuf side))) :
    ∃ r' got, Carries wire (Function.update left side ((left side).drop got.length)) r' ∧
      r'.received side = r.received side ++ got ∧
      (handleSideIo calls side ev r = (true, r') ∨
        handleSideIo calls side ev r = (false, r') ∧
          ∀ d, (r'.session.peer d).readEof = true ∧ window (r'.session.inbuf d) = []) := by
  have touched := carries_congr wire left r carries
    { r with session := { r.session with lastActivity := calls.now } }
    (fun d => by cases d <;> rfl) (fun d => by cases d <;> rfl) (fun d => by cases d <;> rfl)
    rfl rfl
  obtain ⟨r1, connected, carries1, received1, buffers1⟩ :=
    carries_connect wire left calls side ev _ touched healthy
  obtain ⟨r2, got, filled, carries2, received2, whole⟩ :=
    carries_readStage wire left calls side ev r1 carries1 recv recvAnswer unread
  have same1 : r1.session.inbuf side = r.session.inbuf side := by
    rw [buffers1]
    cases side <;> rfl
  have carries3 : Carries wire (Function.update left side ((left side).drop got.length))
      (hangupStage side ev r2) := by
    unfold hangupStage
    split
    · rename_i ended
      apply carries_eof wire _ side r2 carries2 (arrived ended)
      rw [Function.update_self]
      rcases drains ended with nothing | ⟨readable, more, limit, long, room⟩
      · rw [nothing, List.drop_nil]
      · rw [whole readable more limit long (same1 ▸ room), List.drop_length]
    · exact carries2
  obtain ⟨r4, drained, carries4, received4⟩ :=
    carries_writeStage wire _ calls side ev _ carries3 send sendAnswer
  have received3 : (hangupStage side ev r2).received = r2.received := by
    unfold hangupStage
    split <;> rfl
  have chain : sideIoStages calls side ev r = closeStage r4 := by
    simp only [sideIoStages, noError, noHangup, Bool.or_self, Bool.false_eq_true, if_false,
      connected, filled, drained, bind, Except.bind]
  -- The session ends in the last stage or not at all.
  rcases carries_close wire _ r4 carries4 with
    ⟨r5, ended, carries5, received5⟩ | ⟨r5, ended, carries5, received5, done⟩
  · refine ⟨r5, got, carries5, ?_, Or.inl ?_⟩
    · rw [received5, received4, received3, received2, received1]
    · rw [handleSideIo, chain, ended]
  · refine ⟨r5, got, carries5, ?_, Or.inr ⟨?_, done⟩⟩
    · rw [received5, received4, received3, received2, received1]
    · rw [handleSideIo, chain, ended]

end RyzenBuild.Proxy
