import RyzenBuild.Proxy.Carries

/-!
What one handled event can do. It keeps the buffers tidy, so that an empty one
has all of its space behind its end. Either it gets through all stages and half
closes, or it ends the session before; until then it shuts nothing down and
reads only at its own side.
-/
namespace RyzenBuild.Proxy

/-- The indices are in order, and both are 0 when the buffer is empty. -/
structure Tidy (b : Buffer) : Prop where
  sound : Sound b
  reset : b.start = b.stop → b.stop = 0

theorem tidy_zero : Tidy Buffer.zero := ⟨sound_zero, fun _ => rfl⟩

theorem tidy_compact (b : Buffer) (sound : Sound b) : Tidy (bufferCompact b) := by
  refine ⟨(compact_sound b sound).1, ?_⟩
  have ordered := sound.ordered
  unfold bufferCompact
  split
  · intro same
    simp only at same ⊢
    omega
  · split
    · exact fun _ => rfl
    · rename_i unequal
      exact fun same => absurd same unequal

theorem tidy_read (answer : RecvAnswer) (b : Buffer) (metric : UInt64) (tidy : Tidy b) :
    Tidy (relayReadIntoBuffer answer b metric).dst := by
  have compacted := tidy_compact b tidy.sound
  refine ⟨(read_stream answer b metric tidy.sound).1, ?_⟩
  unfold relayReadIntoBuffer
  by_cases full : bufferSpace (bufferCompact b) = 0
  · simp only [full, if_true]
    exact compacted.reset
  · simp only [full, if_false]
    cases answer with
    | bytes first rest =>
        -- At least one byte lands behind the window.
        have ordered := compacted.sound.ordered
        have some : 0 < ((first :: rest).take (bufferSpace (bufferCompact b))).length := by
          simp only [List.length_take, List.length_cons]
          omega
        intro same
        simp only at same
        omega
    | eof | again | error => exact compacted.reset

theorem tidy_write (answer : SendAnswer) (b : Buffer) (tidy : Tidy b) :
    Tidy (relayWriteFromBuffer answer b).src := by
  refine ⟨(write_stream answer b tidy.sound).1, ?_⟩
  unfold relayWriteFromBuffer
  by_cases empty : bufferEmpty b = true
  · simp only [empty, if_true]
    exact tidy.reset
  · simp only [empty, Bool.false_eq_true, if_false]
    cases answer with
    | sent count =>
        by_cases some : min count (bufferSize b) > 0
        · simp only [some, if_true]
          by_cases drained : b.start + min count (bufferSize b) = b.stop
          · simp [drained]
          · intro same
            rw [if_neg drained] at same
            exact absurd same drained
        · simp only [some, if_false]
          exact tidy.reset
    | again | error => exact tidy.reset

def TidyRelay (r : Relay) : Prop := ∀ side, Tidy (r.session.inbuf side)

theorem tidy_congr (r r' : Relay) (tidy : TidyRelay r)
    (buffers : ∀ side, r'.session.inbuf side = r.session.inbuf side) : TidyRelay r' := by
  intro side
  rw [buffers]
  exact tidy side

theorem tidy_moves (side : Side) : KeptByMoves side TidyRelay where
  connected r tidy := tidy_congr r _ tidy fun d => by cases d <;> rfl
  read r answer tidy := by
    intro d
    simp only [relayRead, setInbuf_inbuf]
    split
    · exact tidy_read _ _ _ (tidy side)
    · exact tidy d
  ended r tidy := tidy_congr r _ tidy fun d => by simp [markEof]
  written r answer tidy := by
    intro d
    simp only [relayWrite, setInbuf_inbuf]
    split
    · exact tidy_write _ _ (tidy side.other)
    · exact tidy d
  halfClosed r tidy := tidy_congr r _ tidy fun d => half_close_inbuf _ d
  failed r _ _ _ tidy := tidy_congr r _ tidy fun _ => rfl
  refreshed r _ tidy := tidy_congr r _ tidy fun _ => rfl

theorem tidy_touched (r : Relay) (now : Int) (tidy : TidyRelay r) :
    TidyRelay { r with session := { r.session with lastActivity := now } } :=
  tidy_congr r _ tidy fun d => by cases d <;> rfl

theorem tidy_sideIo (calls : Calls) (side : Side) (ev : Events) (r : Relay) (tidy : TidyRelay r) :
    TidyRelay (handleSideIo calls side ev r).2 :=
  sideIo_kept _ calls side ev r (tidy_moves side) (tidy_touched r calls.now tidy)

theorem read_keeps_bytes (answer : RecvAnswer) (b : Buffer) (metric : UInt64) (sound : Sound b)
    (filled : bufferEmpty b = false) :
    bufferEmpty (relayReadIntoBuffer answer b metric).dst = false := by
  have ordered := sound.ordered
  simp only [bufferEmpty, beq_eq_false_iff_ne] at filled ⊢
  have compacted : (bufferCompact b).start < (bufferCompact b).stop := by
    unfold bufferCompact
    split
    · simp only
      omega
    · omega
  unfold relayReadIntoBuffer
  simp only
  split
  · exact Nat.ne_of_lt compacted
  · cases answer with
    | bytes first rest =>
        simp only
        omega
    | eof | again | error => exact Nat.ne_of_lt compacted

theorem write_keeps_empty (answer : SendAnswer) (b : Buffer) (empty : bufferEmpty b = true) :
    relayWriteFromBuffer answer b = ⟨0, b, []⟩ := by
  simp [relayWriteFromBuffer, empty]

/-- What an event at a side does to the session before it considers a half
close: it shuts nothing down, reads only at its own side and, at an upstream
that stays connecting, writes nothing. -/
structure BeforeClose (side : Side) (ev : Events) (s s' : Session) : Prop where
  shut : ∀ d, (s'.peer d).writeShutdown = (s.peer d).writeShutdown
  otherEof : (s'.peer side.other).readEof = (s.peer side.other).readEof
  eof : (s.peer side).readEof = true → (s'.peer side).readEof = true
  unread : ev.epollin = false → s'.inbuf side = s.inbuf side
  filled : bufferEmpty (s.inbuf side) = false → bufferEmpty (s'.inbuf side) = false
  drained : bufferEmpty (s.inbuf side.other) = true → s'.inbuf side.other = s.inbuf side.other
  connected : s.upstream.connecting = false → s'.upstream.connecting = false
  pending : side = .upstream → s'.upstream.connecting = true →
    s'.inbuf side.other = s.inbuf side.other

theorem before_refl (side : Side) (ev : Events) (s : Session) : BeforeClose side ev s s where
  shut _ := rfl
  otherEof := rfl
  eof := id
  unread _ := rfl
  filled := id
  drained _ := rfl
  connected := id
  pending _ _ := rfl

theorem before_trans (side : Side) (ev : Events) (s₁ s₂ s₃ : Session)
    (first : BeforeClose side ev s₁ s₂) (second : BeforeClose side ev s₂ s₃) :
    BeforeClose side ev s₁ s₃ where
  shut d := (second.shut d).trans (first.shut d)
  otherEof := second.otherEof.trans first.otherEof
  eof ended := second.eof (first.eof ended)
  unread quiet := (second.unread quiet).trans (first.unread quiet)
  filled bytes := second.filled (first.filled bytes)
  drained empty := by
    have kept := first.drained empty
    exact (second.drained (by rw [kept]; exact empty)).trans kept
  connected completed := second.connected (first.connected completed)
  pending upstream still := by
    -- The connect was not over in between either.
    have between : s₂.upstream.connecting = true := by
      rw [← Bool.not_eq_false]
      intro completed
      rw [second.connected completed] at still
      cases still
    exact (second.pending upstream still).trans (first.pending upstream between)

theorem before_touch (side : Side) (ev : Events) (s : Session) (now : Int) :
    BeforeClose side ev s { s with lastActivity := now } := by
  cases side <;> exact
    { shut := fun d => by cases d <;> rfl
      otherEof := rfl
      eof := id
      unread := fun _ => rfl
      filled := id
      drained := fun _ => rfl
      connected := id
      pending := fun _ _ => rfl }

section Stages

variable (calls : Calls) (side : Side) (ev : Events) (r : Relay)

theorem before_connect :
    Settles (fun r' => BeforeClose side ev r.session r'.session)
      (connectStage calls side ev r) := by
  unfold connectStage
  split
  · cases completed : handleConnectComplete calls.soError r.session with
    | none => exact before_refl side ev r.session
    | some s =>
        rcases connect_complete_cases _ _ _ completed with rfl | rfl
        · exact before_refl side ev r.session
        · cases side <;> exact
            { shut := fun d => by cases d <;> rfl
              otherEof := rfl
              eof := id
              unread := fun _ => rfl
              filled := id
              drained := fun _ => rfl
              connected := fun _ => rfl
              pending := fun _ _ => rfl }
  · exact before_refl side ev r.session

theorem before_eof : BeforeClose side ev r.session (markEof side r).session := by
  cases side <;> exact
    { shut := fun d => by cases d <;> rfl
      otherEof := rfl
      eof := fun _ => rfl
      unread := fun _ => rfl
      filled := id
      drained := fun _ => rfl
      connected := id
      pending := fun _ _ => rfl }

theorem before_read (sound : Sound (r.session.inbuf side)) :
    Settles (fun r' => BeforeClose side ev r.session r'.session) (readStage calls side ev r) := by
  unfold readStage
  by_cases readable : ev.epollin = true
  · have kept := read_keeps_bytes calls.recv (r.session.inbuf side) (r.metrics.bytes side) sound
    have moved : BeforeClose side ev r.session (relayRead calls.recv side r).2.session := by
      cases side <;> exact
        { shut := fun d => by cases d <;> rfl
          otherEof := rfl
          eof := id
          unread := fun quiet => by rw [readable] at quiet; cases quiet
          filled := kept
          drained := fun _ => rfl
          connected := id
          pending := fun _ _ => rfl }
    simp only [readable, if_true]
    split
    · split
      · exact before_trans side ev _ _ _ moved (before_eof side ev _)
      · exact moved
    · exact moved
  · simp only [readable]
    exact before_refl side ev r.session

theorem before_hangup : BeforeClose side ev r.session (hangupStage side ev r).session := by
  unfold hangupStage
  split
  · exact before_eof side ev r
  · exact before_refl side ev r.session

theorem before_write :
    Settles (fun r' => BeforeClose side ev r.session r'.session) (writeStage calls side ev r) := by
  unfold writeStage
  by_cases writes : ev.epollout = true ∧
      ¬ (side = .upstream ∧ (r.session.peer side).connecting = true)
  · have kept := write_keeps_empty calls.send (r.session.inbuf side.other)
    have moved : BeforeClose side ev r.session (relayWrite calls.send side.other r).2.session := by
      cases side with
      | client => exact
          { shut := fun d => by cases d <;> rfl
            otherEof := rfl
            eof := id
            unread := fun _ => rfl
            filled := id
            drained := fun empty => congrArg WriteResult.src (kept empty)
            connected := id
            pending := fun upstream => by cases upstream }
      | upstream => exact
          { shut := fun d => by cases d <;> rfl
            otherEof := rfl
            eof := id
            unread := fun _ => rfl
            filled := id
            drained := fun empty => congrArg WriteResult.src (kept empty)
            connected := id
            pending := fun _ still => absurd ⟨rfl, still⟩ writes.2 }
    simp only [writes, not_false_eq_true, and_self, if_true]
    split
    · exact moved
    · exact moved
  · simp only [writes, if_false]
    exact before_refl side ev r.session

/-- The event gets as far as the half close, which then starts from `r'`. -/
def Reaches (r' : Relay) : Prop :=
  ∃ r₁ r₂, ev.epollerr = false ∧ ev.epollhup = false ∧
    connectStage calls side ev
      { r with session := { r.session with lastActivity := calls.now } } = .ok r₁ ∧
    readStage calls side ev r₁ = .ok r₂ ∧
    writeStage calls side ev (hangupStage side ev r₂) = .ok r'

theorem reaches_stages (r' : Relay) (reaches : Reaches calls side ev r r') :
    sideIoStages calls side ev r = closeStage r' := by
  obtain ⟨r₁, r₂, noError, noHangup, connect, read, write⟩ := reaches
  simp only [sideIoStages, noError, noHangup, Bool.or_self, Bool.false_eq_true, if_false, connect,
    bind, Except.bind, read, write]

/-- Either the event reaches the half close, or it ends the session before. -/
theorem sideIo_cases (tidy : TidyRelay r) :
    (∃ r', Reaches calls side ev r r' ∧ BeforeClose side ev r.session r'.session) ∨
      ∃ r', handleSideIo calls side ev r = (false, r') ∧
        BeforeClose side ev r.session r'.session := by
  have touched := before_touch side ev r.session calls.now
  have stops (r' : Relay) (ended : sideIoStages calls side ev r = .error r') :
      handleSideIo calls side ev r = (false, r') := by
    simp only [handleSideIo, ended]
  by_cases calm : ev.epollerr = false ∧ ev.epollhup = false
  · have stages : sideIoStages calls side ev r = (do
        let r₁ ← connectStage calls side ev
          { r with session := { r.session with lastActivity := calls.now } }
        let r₂ ← readStage calls side ev r₁
        let r₃ ← writeStage calls side ev (hangupStage side ev r₂)
        closeStage r₃) := by
      simp only [sideIoStages, calm, Bool.or_self, Bool.false_eq_true, if_false]
    have connects := before_connect calls side ev
      { r with session := { r.session with lastActivity := calls.now } }
    have connectTidy := kept_connect TidyRelay calls side ev _ (tidy_moves side)
      (tidy_touched r calls.now tidy)
    cases connect : connectStage calls side ev
        { r with session := { r.session with lastActivity := calls.now } } with
    | error r' =>
        rw [connect] at connects stages
        exact Or.inr ⟨r', stops r' stages, before_trans side ev _ _ _ touched connects⟩
    | ok r₁ =>
        rw [connect] at connects connectTidy stages
        have first := before_trans side ev _ _ _ touched connects
        have reads := before_read calls side ev r₁ (connectTidy side).sound
        cases read : readStage calls side ev r₁ with
        | error r' =>
            rw [read] at reads
            refine Or.inr ⟨r', stops r' (stages.trans ?_), before_trans side ev _ _ _ first reads⟩
            simp only [bind, Except.bind, read]
        | ok r₂ =>
            rw [read] at reads
            have second := before_trans side ev _ _ _ (before_trans side ev _ _ _ first reads)
              (before_hangup side ev r₂)
            have writes := before_write calls side ev (hangupStage side ev r₂)
            cases write : writeStage calls side ev (hangupStage side ev r₂) with
            | error r' =>
                rw [write] at writes
                refine Or.inr ⟨r', stops r' (stages.trans ?_),
                  before_trans side ev _ _ _ second writes⟩
                simp only [bind, Except.bind, read, write]
            | ok r₃ =>
                rw [write] at writes
                exact Or.inl ⟨r₃, ⟨r₁, r₂, calm.1, calm.2, connect, read, write⟩,
                  before_trans side ev _ _ _ second writes⟩
  · refine Or.inr ⟨_, stops { r with session := { r.session with lastActivity := calls.now } } ?_,
      touched⟩
    have aborts : (ev.epollerr || ev.epollhup) = true := by
      cases error : ev.epollerr with
      | true => rfl
      | false =>
          cases hangup : ev.epollhup with
          | true => rfl
          | false => exact absurd ⟨error, hangup⟩ calm
    simp only [sideIoStages, aborts, if_true]

theorem reaches_session (r' : Relay) (reaches : Reaches calls side ev r r') :
    (handleSideIo calls side ev r).2.session = sessionConsiderHalfClose r'.session := by
  simp only [handleSideIo, reaches_stages calls side ev r r' reaches, closeStage]
  cases done : sessionFullyDone (sessionConsiderHalfClose r'.session) with
  | true => simp
  | false => simp

end Stages

/-- Up to the write a client's event leaves the upstream and the bytes from it alone. -/
theorem read_others (calls : Calls) (side : Side) (ev : Events) (r r' : Relay)
    (read : readStage calls side ev r = .ok r') :
    (hangupStage side ev r').session.peer side.other = r.session.peer side.other ∧
      (hangupStage side ev r').session.inbuf side.other = r.session.inbuf side.other := by
  have marked (q : Relay) : (markEof side q).session.peer side.other = q.session.peer side.other ∧
      (markEof side q).session.inbuf side.other = q.session.inbuf side.other := by
    simp [markEof, setPeer_peer]
  have moved : (relayRead calls.recv side r).2.session.peer side.other =
        r.session.peer side.other ∧
      (relayRead calls.recv side r).2.session.inbuf side.other = r.session.inbuf side.other := by
    simp [relayRead, setInbuf_inbuf]
  have readOnly : r'.session.peer side.other = r.session.peer side.other ∧
      r'.session.inbuf side.other = r.session.inbuf side.other := by
    unfold readStage at read
    split at read
    · simp only at read
      split at read
      · split at read
        · cases read
          exact ⟨(marked _).1.trans moved.1, (marked _).2.trans moved.2⟩
        · cases read
      · cases read
        exact moved
    · cases read
      exact ⟨rfl, rfl⟩
  unfold hangupStage
  split
  · exact ⟨(marked r').1.trans readOnly.1, (marked r').2.trans readOnly.2⟩
  · exact readOnly

theorem write_session (calls : Calls) (side : Side) (ev : Events) (r r' : Relay)
    (written : writeStage calls side ev r = .ok r') (d : Side) :
    r'.session.peer d = r.session.peer d ∧ r'.session.inbuf side = r.session.inbuf side := by
  unfold writeStage at written
  split at written
  · simp only at written
    split at written
    · cases written
    · cases written
      refine ⟨by simp [relayWrite], ?_⟩
      have apart : side ≠ side.other := (other_ne side).symm
      simp [relayWrite, setInbuf_inbuf, apart]
  · cases written
    exact ⟨rfl, rfl⟩

theorem reaches_upstream (calls : Calls) (ev : Events) (r r' : Relay)
    (reaches : Reaches calls .client ev r r') : r'.session.upstream = r.session.upstream := by
  obtain ⟨r₁, r₂, _, _, connect, read, write⟩ := reaches
  cases connect
  have last := (write_session calls .client ev _ _ write .upstream).1
  exact last.trans (read_others calls .client ev _ _ read).1

theorem half_close_connecting (s : Session) :
    (sessionConsiderHalfClose s).upstream.connecting = s.upstream.connecting := by
  have shutdown (p : Peer) : (peerShutdownWrite p).connecting = p.connecting := by
    unfold peerShutdownWrite
    split <;> rfl
  have upstream : (sessionConsiderHalfClose s).upstream =
      if s.client.readEof && bufferEmpty s.toUpstream then peerShutdownWrite s.upstream
      else s.upstream := half_close_peer s .client
  rw [upstream]
  by_cases passes : (s.client.readEof && bufferEmpty s.toUpstream) = true
  · rw [if_pos passes]
    exact shutdown s.upstream
  · rw [if_neg passes]

/-- An ended and drained stream is passed on by the half close. -/
theorem half_close_passes (s : Session) (d : Side) (held : (s.peer d.other).fd.isSome = true)
    (ended : (s.peer d).readEof = true) (empty : bufferEmpty (s.inbuf d) = true) :
    ((sessionConsiderHalfClose s).peer d.other).writeShutdown = true := by
  rw [half_close_peer, ended, empty]
  simp only [Bool.and_self, if_true, peerShutdownWrite, held, Bool.true_and]
  cases shut : (s.peer d.other).writeShutdown with
  | true => simp [shut]
  | false => simp

end RyzenBuild.Proxy
