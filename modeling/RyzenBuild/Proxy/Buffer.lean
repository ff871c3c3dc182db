import RyzenBuild.Lib.Memory

/-!
The relay buffer of `infinity.c` and the two calls that move bytes between it
and a socket. What the kernel answers to `recv` and `send` is an argument: a
transfer is clipped to the space or to the bytes the call offers.
-/
namespace RyzenBuild.Proxy

open Memory

def infBufferCap : Nat := 65536

structure Buffer where
  data : Nat → UInt8
  start : Nat
  stop : Nat

def Buffer.zero : Buffer := ⟨fun _ => 0, 0, 0⟩

def bufferEmpty (b : Buffer) : Bool := b.start == b.stop
def bufferSize (b : Buffer) : Nat := b.stop - b.start
def bufferSpace (b : Buffer) : Nat := infBufferCap - b.stop

def bufferCompact (b : Buffer) : Buffer :=
  if b.start > 0 ∧ b.start ≠ b.stop then
    { data := memmove b.data 0 b.start (b.stop - b.start), start := 0, stop := b.stop - b.start }
  else if b.start = b.stop then { b with start := 0, stop := 0 }
  else b

/-- `recv`: at least one byte, an orderly end, `EAGAIN`/`EINTR`, or an error. -/
inductive RecvAnswer where
  | bytes (first : UInt8) (rest : List UInt8)
  | eof
  | again
  | error

/-- `send`: a number of bytes, `EAGAIN`/`EINTR`, or an error. -/
inductive SendAnswer where
  | sent (count : Nat)
  | again
  | error

structure ReadResult where
  rc : Int
  dst : Buffer
  metricBytes : UInt64
  got : List UInt8

def relayReadIntoBuffer (answer : RecvAnswer) (dst : Buffer) (metricBytes : UInt64) :
    ReadResult :=
  let dst := bufferCompact dst
  if bufferSpace dst = 0 then ⟨0, dst, metricBytes, []⟩
  else
    match answer with
    | .bytes first rest =>
        -- The call offers the space behind `stop`, all that is free after the compaction.
        let got := (first :: rest).take (bufferSpace dst)
        ⟨1, { dst with data := store dst.data dst.stop got, stop := dst.stop + got.length },
          metricBytes + UInt64.ofNat got.length, got⟩
    | .eof => ⟨-2, dst, metricBytes, []⟩
    | .again => ⟨0, dst, metricBytes, []⟩
    | .error => ⟨-1, dst, metricBytes, []⟩

structure WriteResult where
  rc : Int
  src : Buffer
  put : List UInt8

def relayWriteFromBuffer (answer : SendAnswer) (src : Buffer) : WriteResult :=
  if bufferEmpty src then ⟨0, src, []⟩
  else
    match answer with
    | .sent count =>
        let n := min count (bufferSize src)
        if n > 0 then
          let put := slice src.data src.start n
          let start := src.start + n
          if start = src.stop then ⟨1, { src with start := 0, stop := 0 }, put⟩
          else ⟨1, { src with start := start }, put⟩
        else ⟨-1, src, []⟩
    | .again => ⟨0, src, []⟩
    | .error => ⟨-1, src, []⟩

/-- The bytes between the two indices, oldest first. -/
def window (b : Buffer) : List UInt8 := slice b.data b.start (b.stop - b.start)

structure Sound (b : Buffer) : Prop where
  ordered : b.start ≤ b.stop
  within : b.stop ≤ infBufferCap

theorem sound_zero : Sound Buffer.zero := ⟨Nat.le_refl 0, Nat.zero_le _⟩

@[simp] theorem window_zero : window Buffer.zero = [] := rfl

theorem window_of_empty (b : Buffer) (empty : bufferEmpty b = true) : window b = [] := by
  have same : b.start = b.stop := by simpa [bufferEmpty] using empty
  simp [window, same]

/-- Compaction moves the window to the front and changes nothing else. -/
theorem compact_sound (b : Buffer) (sound : Sound b) :
    Sound (bufferCompact b) ∧ window (bufferCompact b) = window b := by
  unfold bufferCompact
  split
  · refine ⟨⟨Nat.zero_le _, (Nat.sub_le _ _).trans sound.within⟩, ?_⟩
    exact slice_memmove b.data 0 b.start (b.stop - b.start)
  · split
    · rename_i same
      exact ⟨⟨Nat.le_refl 0, Nat.zero_le _⟩, by simp [window, same]⟩
    · exact ⟨sound, rfl⟩

/-- A read appends what it got behind the window and counts it. -/
theorem read_stream (answer : RecvAnswer) (b : Buffer) (metric : UInt64) (sound : Sound b) :
    Sound (relayReadIntoBuffer answer b metric).dst ∧
      window (relayReadIntoBuffer answer b metric).dst =
        window b ++ (relayReadIntoBuffer answer b metric).got ∧
      (relayReadIntoBuffer answer b metric).metricBytes =
        metric + UInt64.ofNat (relayReadIntoBuffer answer b metric).got.length := by
  obtain ⟨compacted, same⟩ := compact_sound b sound
  unfold relayReadIntoBuffer
  by_cases full : bufferSpace (bufferCompact b) = 0
  · simp [full, compacted, same]
  · cases answer with
    | bytes first rest =>
        simp only [full, if_false]
        generalize chunk : (first :: rest).take (bufferSpace (bufferCompact b)) = got
        have fits : got.length ≤ bufferSpace (bufferCompact b) := by
          rw [← chunk, List.length_take]
          exact Nat.min_le_left _ _
        have ordered := compacted.ordered
        have within := compacted.within
        refine ⟨⟨by simp only; omega, ?_⟩, ?_, trivial⟩
        · simp only [bufferSpace] at fits ⊢
          omega
        · -- The chunk lands right behind the window of the compacted buffer.
          have appended := slice_store_append (bufferCompact b).data (bufferCompact b).start
            ((bufferCompact b).stop - (bufferCompact b).start) got
          rw [Nat.add_sub_cancel' ordered] at appended
          rw [← same]
          simp only [window]
          rw [← appended]
          congr 1
          omega
    | eof => simp [full, compacted, same]
    | again => simp [full, compacted, same]
    | error => simp [full, compacted, same]

/-- A write takes what it put from the front of the window. -/
theorem write_stream (answer : SendAnswer) (b : Buffer) (sound : Sound b) :
    Sound (relayWriteFromBuffer answer b).src ∧
      (relayWriteFromBuffer answer b).put ++ window (relayWriteFromBuffer answer b).src =
        window b := by
  unfold relayWriteFromBuffer
  by_cases empty : bufferEmpty b = true
  · simp [empty, sound]
  · simp only [empty, Bool.false_eq_true, if_false]
    cases answer with
    | sent count =>
        have ordered := sound.ordered
        have within := sound.within
        by_cases some : min count (bufferSize b) > 0
        · have limit : min count (bufferSize b) ≤ b.stop - b.start := Nat.min_le_right _ _
          simp only [some, if_true]
          generalize min count (bufferSize b) = n at some limit ⊢
          by_cases drained : b.start + n = b.stop
          · -- Exactly drained: both indices go back to 0 and the window is empty.
            have whole : n = b.stop - b.start := by omega
            simp only [drained, if_true]
            refine ⟨⟨Nat.le_refl 0, Nat.zero_le _⟩, ?_⟩
            rw [whole]
            simp [window]
          · have parts : b.stop - b.start = n + (b.stop - (b.start + n)) := by omega
            simp only [drained, if_false]
            refine ⟨⟨by simp only; omega, within⟩, ?_⟩
            simp only [window]
            rw [parts, slice_add]
        · simp [some, sound]
    | again => simp [sound]
    | error => simp [sound]

end RyzenBuild.Proxy
