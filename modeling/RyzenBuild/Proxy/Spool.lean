import RyzenBuild.Kernel
import RyzenBuild.Lib.Labelled
import RyzenBuild.Proxy.Descriptors

/-!
What `session_emit_artifact` leaves of a session that is closed: the bytes of the
two buffers behind each other in one file, named after the session. The sizes are
cut so that the merged buffer holds both.
-/
namespace RyzenBuild.Proxy

open Kernel Memory Digits

def pathMax : Nat := 4096

/-- What the file system answers: `ensure_dir`, `fopen`, the count of `fwrite`, and
how much of that the stream has put into the file when it is closed. -/
structure DiskAnswer where
  dir : Bool
  opened : Bool
  written : Nat
  flushed : Nat

/-- The files of the spool directory and beside it, by path. -/
abbrev Files := List UInt8 → Option (List UInt8)

def writeArtifactFile (disk : DiskAnswer) (files : Files) (path data : List UInt8) : Int × Files :=
  if !disk.opened then (-1, files)
  else
    -- Opened for writing: what the file held before is gone.
    let put := data.take disk.written
    -- The answer of `fclose`, which writes out what `fwrite` has taken, is not looked at.
    (if put.length ≠ data.length then -1 else 0,
      Function.update files path (some (put.take disk.flushed)))

def artifactPath (spoolDir : List UInt8) (id : UInt64) : List UInt8 :=
  (spoolDir ++ text "/session-" ++ numeral id.toNat ++ text ".bin").take (pathMax - 1)

/-- The two sizes as the function cuts them. -/
def mergedSizes (a b : Nat) : Nat × Nat :=
  if a + b > infBufferCap then
    let a := if a > infBufferCap / 2 then infBufferCap / 2 else a
    let b := if b > infBufferCap - a then infBufferCap - a else b
    (a, b)
  else (a, b)

/-- Copies `count` bytes of `b` behind the end of the merged buffer. -/
def mergeFrom (merged b : Buffer) (count : Nat) : Buffer :=
  if count = 0 then merged
  else
    { merged with
      data := store merged.data merged.stop (slice b.data b.start count)
      stop := merged.stop + count }

def mergedBuffer (s : Session) : Buffer :=
  let (a, b) := mergedSizes (bufferSize s.toUpstream) (bufferSize s.toClient)
  mergeFrom (mergeFrom Buffer.zero s.toUpstream a) s.toClient b

def sessionEmitArtifact (spoolDir : List UInt8) (disk : DiskAnswer) (files : Files) (s : Session) :
    Int × Files :=
  if !disk.dir then (-1, files)
  else
    writeArtifactFile disk files (artifactPath spoolDir s.id)
      (slice (mergedBuffer s).data 0 (mergedBuffer s).stop)

/-- The artifact of two undelivered streams. -/
def artifact (fromClient fromUpstream : List UInt8) : List UInt8 :=
  fromClient.take (mergedSizes fromClient.length fromUpstream.length).1 ++
    fromUpstream.take (mergedSizes fromClient.length fromUpstream.length).2

section Sizes

variable (a b : Nat)

theorem merged_le : (mergedSizes a b).1 ≤ a ∧ (mergedSizes a b).2 ≤ b := by
  unfold mergedSizes
  split
  · simp only
    constructor
    · split <;> omega
    · split <;> split <;> omega
  · exact ⟨Nat.le_refl a, Nat.le_refl b⟩

/-- The merged buffer has room for what is copied into it. -/
theorem merged_fit : (mergedSizes a b).1 + (mergedSizes a b).2 ≤ infBufferCap := by
  have cap : infBufferCap = 65536 := rfl
  unfold mergedSizes
  split
  · simp only
    split <;> split <;> omega
  · simp only
    omega

theorem merged_whole (room : a + b ≤ infBufferCap) : mergedSizes a b = (a, b) := by
  rw [mergedSizes, if_neg (Nat.not_lt.mpr room)]

end Sizes

theorem merge_slice (merged b : Buffer) (count : Nat) (fresh : merged.start = 0) :
    (mergeFrom merged b count).start = 0 ∧
      (mergeFrom merged b count).stop = merged.stop + count ∧
      slice (mergeFrom merged b count).data 0 (mergeFrom merged b count).stop =
        slice merged.data 0 merged.stop ++ slice b.data b.start count := by
  unfold mergeFrom
  split
  · next none =>
      subst none
      exact ⟨fresh, rfl, by simp⟩
  · refine ⟨fresh, rfl, ?_⟩
    have appended := slice_store_append merged.data 0 merged.stop (slice b.data b.start count)
    rwa [Nat.zero_add, slice_length] at appended

theorem take_window (b : Buffer) (count : Nat) (few : count ≤ bufferSize b) :
    slice b.data b.start count = (window b).take count := by
  have parts : b.stop - b.start = count + (b.stop - b.start - count) := by
    rw [bufferSize] at few
    omega
  rw [window, parts, slice_add, List.take_append_of_le_length (by simp),
    List.take_of_length_le (by simp)]

theorem window_length (b : Buffer) : (window b).length = bufferSize b := slice_length _ _ _

/-- The file gets the artifact of the two windows. -/
theorem merged_artifact (s : Session) :
    slice (mergedBuffer s).data 0 (mergedBuffer s).stop =
      artifact (window s.toUpstream) (window s.toClient) := by
  have few := merged_le (bufferSize s.toUpstream) (bufferSize s.toClient)
  obtain ⟨fresh, _, first⟩ := merge_slice Buffer.zero s.toUpstream
    (mergedSizes (bufferSize s.toUpstream) (bufferSize s.toClient)).1 rfl
  obtain ⟨_, _, second⟩ := merge_slice (mergeFrom Buffer.zero s.toUpstream
    (mergedSizes (bufferSize s.toUpstream) (bufferSize s.toClient)).1) s.toClient
    (mergedSizes (bufferSize s.toUpstream) (bufferSize s.toClient)).2 fresh
  have empty : slice Buffer.zero.data 0 Buffer.zero.stop = [] := rfl
  simp only [mergedBuffer]
  rw [second, first, empty, List.nil_append, take_window _ _ few.1, take_window _ _ few.2, artifact,
    window_length, window_length]

theorem artifact_whole (fromClient fromUpstream : List UInt8)
    (room : fromClient.length + fromUpstream.length ≤ infBufferCap) :
    artifact fromClient fromUpstream = fromClient ++ fromUpstream := by
  rw [artifact, merged_whole _ _ room]
  simp

/-- Short enough a directory leaves every session a path of its own. -/
theorem path_inj (spoolDir : List UInt8) (short : spoolDir.length ≤ 4062) (id other : UInt64)
    (same : artifactPath spoolDir id = artifactPath spoolDir other) : id = other := by
  have whole (id : UInt64) : artifactPath spoolDir id =
      spoolDir ++ text "/session-" ++ numeral id.toNat ++ text ".bin" := by
    apply List.take_of_length_le
    have digits := Labelled.numeral_length id.toNat 20 (by decide)
      (Nat.lt_trans id.toNat_lt (by decide))
    have name : (text "/session-").length = 9 := by decide
    have suffix : (text ".bin").length = 4 := by decide
    simp only [List.length_append, name, suffix, pathMax]
    omega
  rw [whole, whole, List.append_cancel_right_eq, List.append_cancel_left_eq] at same
  have values := congrArg value same
  rw [value_numeral, value_numeral] at values
  exact UInt64.toNat_inj.mp values

end RyzenBuild.Proxy
