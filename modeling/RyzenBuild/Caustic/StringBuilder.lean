import RyzenBuild.Lib.Memory
import RyzenBuild.Lib.Trace
import RyzenBuild.Caustic.Payload

/-!
The string buffer of `caustic.c` in memory. An attempt that does not fit leaves
a cut text over the old terminator; the attempt after the growth writes over
it. The buffer the payload is modelled with is the text in front of `len`.
-/
namespace RyzenBuild.StringBuilder

open Memory

/-- `data` is what the pointer points to, also behind the allocation. -/
structure StrBuf where
  data : Nat → UInt8
  len : Nat
  cap : Nat

/-- At most `size` bytes with the terminator, and the full length. -/
def vsnprintf (mem : Nat → UInt8) (start size : Nat) (printed : List UInt8) :
    (Nat → UInt8) × Nat :=
  (if size = 0 then mem else store mem start (printed.take (size - 1) ++ [0]), printed.length)

variable (fresh : Nat → Nat → UInt8)

/-- The old bytes in a new allocation, whose other bytes are what they are. -/
def realloc (mem : Nat → UInt8) (cap newCap : Nat) : Nat → UInt8 :=
  fun i => if i < cap then mem i else fresh newCap i

def sbInit (cap : Nat) : StrBuf := ⟨store (fresh cap) 0 [0], 0, cap⟩

/-- The buffer with the bytes of the failed attempt, for another attempt of
length `n`. -/
def sbGrow (sb : StrBuf) (written : Nat → UInt8) (n : Nat) : StrBuf :=
  let newCap := sb.cap * 2 + n + 64
  ⟨realloc fresh written sb.cap newCap, sb.len, newCap⟩

/-- The buffer, and how often it grew. -/
def sbAppendf (sb : StrBuf) (printed : List UInt8) : StrBuf × Nat :=
  let written := (vsnprintf sb.data sb.len (sb.cap - sb.len) printed).1
  let n := (vsnprintf sb.data sb.len (sb.cap - sb.len) printed).2
  if n < sb.cap - sb.len then (⟨written, sb.len + n, sb.cap⟩, 0)
  else
    let grown := sbAppendf (sbGrow fresh sb written n) printed
    (grown.1, grown.2 + 1)
termination_by printed.length + sb.len + 1 - sb.cap
decreasing_by
  have full : ¬printed.length < sb.cap - sb.len := ‹_›
  simp only [sbGrow, vsnprintf]
  omega

/-- What an attempt at the end of the buffer leaves. -/
def attempt (sb : StrBuf) (printed : List UInt8) : Nat → UInt8 :=
  (vsnprintf sb.data sb.len (sb.cap - sb.len) printed).1

theorem sbAppendf_fits (sb : StrBuf) (printed : List UInt8)
    (fits : printed.length < sb.cap - sb.len) :
    sbAppendf fresh sb printed = (⟨attempt sb printed, sb.len + printed.length, sb.cap⟩, 0) := by
  rw [sbAppendf]
  exact if_pos fits

theorem sbAppendf_full (sb : StrBuf) (printed : List UInt8)
    (full : ¬printed.length < sb.cap - sb.len) :
    sbAppendf fresh sb printed =
      ((sbAppendf fresh (sbGrow fresh sb (attempt sb printed) printed.length) printed).1,
        (sbAppendf fresh (sbGrow fresh sb (attempt sb printed) printed.length) printed).2 + 1) := by
  conv_lhs => rw [sbAppendf]
  exact if_neg full

/-- The text in front of `len`, as the payload's buffer has it. -/
structure Keeps (sb : StrBuf) (text : Caustic.StrBuf) : Prop where
  len : sb.len = text.data.length
  cap : sb.cap = text.cap
  content : slice sb.data 0 sb.len = text.data

/-- With the terminator behind it. -/
structure Holds (sb : StrBuf) (text : Caustic.StrBuf) : Prop extends Keeps sb text where
  ended : sb.data sb.len = 0

theorem Keeps.room {sb : StrBuf} {text : Caustic.StrBuf} (keeps : Keeps sb text) :
    sb.len < sb.cap := by
  rw [keeps.len, keeps.cap]
  exact text.room

/-- A text that fits stands behind the old one, with its terminator. -/
theorem vsnprintf_fits (mem : Nat → UInt8) (start size : Nat) (printed : List UInt8)
    (fits : printed.length < size) :
    slice (vsnprintf mem start size printed).1 0 (start + printed.length) =
        slice mem 0 start ++ printed ∧
      (vsnprintf mem start size printed).1 (start + printed.length) = 0 := by
  have sized : size ≠ 0 := Nat.ne_zero_of_lt fits
  have whole : printed.take (size - 1) = printed := List.take_of_length_le (by omega)
  simp only [vsnprintf, if_neg sized, whole]
  constructor
  · rw [← store_append, slice_store_before _ _ _ _ _ (by omega)]
    have appended := slice_store_append mem 0 start printed
    rwa [Nat.zero_add] at appended
  · rw [store_inside _ _ _ _ (by simp)]
    simp

/-- One that does not fit leaves what stands in front of it. -/
theorem vsnprintf_before (mem : Nat → UInt8) (start size : Nat) (printed : List UInt8) :
    slice (vsnprintf mem start size printed).1 0 start = slice mem 0 start := by
  unfold vsnprintf
  split
  · rfl
  · exact slice_store_before _ _ _ _ _ (by omega)

theorem keeps_grown (sb : StrBuf) (text : Caustic.StrBuf) (printed : List UInt8)
    (keeps : Keeps sb text) :
    Keeps (sbGrow fresh sb (attempt sb printed) printed.length)
      (Caustic.sbGrow text printed.length) where
  len := keeps.len
  cap := congrArg (· * 2 + printed.length + 64) keeps.cap
  content := by
    have before := vsnprintf_before sb.data sb.len (sb.cap - sb.len) printed
    refine Eq.trans ?_ (before.trans keeps.content)
    apply slice_shift
    intro k (inside : k < sb.len)
    have room := keeps.room
    exact if_pos (by omega)

/-- The buffer in memory follows the buffer of the payload, attempt by attempt. -/
theorem append_holds (sb : StrBuf) (text : Caustic.StrBuf) (printed : List UInt8)
    (keeps : Keeps sb text) :
    Holds (sbAppendf fresh sb printed).1 (Caustic.sbAppendf text printed) := by
  induction text using Caustic.sbAppendf.induct printed generalizing sb with
  | case1 text fits =>
      have room : printed.length < sb.cap - sb.len := by rwa [keeps.cap, keeps.len]
      obtain ⟨content, ended⟩ := vsnprintf_fits sb.data sb.len (sb.cap - sb.len) printed room
      rw [sbAppendf_fits fresh sb printed room, Caustic.sbAppendf, dif_pos fits]
      refine ⟨⟨?_, keeps.cap, ?_⟩, ended⟩
      · rw [List.length_append, ← keeps.len]
      · exact content.trans (congrArg (· ++ printed) keeps.content)
  | case2 text full ih =>
      have short : ¬printed.length < sb.cap - sb.len := by rwa [keeps.cap, keeps.len]
      rw [sbAppendf_full fresh sb printed short, Caustic.sbAppendf, dif_neg full]
      exact ih _ (keeps_grown fresh sb text printed keeps)

/-- The growth makes room for the text, so the second attempt is the last. -/
theorem growths_le (sb : StrBuf) (printed : List UInt8) (room : sb.len < sb.cap) :
    (sbAppendf fresh sb printed).2 ≤ 1 := by
  by_cases fits : printed.length < sb.cap - sb.len
  · rw [sbAppendf_fits fresh sb printed fits]
    exact Nat.zero_le 1
  · have roomy : printed.length < sb.cap * 2 + printed.length + 64 - sb.len := by omega
    rw [sbAppendf_full fresh sb printed fits, sbAppendf_fits _ _ _ roomy]

/-- A buffer and the texts appended so far. -/
structure Log where
  sb : StrBuf
  results : List (List UInt8)
  growths : Nat

def Log.start (cap : Nat) : Log := ⟨sbInit fresh cap, [], 0⟩

/-- `growths` is of the last call. -/
def Log.append (log : Log) (printed : List UInt8) : Log :=
  let (sb, growths) := sbAppendf fresh log.sb printed
  ⟨sb, log.results ++ [printed], growths⟩

/-- The payload's buffer with all the results. -/
def Log.Follows (log : Log) : Prop :=
  ∃ text : Caustic.StrBuf, text.data = log.results.flatten ∧ Holds log.sb text ∧ log.growths ≤ 1

theorem start_follows (cap : Nat) (positive : 0 < cap) : (Log.start fresh cap).Follows := by
  refine ⟨Caustic.sbInit cap positive, rfl, ⟨⟨rfl, rfl, rfl⟩, ?_⟩, Nat.zero_le 1⟩
  exact store_inside (fresh cap) 0 0 [0] Nat.zero_lt_one

theorem append_follows (log : Log) (printed : List UInt8) (follows : log.Follows) :
    (log.append fresh printed).Follows := by
  obtain ⟨text, whole, holds, _⟩ := follows
  refine ⟨Caustic.sbAppendf text printed, ?_, append_holds fresh _ _ _ holds.toKeeps,
    growths_le fresh _ _ holds.room⟩
  rw [Caustic.data_sbAppendf, whole, Log.append, List.flatten_append, List.flatten_singleton]

theorem run_results (log : Log) (calls : List (List UInt8)) :
    (Trace.run (Log.append fresh) log calls).results = log.results ++ calls := by
  induction calls generalizing log with
  | nil => exact (List.append_nil _).symm
  | cons printed rest ih =>
      rw [Trace.run_cons, ih, Log.append, List.append_assoc, List.singleton_append]

/-- After every call the buffer holds the results up to it, with the terminator
inside the allocation; a call grows the buffer at most once. -/
theorem builder_concatenates (cap : Nat) (calls : List (List UInt8)) (positive : 0 < cap) :
    Trace.Always (Log.append fresh)
        (fun log => log.sb.len < log.sb.cap ∧ log.sb.data log.sb.len = 0 ∧
          slice log.sb.data 0 log.sb.len = log.results.flatten ∧ log.growths ≤ 1)
        (Log.start fresh cap) calls ∧
      (Trace.run (Log.append fresh) (Log.start fresh cap) calls).results = calls := by
  constructor
  · apply Trace.always_mono _ Log.Follows
    · rintro log ⟨text, whole, holds, once⟩
      exact ⟨holds.room, holds.ended, holds.content.trans whole, once⟩
    · exact Trace.always_of_invariant _ _ (append_follows fresh) _ _
        (start_follows fresh cap positive)
  · exact run_results fresh (Log.start fresh cap) calls

/-- Two bytes exactly fill a buffer of three; three bytes make it grow. -/
theorem builder_fills_and_grows :
    Trace.Always (Log.append fun _ _ => 7)
        (fun log => log.sb.len < log.sb.cap ∧ log.sb.data log.sb.len = 0 ∧
          slice log.sb.data 0 log.sb.len = log.results.flatten ∧ log.growths ≤ 1)
        (Log.start (fun _ _ => 7) 3) [[65, 66], [67, 68, 69]] ∧
      (Trace.run (Log.append fun _ _ => 7) (Log.start (fun _ _ => 7) 3)
        [[65, 66], [67, 68, 69]]).results = [[65, 66], [67, 68, 69]] :=
  builder_concatenates (fun _ _ => 7) 3 [[65, 66], [67, 68, 69]] (by decide)

end RyzenBuild.StringBuilder
