import RyzenBuild.DawnHex.Dispatch

/-!
What a write to `/dev/dawnhex` says it has done. The handler runs at most one
command, that of the first line as the copy of 127 bytes has it; the count it
returns is that of the caller's whole buffer.
-/
namespace RyzenBuild.DawnHex

open Kernel

/-- `kbuf`, up to its terminator. -/
def kernelBuffer (buf : List UInt8) : List UInt8 :=
  (buf.take 127).map fun byte => if byte = 10 then 0 else byte

/-- The cluster with the commands that were run on it. -/
structure Logged where
  cluster : State
  executed : List Command

def Logged.handle (l : Logged) (cmd : List UInt8) : Logged × Option Errno :=
  match dispatch cmd with
  | some command => (⟨step l.cluster command, l.executed ++ [command]⟩, (execute l.cluster command).2)
  | none => (l, some .einval)

/-- `dh_write`, with the log. -/
def Logged.write (l : Logged) (buf : List UInt8) (copied : Bool) : Logged × Except Errno Nat :=
  if copied then
    match l.handle (cString (kernelBuffer buf)) with
    | (l, some e) => (l, .error e)
    | (l, none) => (l, .ok buf.length)
  else (l, .error .efault)

def commandOf (line : List UInt8) : Option Command := dispatch (cString line)

/-- The commands of the lines of a buffer; a line that is none denotes nothing. -/
def denoted (buf : List UInt8) : List Command := (buf.splitOn 10).filterMap commandOf

/-- A count that is returned covers bytes whose commands have been run, in order. -/
def Reported (l : Logged) (buf : List UInt8) (copied : Bool) : Prop :=
  ∀ n, (l.write buf copied).2 = .ok n →
    n ≤ buf.length ∧ (l.write buf copied).1.executed = l.executed ++ denoted (buf.take n)

/-- The one command the write runs, if the cluster accepts it, is all that the
buffer denotes. -/
def Unclipped (s : State) (buf : List UInt8) : Prop :=
  ∀ command, dispatch (cString (kernelBuffer buf)) = some command →
    (execute s command).2 = none → denoted buf = [command]

theorem handle_erases (l : Logged) (cmd : List UInt8) :
    ((l.handle cmd).1.cluster, (l.handle cmd).2) = dhHandleCommandLocked l.cluster cmd := by
  unfold Logged.handle dhHandleCommandLocked
  cases dispatch cmd with
  | none => rfl
  | some command => rfl

/-- The log changes neither what the write does nor what it returns. -/
theorem write_erases (l : Logged) (buf : List UInt8) (copied : Bool) :
    ((l.write buf copied).1.cluster, (l.write buf copied).2) = dhWrite l.cluster buf copied := by
  cases copied with
  | false => rfl
  | true =>
      have handled := handle_erases l (cString (kernelBuffer buf))
      rw [Logged.write, dhWrite, if_pos rfl, if_pos rfl]
      simp only [kernelBuffer] at handled ⊢
      rw [← handled]
      cases outcome : l.handle _ with
      | mk after failed =>
          cases failed with
          | none => rfl
          | some e => rfl

theorem write_accepted (l : Logged) (buf : List UInt8) (command : Command)
    (first : dispatch (cString (kernelBuffer buf)) = some command)
    (accepted : (execute l.cluster command).2 = none) :
    l.write buf true =
      (⟨step l.cluster command, l.executed ++ [command]⟩, .ok buf.length) := by
  simp only [Logged.write, Logged.handle, first, accepted, if_true]

theorem write_failed (l : Logged) (buf : List UInt8)
    (failed : ∀ command, dispatch (cString (kernelBuffer buf)) = some command →
      (execute l.cluster command).2 ≠ none) (n : Nat) :
    (l.write buf true).2 ≠ .ok n := by
  cases first : dispatch (cString (kernelBuffer buf)) with
  | none => simp [Logged.write, Logged.handle, first]
  | some command =>
      cases outcome : (execute l.cluster command).2 with
      | none => exact absurd outcome (failed command first)
      | some e => simp [Logged.write, Logged.handle, first, outcome]

theorem reported_iff (l : Logged) (buf : List UInt8) (copied : Bool) :
    Reported l buf copied ↔ (copied = true → Unclipped l.cluster buf) := by
  cases copied with
  | false => simp [Reported, Logged.write]
  | true =>
      constructor
      · intro reported _ command first accepted
        have written := write_accepted l buf command first accepted
        have covers := (reported buf.length (by rw [written])).2
        rw [written, List.take_length] at covers
        exact (List.append_cancel_left covers).symm
      · intro unclipped n returned
        by_cases runs : ∃ command, dispatch (cString (kernelBuffer buf)) = some command ∧
            (execute l.cluster command).2 = none
        · obtain ⟨command, first, accepted⟩ := runs
          have written := write_accepted l buf command first accepted
          rw [written] at returned ⊢
          obtain rfl : buf.length = n := Except.ok.inj returned
          refine ⟨Nat.le_refl _, ?_⟩
          rw [List.take_length, unclipped rfl command first accepted]
        · have failed := write_failed l buf fun command first accepted =>
            runs ⟨command, first, accepted⟩
          exact absurd returned (failed n)

section Lines

variable (buf : List UInt8)

/-- The string the handler gets is the first line, cut to 127 bytes. -/
theorem cString_kernelBuffer :
    cString (kernelBuffer buf) = cString ((buf.takeWhile (· ≠ 10)).take 127) := by
  rw [List.take_takeWhile, kernelBuffer]
  induction buf.take 127 with
  | nil => rfl
  | cons byte rest ih =>
      by_cases newline : byte = 10
      · simp [cString, newline]
      · by_cases zero : byte = 0
        · simp [cString, zero]
        · simpa [cString, newline, zero] using ih

/-- The lines behind the first. -/
def laterLines : List (List UInt8) := (buf.splitOn 10).tail

theorem first_line : buf.splitOn 10 = buf.takeWhile (· ≠ 10) :: laterLines buf := by
  unfold laterLines
  induction buf with
  | nil => rfl
  | cons byte rest ih =>
      rw [List.splitOn_cons_eq_if_modifyHead]
      by_cases newline : byte = 10
      · simp [newline]
      · rw [ih]
        simp [newline]

theorem denoted_lines :
    denoted buf = (commandOf (buf.takeWhile (· ≠ 10))).toList ++
      (laterLines buf).filterMap commandOf := by
  rw [denoted, first_line]
  cases found : commandOf (buf.takeWhile (· ≠ 10)) with
  | none => rw [List.filterMap_cons_none found, Option.toList_none, List.nil_append]
  | some command =>
      rw [List.filterMap_cons_some found, Option.toList_some, List.singleton_append]

/-- With a first line that fits the copy, only the later lines can be clipped. -/
theorem unclipped_short_iff (s : State) (fits : (buf.takeWhile (· ≠ 10)).length ≤ 127) :
    Unclipped s buf ↔
      ∀ command, commandOf (buf.takeWhile (· ≠ 10)) = some command →
        (execute s command).2 = none → ∀ line ∈ laterLines buf, commandOf line = none := by
  rw [Unclipped, cString_kernelBuffer, List.take_of_length_le fits]
  apply forall_congr'
  intro command
  apply imp_congr_right
  intro (first : commandOf (buf.takeWhile (· ≠ 10)) = some command)
  rw [denoted_lines, first, Option.toList_some, List.singleton_append, List.cons_inj_right,
    List.filterMap_eq_nil_iff]

/-- One line of at most 127 bytes is covered, with or without its newline. -/
theorem one_line_reported (l : Logged) (line ending : List UInt8) (copied : Bool)
    (short : line.length ≤ 127) (solid : 10 ∉ line) (closed : ending = [] ∨ ending = [10]) :
    Reported l (line ++ ending) copied := by
  have lines : (line ++ ending).splitOn 10 = line :: (if ending = [] then [] else [[]]) := by
    rcases closed with rfl | rfl
    · rw [List.append_nil, List.splitOn_eq_singleton solid]
      rfl
    · exact List.splitOn_append_cons_self_of_not_mem solid []
  rw [first_line] at lines
  obtain ⟨front, back⟩ := List.cons.inj lines
  rw [reported_iff, unclipped_short_iff _ _ (by rwa [front])]
  intro _ _ _ _ later member
  rw [back] at member
  split at member
  · cases member
  · rw [List.mem_singleton.mp member]
    rfl

end Lines

/-- A write returns the whole length. Its log is no part of the driver, and what
the count covers has been run exactly if the copy failed or nothing was clipped. -/
theorem write_reported_iff (l : Logged) (buf : List UInt8) (copied : Bool) :
    ((l.write buf copied).1.cluster, (l.write buf copied).2) = dhWrite l.cluster buf copied ∧
      (Reported l buf copied ↔ (copied = true → Unclipped l.cluster buf)) :=
  ⟨write_erases l buf copied, reported_iff l buf copied⟩

/-- Two commands in one write: the count covers both, the second node is still there. -/
theorem second_line_dropped :
    Reachable dawnhexInit ∧ (dhWrite dawnhexInit (text "del 1\ndel 2") true).2 = .ok 11 ∧
      present (dhWrite dawnhexInit (text "del 1\ndel 2") true).1 2 = true ∧
      ¬Reported ⟨dawnhexInit, []⟩ (text "del 1\ndel 2") true := by
  refine ⟨⟨[], rfl⟩, by decide +kernel, by decide +kernel, ?_⟩
  rw [reported_iff]
  intro unclipped
  have whole := unclipped rfl (.del 1) (by decide +kernel) (by decide +kernel)
  revert whole
  decide +kernel

end RyzenBuild.DawnHex
