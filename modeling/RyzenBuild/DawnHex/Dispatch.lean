import RyzenBuild.Lib.Scan
import RyzenBuild.DawnHex.Generation

/-!
The text interface of `/dev/dawnhex`: `dh_handle_command_locked` tries its
formats and prefixes one after another, and the first that matches decides.
-/
namespace RyzenBuild.DawnHex

open Kernel Ladder Scan Digits

/-- `!strncmp(cmd, literal, n)` for a literal of `n` bytes. -/
def startsWith (literal : String) (cmd : List UInt8) : Bool := (text literal).isPrefixOf cmd

/-- `sscanf` with the literal text of a format before its conversions. -/
def sscanf (verb : String) (conversions : List Item) (cmd : List UInt8) : List Scanned :=
  scan (literals (text verb) ++ conversions) cmd

def perU : List Item := [.space, .unsigned]

/-- Which operation `dh_handle_command_locked` runs; `none` is its `-EINVAL`. -/
def dispatch (cmd : List UInt8) : Option Command :=
  match sscanf "add" (perU ++ [.space, .word 31]) cmd with
  | [.number a, .word name] => some (.add a name)
  | _ =>
  match sscanf "del" perU cmd with
  | [.number a] => some (.del a)
  | _ =>
  match sscanf "link" (perU ++ perU) cmd with
  | [.number a, .number b] => some (.link a b)
  | _ =>
  match sscanf "unlink" (perU ++ perU) cmd with
  | [.number a, .number b] => some (.unlink a b)
  | _ =>
  match sscanf "online" (perU ++ perU) cmd with
  | [.number a, .number v] => some (.online a v)
  | _ =>
  match sscanf "duo" (.space :: literals (text "add") ++ perU ++ perU ++ perU) cmd with
  | [.number a, .number b, .number v] => some (.duoAdd a b v)
  | _ =>
  match sscanf "duo" (.space :: literals (text "del") ++ perU) cmd with
  | [.number a] => some (.duoDel a)
  | _ =>
  match sscanf "duo" (.space :: literals (text "pulse") ++ perU ++ perU) cmd with
  | [.number a, .number v] => some (.duoPulse a v)
  | _ =>
  if startsWith "duo snapshot" cmd then some .duoSnapshot
  else
  match sscanf "energy" (perU ++ perU) cmd with
  | [.number a, .number v] => some (.energy a v)
  | _ =>
  match sscanf "health" (perU ++ perU) cmd with
  | [.number a, .number v] => some (.health a v)
  | _ =>
  -- Four bytes are compared, so every longer verb that begins with them ends here.
  if startsWith "tick" cmd then some .tick
  else
  match sscanf "interactive" perU cmd with
  | [.number v] => some (.interactive v)
  | _ =>
  match sscanf "tick_ms" perU cmd with
  | [.number v] => some (.tickMs v)
  | _ =>
  if startsWith "snapshot" cmd then some .snapshot
  else if startsWith "help" cmd then some .help
  else none

def dhHandleCommandLocked (s : State) (cmd : List UInt8) : State × Option Errno :=
  match dispatch cmd with
  | some command => execute s command
  | none => (s, some .einval)

/-- A written command: the buffer is cut to 127 bytes and ends at a newline. -/
def dhWrite (s : State) (buf : List UInt8) (copied : Bool) : State × Except Errno Nat :=
  if copied then
    let kbuf := (buf.take 127).map fun byte => if byte = 10 then 0 else byte
    match dhHandleCommandLocked s (cString kbuf) with
    | (s, some e) => (s, .error e)
    | (s, none) => (s, .ok buf.length)
  else (s, .error .efault)

/-- `kstrtou32` in base ten: an optional plus sign, digits, an optional newline. -/
def kstrtou32 (buf : List UInt8) : Option UInt32 :=
  let s := if buf.head? = some 43 then buf.tail else buf
  let digits := s.takeWhile isDigit
  let rest := s.dropWhile isDigit
  if digits = [] ∨ (rest ≠ [] ∧ rest ≠ [10]) ∨ value digits ≥ 2 ^ 32 then none
  else some (UInt32.ofNat (value digits))

def tickMsStore (s : State) (buf : List UInt8) : State × Option Errno :=
  match kstrtou32 buf with
  | none => (s, some .einval)
  | some v =>
      let tickMs := dhClampU32 v 10 60000
      (dhEmitEventLocked { s with tickMs := tickMs } (field "tick_ms value=" tickMs.toNat), none)

/-- A verb and its arguments with one blank before each. -/
def spaced (verb : String) (arguments : List (List UInt8)) : List UInt8 :=
  text verb ++ arguments.flatMap (32 :: ·)

/-- A command as text. -/
def renderCommand : Command → List UInt8
  | .add id name => spaced "add" [numeral id.toNat, name]
  | .del id => spaced "del" [numeral id.toNat]
  | .link a b => spaced "link" [numeral a.toNat, numeral b.toNat]
  | .unlink a b => spaced "unlink" [numeral a.toNat, numeral b.toNat]
  | .online id value => spaced "online" [numeral id.toNat, numeral value.toNat]
  | .energy id value => spaced "energy" [numeral id.toNat, numeral value.toNat]
  | .health id value => spaced "health" [numeral id.toNat, numeral value.toNat]
  | .tick => text "tick"
  | .interactive value => spaced "interactive" [numeral value.toNat]
  | .tickMs value => spaced "tick_ms" [numeral value.toNat]
  | .snapshot => text "snapshot"
  | .help => text "help"
  | .duoAdd a b mode => spaced "duo add" [numeral a.toNat, numeral b.toNat, numeral mode.toNat]
  | .duoDel pairId => spaced "duo del" [numeral pairId.toNat]
  | .duoPulse pairId value => spaced "duo pulse" [numeral pairId.toNat, numeral value.toNat]
  | .duoSnapshot => text "duo snapshot"

/-- The name of an added node has 1 to 31 bytes, none of them blank. -/
def WellFormed : Command → Prop
  | .add _ name =>
      name ≠ [] ∧ name.length ≤ 31 ∧ ∀ byte ∈ name, byte ≠ 0 ∧ isSpace byte = false
  | _ => True

/-- What the handler runs for the text of a command. -/
def dispatched : Command → Command
  | .tickMs _ => .tick
  | command => command

theorem dispatch_render (command : Command) (wellFormed : WellFormed command) :
    dispatch (renderCommand command) = some (dispatched command) := by
  cases command with
  | add id name =>
      obtain ⟨some, fits, solid⟩ := wellFormed
      have solid : ∀ byte ∈ name, isSpace byte = false := fun byte member => (solid byte member).2
      have word := scan_word [] 31 name some fits solid
      simp [dispatch, renderCommand, spaced, sscanf, literals, perU, text, dispatched,
        skipSpaces_word _ some solid, word]
  | tick => simp [dispatch, renderCommand, startsWith, sscanf, literals, text, dispatched]
  | snapshot => simp [dispatch, renderCommand, startsWith, sscanf, literals, text, dispatched]
  | help => simp [dispatch, renderCommand, startsWith, sscanf, literals, text, dispatched]
  | _ =>
      simp [dispatch, renderCommand, spaced, startsWith, sscanf, literals, perU, text, dispatched,
        skipSpaces_of_head, isSpace]

/-- The text of a command is executed as the command itself. -/
def Executed (s : State) (command : Command) : Prop :=
  dhHandleCommandLocked s (renderCommand command) = execute s command

theorem handled (s : State) (command : Command) (wellFormed : WellFormed command) :
    dhHandleCommandLocked s (renderCommand command) = execute s (dispatched command) := by
  simp only [dhHandleCommandLocked, dispatch_render command wellFormed]

/-- A tick counts a generation, a change of the period does not. -/
theorem tick_is_not_tick_ms (s : State) (value : UInt32) :
    execute s .tick ≠ execute s (.tickMs value) := by
  intro same
  have generations := congrArg (fun result => result.1.generation) same
  simp only [execute, tick_generation] at generations
  exact succ_ne s.generation generations

theorem kstrtou32_numeral (v : UInt32) : kstrtou32 (numeral v.toNat) = some v := by
  have unsigned : (numeral v.toNat).head? ≠ some 43 := by
    intro plus
    have digit := numeral_digits v.toNat 43 (List.mem_of_mem_head? plus)
    simp [isDigit] at digit
  obtain ⟨taken, dropped⟩ := takeWhile_numeral v.toNat [] endsDigits_nil
  rw [List.append_nil] at taken dropped
  have small : ¬ v.toNat ≥ 2 ^ 32 := Nat.not_le.mpr v.toNat_lt
  simp only [kstrtou32, if_neg unsigned, taken, dropped, value_numeral, numeral_ne_nil, small,
    UInt32.ofNat_toNat]
  simp

theorem tick_ms_store_spec (s : State) (value : UInt32) :
    tickMsStore s (numeral value.toNat) = execute s (.tickMs value) := by
  simp only [tickMsStore, kstrtou32_numeral]
  rfl

/-- Every command but `tick_ms` is executed as it is written, in any state;
`tick_ms` never is, although its store under sysfs does what it says. -/
theorem command_executed_iff (s : State) (command : Command) (wellFormed : WellFormed command) :
    (Executed s command ↔ ∀ value, command ≠ .tickMs value) ∧
      ∀ value, tickMsStore s (numeral value.toNat) = execute s (.tickMs value) := by
  refine ⟨?_, tick_ms_store_spec s⟩
  rw [Executed, handled s command wellFormed]
  cases command with
  | tickMs value => simp [dispatched, tick_is_not_tick_ms s value]
  | _ => simp [dispatched]

theorem add_command_executed : Executed dawnhexInit (.add 7 (text "edge")) := by
  have solid : (text "edge").all (fun byte => byte != 0 && !isSpace byte) = true := rfl
  have wellFormed : WellFormed (.add 7 (text "edge")) := by
    refine ⟨by decide, by decide, fun byte member => ?_⟩
    simpa using List.all_eq_true.mp solid byte member
  exact (command_executed_iff dawnhexInit (.add 7 (text "edge")) wellFormed).1.mpr
    fun _ other => by cases other

/-- The text asks for a period of 250 ms and runs a tick. -/
theorem tick_ms_text_ticks : ¬ Executed dawnhexInit (.tickMs 250) := by
  intro executed
  have periods := congrArg (fun result => result.1.tickMs) executed
  revert periods
  decide +kernel

end RyzenBuild.DawnHex
