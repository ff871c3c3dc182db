import RyzenBuild.DawnHex.Dispatch
import RyzenBuild.DawnHex.EventRing

/-!
The calls of user space on `/dev/dawnhex` with the outcomes of their copies
from and to user memory. An operation runs under the lock; the reply is copied
out after the lock has been dropped.
-/
namespace RyzenBuild.DawnHex

open Kernel Ladder

structure PairUapi where
  pairId : UInt32
  a : UInt32
  b : UInt32
  mode : UInt32
  active : UInt32
  quotientPpm : UInt32
  refractionPpm : UInt32
  energyPpm : UInt32
  pressurePpm : UInt32
  pulses : UInt32
  lastValuePpm : UInt32
  deriving DecidableEq, Repr

structure SimplexUapi where
  pairId : UInt32
  levelCount : UInt32
  nodeCount : UInt32
  baseRetainedPpm : UInt32
  recursiveRetainedPpm : UInt32
  recursiveReductionPpm : UInt32
  recursiveCrosshatchPpm : UInt32
  recursiveColdnessPpm : UInt32
  recursiveEnergyPpm : UInt32
  levels : List DuoSimplexLevel
  deriving DecidableEq, Repr

def pairUapi (p : DuoPair) : PairUapi :=
  { pairId := p.pairId
    a := p.a
    b := p.b
    mode := p.mode
    active := if p.active then 1 else 0
    quotientPpm := p.quotientPpm
    refractionPpm := p.refractionPpm
    energyPpm := p.energyPpm
    pressurePpm := p.pressurePpm
    pulses := p.pulses
    lastValuePpm := p.lastValuePpm }

def simplexUapi (p : DuoPair) : SimplexUapi :=
  { pairId := p.pairId
    levelCount := p.simplex.levelCount
    nodeCount := p.simplex.nodeCount
    baseRetainedPpm := p.simplex.baseRetainedPpm
    recursiveRetainedPpm := p.simplex.recursiveRetainedPpm
    recursiveReductionPpm := p.simplex.recursiveReductionPpm
    recursiveCrosshatchPpm := p.simplex.recursiveCrosshatchPpm
    recursiveColdnessPpm := p.simplex.recursiveColdnessPpm
    recursiveEnergyPpm := p.simplex.recursiveEnergyPpm
    levels := p.simplex.levels.take p.simplex.levelCount.toNat }

/-- The commands of `dh_ioctl` with the fields they take from user memory. -/
inductive Ioctl where
  | getCluster
  | getNode (id : UInt32)
  | step
  | duoAddPair (a b mode reserved : UInt32)
  | duoDelPair (pairId : UInt32)
  | duoPulse (pairId valuePpm : UInt32)
  | duoGetPair (pairId : UInt32)
  | duoDump
  | duoGetSimplex (pairId : UInt32)
  | other
  deriving DecidableEq, Repr

/-- What a successful ioctl leaves in user memory. The cells of a dump or of a
ladder behind the counted ones are zero and left out. -/
inductive Reply where
  | nothing
  | cluster (cluster : ClusterUapi)
  | node (id : UInt32) (node : NodeUapi)
  | added (a b mode reserved outPairId : UInt32)
  | pair (pairId : UInt32) (pair : PairUapi)
  | dump (pairCount : UInt32) (pairs : List PairUapi)
  | simplex (pairId : UInt32) (simplex : SimplexUapi)
  deriving DecidableEq, Repr

def copyToUser (s : State) (reply : Reply) (copied : Bool) : State × Except Errno Reply :=
  if copied then (s, .ok reply) else (s, .error .efault)

def returnCode : State × Option Errno → State × Except Errno Reply
  | (s, none) => (s, .ok .nothing)
  | (s, some e) => (s, .error e)

/-- `copyIn` and `copyOut` say whether the copy from and to user memory succeeds. -/
def dhIoctl (s : State) (ioctl : Ioctl) (copyIn copyOut : Bool) : State × Except Errno Reply :=
  match ioctl with
  | .getCluster => copyToUser s (.cluster (getCluster s)) copyOut
  | .getNode id =>
      if !copyIn then (s, .error .efault)
      else if id.toNat ≥ dawnhexMaxNodes ∨ !(s.nodes id.toNat).present then (s, .error .enoent)
      else copyToUser s (.node id (nodeUapi (s.nodes id.toNat))) copyOut
  | .step => (dhTickOnceLocked s, .ok .nothing)
  | .duoAddPair a b mode reserved =>
      if !copyIn then (s, .error .efault)
      else
        match dhDuoAddPairLocked s a b mode with
        | (s, .error e) => (s, .error e)
        | (s, .ok pairId) => copyToUser s (.added a b mode reserved pairId) copyOut
  | .duoDelPair pairId =>
      if !copyIn then (s, .error .efault) else returnCode (dhDuoDelPairLocked s pairId)
  | .duoPulse pairId valuePpm =>
      if !copyIn then (s, .error .efault) else returnCode (dhDuoPulseLocked s pairId valuePpm)
  | .duoGetPair pairId =>
      if !copyIn then (s, .error .efault)
      else
        match dhDuoLookupPairLocked s pairId with
        | none => (s, .error .enoent)
        | some i => copyToUser s (.pair pairId (pairUapi (s.duo.pairs i))) copyOut
  | .duoDump =>
      copyToUser s (.dump s.duo.pairCount
        ((List.range s.duo.pairCount.toNat).map fun i => pairUapi (s.duo.pairs i))) copyOut
  | .duoGetSimplex pairId =>
      if !copyIn then (s, .error .efault)
      else
        match dhDuoLookupPairLocked s pairId with
        | none => (s, .error .enoent)
        | some i => copyToUser s (.simplex pairId (simplexUapi (s.duo.pairs i))) copyOut
  | .other => (s, .error .enotty)

/-- A call of user space, or an operation of the module's own workers and stores. -/
inductive Call where
  | read (len : Nat) (copied : Bool)
  | write (buf : List UInt8) (copied : Bool)
  | ioctl (ioctl : Ioctl) (copyIn copyOut : Bool)
  | inside (command : Command)
  deriving DecidableEq, Repr

def errorOf {Result : Type} : State × Except Errno Result → State × Option Errno
  | (s, .ok _) => (s, none)
  | (s, .error e) => (s, some e)

def call (s : State) : Call → State × Option Errno
  | .read len copied => errorOf (dhRead s len copied)
  | .write buf copied => errorOf (dhWrite s buf copied)
  | .ioctl ioctl copyIn copyOut => errorOf (dhIoctl s ioctl copyIn copyOut)
  | .inside command => execute s command

def callStep (s : State) (c : Call) : State := (call s c).1

/-- The event ring, the node table, the pair table and the id counter are as before. -/
structure SameTables (s t : State) : Prop where
  events : t.events = s.events
  head : t.evHead = s.evHead
  tail : t.evTail = s.evTail
  nodes : t.nodes = s.nodes
  pairs : t.duo.pairs = s.duo.pairs
  count : t.duo.pairCount = s.duo.pairCount
  next : t.duo.nextPairId = s.duo.nextPairId

theorem SameTables.refl (s : State) : SameTables s s := ⟨rfl, rfl, rfl, rfl, rfl, rfl, rfl⟩

/-- A call that ends in `-EFAULT` leaves the tables alone. -/
def FaultAtomic (s : State) (c : Call) : Prop :=
  (call s c).2 = some .efault → SameTables s (callStep s c)

/-- The checks of `dh_duo_add_pair_locked` all pass. -/
def Addable (s : State) (a b : UInt32) : Prop :=
  s.duo.pairCount < dawnhexDuoMaxPairs ∧ a ≠ b ∧
    (dhLookupNodeLocked s a).isSome ∧ (dhLookupNodeLocked s b).isSome

/-- The two calls that have changed something when their copy to user memory
fails: a read that takes an event, and an added pair. -/
def CommitsThenFaults (s : State) : Call → Prop
  | .read len copied => len ≠ 0 ∧ s.evHead ≠ s.evTail ∧ copied = false
  | .ioctl (.duoAddPair a b _ _) copyIn copyOut =>
      copyIn = true ∧ copyOut = false ∧ Addable s a b
  | _ => False

section Failures

variable (s : State) (e : Errno)

theorem add_failed_same (id : UInt32) (name : List UInt8)
    (failed : (dhAddNodeLocked s id name).2 = some e) : (dhAddNodeLocked s id name).1 = s := by
  rcases add_node_cases s id name with ⟨_, same⟩ | ⟨done, _⟩
  · exact same
  · rw [done] at failed
    cases failed

theorem del_failed_same (id : UInt32) (failed : (dhDelNodeLocked s id).2 = some e) :
    (dhDelNodeLocked s id).1 = s := by
  rcases del_node_cases s id with ⟨_, same⟩ | ⟨done, _⟩
  · exact same
  · rw [done] at failed
    cases failed

theorem link_failed_same (a b : UInt32) (enable : Bool)
    (failed : (dhLinkLocked s a b enable).2 = some e) : (dhLinkLocked s a b enable).1 = s := by
  unfold dhLinkLocked at failed ⊢
  split at failed
  · next same => rw [if_pos same]
  · next different =>
      rw [if_neg different]
      split at failed
      · cases failed
      · rfl

theorem set_field_failed_same (id : UInt32) (change : Node → Node) (message : Node → List UInt8)
    (failed : (setNodeField s id change message).2 = some e) :
    (setNodeField s id change message).1 = s := by
  cases found : dhLookupNodeLocked s id with
  | none => simp [setNodeField, found]
  | some i => simp [setNodeField, found] at failed

theorem duo_del_failed_same (pairId : UInt32) (failed : (dhDuoDelPairLocked s pairId).2 = some e) :
    (dhDuoDelPairLocked s pairId).1 = s := by
  rcases duo_del_cases s pairId with ⟨_, same⟩ | ⟨i, found, _⟩
  · exact same
  · simp [dhDuoDelPairLocked, found] at failed

theorem duo_pulse_failed_same (pairId value : UInt32)
    (failed : (dhDuoPulseLocked s pairId value).2 = some e) :
    (dhDuoPulseLocked s pairId value).1 = s := by
  rcases duo_pulse_cases s pairId value with same | ⟨i, found, first, second, _⟩
  · exact same
  · cases active : (s.duo.pairs i).active with
    | false => simp [dhDuoPulseLocked, found, active]
    | true => simp [dhDuoPulseLocked, found, active, first, second] at failed

/-- A request that fails leaves the state unchanged. -/
theorem execute_failed_same (command : Command) (failed : (execute s command).2 = some e) :
    (execute s command).1 = s := by
  cases command with
  | add id name => exact add_failed_same s e id name failed
  | del id => exact del_failed_same s e id failed
  | link a b => exact link_failed_same s e a b true failed
  | unlink a b => exact link_failed_same s e a b false failed
  | online id value => exact set_field_failed_same s e id _ _ failed
  | energy id value => exact set_field_failed_same s e id _ _ failed
  | health id value => exact set_field_failed_same s e id _ _ failed
  | duoAdd a b mode =>
      simp only [execute] at failed ⊢
      split at failed
      · cases failed
      · next t reason result =>
          have same := duo_add_failed_same s reason a b mode (by rw [result])
          rw [result] at same
          exact same
  | duoDel pairId => exact duo_del_failed_same s e pairId failed
  | duoPulse pairId value => exact duo_pulse_failed_same s e pairId value failed
  | _ => cases failed

end Failures

theorem tail_moves (s : State) : (s.evTail + 1) % dawnhexEventQ ≠ s.evTail := by
  intro same
  have index := advance_index s.evTail
  rw [same, RingQueue.advance] at index
  omega

theorem read_atomic_iff (s : State) (len : Nat) (copied : Bool) :
    FaultAtomic s (.read len copied) ↔ ¬ CommitsThenFaults s (.read len copied) := by
  simp only [FaultAtomic, callStep, call, CommitsThenFaults, dhRead]
  by_cases none : len = 0
  · simp [none, errorOf]
  · by_cases drained : s.evHead = s.evTail
    · simp [drained, errorOf]
    · cases copied with
      | true => simp [none, drained, errorOf]
      | false =>
          simp only [none, drained, errorOf, if_false, true_implies, ne_eq, not_false_eq_true,
            and_self, not_true_eq_false, iff_false, Bool.false_eq_true]
          exact fun same => tail_moves s same.tail

theorem duo_add_ok_iff (s : State) (a b mode : UInt32) :
    (∃ pairId, (dhDuoAddPairLocked s a b mode).2 = .ok pairId) ↔ Addable s a b := by
  constructor
  · rintro ⟨pairId, added⟩
    rcases duo_add_cases s a b mode with ⟨⟨e, failed⟩, _⟩ | ⟨_, room, different, foundA, foundB, _⟩
    · rw [added] at failed
      cases failed
    · exact ⟨room, different, by rw [foundA]; rfl, by rw [foundB]; rfl⟩
  · rintro ⟨room, different, presentA, presentB⟩
    obtain ⟨na, foundA⟩ := Option.isSome_iff_exists.mp presentA
    obtain ⟨nb, foundB⟩ := Option.isSome_iff_exists.mp presentB
    have vacant : ¬ dawnhexDuoMaxPairs ≤ s.duo.pairCount := UInt32.not_le.mpr room
    simp [dhDuoAddPairLocked, vacant, different, foundA, foundB]

theorem add_pair_atomic_iff (s : State) (a b mode reserved : UInt32) (copyIn copyOut : Bool) :
    FaultAtomic s (.ioctl (.duoAddPair a b mode reserved) copyIn copyOut) ↔
      ¬ CommitsThenFaults s (.ioctl (.duoAddPair a b mode reserved) copyIn copyOut) := by
  simp only [FaultAtomic, callStep, call, dhIoctl]
  cases copyIn with
  | false => simp [CommitsThenFaults, errorOf, SameTables.refl]
  | true =>
      have addable := duo_add_ok_iff s a b mode
      have kept := fun e => duo_add_failed_same s e a b mode
      have count := duo_add_cases s a b mode
      cases result : dhDuoAddPairLocked s a b mode with
      | mk t outcome =>
          rw [result] at addable kept count
          cases outcome with
          | error e =>
              have refused : ¬ Addable s a b := fun passes => by simp [← addable] at passes
              have same : t = s := kept e rfl
              simp [CommitsThenFaults, refused, errorOf, same, SameTables.refl]
          | ok pairId =>
              have passes : Addable s a b := addable.mp ⟨pairId, rfl⟩
              cases copyOut with
              | true => simp [CommitsThenFaults, copyToUser, errorOf]
              | false =>
                  simp only [CommitsThenFaults, passes, copyToUser, errorOf, and_self,
                    not_true_eq_false, iff_false, Bool.false_eq_true, if_false]
                  intro atomic
                  have same : SameTables s t := atomic rfl
                  rcases count with ⟨⟨e, failed⟩, _⟩ | ⟨_, _, _, _, _, _, grown, _⟩
                  · cases failed
                  · exact succ_ne s.duo.pairCount (grown.symm.trans same.count)

theorem handled_failed_same (s : State) (cmd : List UInt8) (e : Errno)
    (failed : (dhHandleCommandLocked s cmd).2 = some e) : (dhHandleCommandLocked s cmd).1 = s := by
  unfold dhHandleCommandLocked at failed ⊢
  split at failed
  · next command _ => exact execute_failed_same s e command failed
  · rfl

theorem write_failed_same (s : State) (buf : List UInt8) (copied : Bool) (e : Errno)
    (failed : (dhWrite s buf copied).2 = .error e) : (dhWrite s buf copied).1 = s := by
  unfold dhWrite at failed ⊢
  cases copied with
  | false => rfl
  | true =>
      simp only [if_true] at failed ⊢
      split at failed
      · next t reason result =>
          have same := handled_failed_same s _ reason (by rw [result])
          rw [result] at same
          exact same
      · cases failed

theorem errorOf_some {Result : Type} (outcome : State × Except Errno Result) (e : Errno)
    (failed : (errorOf outcome).2 = some e) :
    outcome.2 = .error e ∧ (errorOf outcome).1 = outcome.1 := by
  unfold errorOf at failed ⊢
  split at failed
  · cases failed
  · cases failed
    exact ⟨rfl, rfl⟩

theorem copyToUser_same (s : State) (reply : Reply) (copied : Bool) :
    (copyToUser s reply copied).1 = s := by
  unfold copyToUser
  split <;> rfl

theorem returnCode_error (outcome : State × Option Errno) (e : Errno)
    (failed : (returnCode outcome).2 = .error e) :
    outcome.2 = some e ∧ (returnCode outcome).1 = outcome.1 := by
  obtain ⟨t, reason⟩ := outcome
  cases reason with
  | none => cases failed
  | some reason =>
      cases failed
      exact ⟨rfl, rfl⟩

/-- Every ioctl but `ADD_PAIR` leaves the state unchanged when it fails. -/
theorem ioctl_failed_same (s : State) (ioctl : Ioctl) (copyIn copyOut : Bool) (e : Errno)
    (other : ∀ a b mode reserved, ioctl ≠ .duoAddPair a b mode reserved)
    (failed : (dhIoctl s ioctl copyIn copyOut).2 = .error e) :
    (dhIoctl s ioctl copyIn copyOut).1 = s := by
  cases ioctl with
  | getCluster => exact copyToUser_same s _ copyOut
  | duoDump => exact copyToUser_same s _ copyOut
  | step => cases failed
  | other => rfl
  | duoAddPair a b mode reserved => exact absurd rfl (other a b mode reserved)
  | getNode id =>
      simp only [dhIoctl]
      split
      · rfl
      · split
        · rfl
        · exact copyToUser_same s _ copyOut
  | duoGetPair pairId =>
      simp only [dhIoctl]
      split
      · rfl
      · split
        · rfl
        · exact copyToUser_same s _ copyOut
  | duoGetSimplex pairId =>
      simp only [dhIoctl]
      split
      · rfl
      · split
        · rfl
        · exact copyToUser_same s _ copyOut
  | duoDelPair pairId =>
      cases copyIn with
      | false => rfl
      | true =>
          obtain ⟨reason, same⟩ := returnCode_error (dhDuoDelPairLocked s pairId) e failed
          exact same.trans (duo_del_failed_same s e pairId reason)
  | duoPulse pairId valuePpm =>
      cases copyIn with
      | false => rfl
      | true =>
          obtain ⟨reason, same⟩ := returnCode_error (dhDuoPulseLocked s pairId valuePpm) e failed
          exact same.trans (duo_pulse_failed_same s e pairId valuePpm reason)

theorem fault_atomic_of_same (s : State) (c : Call)
    (same : (call s c).2 = some .efault → callStep s c = s) : FaultAtomic s c := by
  intro faults
  rw [same faults]
  exact SameTables.refl s

theorem fault_atomic_iff (s : State) (c : Call) : FaultAtomic s c ↔ ¬ CommitsThenFaults s c := by
  cases c with
  | read len copied => exact read_atomic_iff s len copied
  | write buf copied =>
      simp only [CommitsThenFaults, not_false_eq_true, iff_true]
      apply fault_atomic_of_same
      intro faults
      obtain ⟨failed, same⟩ := errorOf_some (dhWrite s buf copied) .efault faults
      exact same.trans (write_failed_same s buf copied .efault failed)
  | inside command =>
      simp only [CommitsThenFaults, not_false_eq_true, iff_true]
      apply fault_atomic_of_same
      exact execute_failed_same s .efault command
  | ioctl ioctl copyIn copyOut =>
      by_cases adds : ∃ a b mode reserved, ioctl = .duoAddPair a b mode reserved
      · obtain ⟨a, b, mode, reserved, rfl⟩ := adds
        exact add_pair_atomic_iff s a b mode reserved copyIn copyOut
      · have other : ∀ a b mode reserved, ioctl ≠ .duoAddPair a b mode reserved :=
          fun a b mode reserved here => adds ⟨a, b, mode, reserved, here⟩
        have harmless : ¬ CommitsThenFaults s (.ioctl ioctl copyIn copyOut) := by
          cases ioctl with
          | duoAddPair a b mode reserved => exact absurd rfl (other a b mode reserved)
          | _ => exact not_false
        simp only [harmless, not_false_eq_true, iff_true]
        apply fault_atomic_of_same
        intro faults
        obtain ⟨failed, same⟩ := errorOf_some (dhIoctl s ioctl copyIn copyOut) .efault faults
        exact same.trans (ioctl_failed_same s ioctl copyIn copyOut .efault other failed)

/-- Over any run of calls: every `-EFAULT` is atomic exactly if no call takes
an event or adds a pair and then fails to copy its result out. -/
theorem faults_atomic_iff (s : State) (calls : List Call) :
    Trace.Steps callStep FaultAtomic s calls ↔
      Trace.Steps callStep (fun t c => ¬ CommitsThenFaults t c) s calls := by
  induction calls generalizing s with
  | nil => exact Iff.rfl
  | cons c rest ih => exact and_congr (fault_atomic_iff s c) (ih (callStep s c))

/-- `ADD_PAIR` with a reply buffer that cannot be written: the pair stays. -/
theorem leaked_pair : ¬ FaultAtomic dawnhexInit (.ioctl (.duoAddPair 0 1 1 0) true false) := by
  rw [fault_atomic_iff]
  simp only [CommitsThenFaults, Addable, not_not]
  decide +kernel

end RyzenBuild.DawnHex
