/-!
A work item of a kernel: it is pending or not, one instance of its callback
runs or none, and owners may be cancelling it. Queueing a pending item does
nothing and neither does queueing one that is being cancelled; the pending
mark is cleared before the callback starts; instances do not overlap. The
callback is a stage of its own code, moved by the program that owns the item.
-/
namespace RyzenBuild.WorkQueue

variable {Stage Owner : Type}

/-- `finished` counts the instances that have returned. -/
structure WorkItem (Stage Owner : Type) where
  pending : Bool
  running : Option Stage
  finished : Nat
  cancellers : List Owner
  deriving DecidableEq, Repr

namespace WorkItem

def idle : WorkItem Stage Owner :=
  { pending := false, running := none, finished := 0, cancellers := [] }

def queue (work : WorkItem Stage Owner) : WorkItem Stage Owner :=
  if work.cancellers.isEmpty then { work with pending := true } else work

/-- The timer has fired and a thread of the pool takes the item. -/
def begin (work : WorkItem Stage Owner) (stage : Stage) : WorkItem Stage Owner :=
  if work.pending && work.running.isNone then
    { work with pending := false, running := some stage }
  else work

def advance (work : WorkItem Stage Owner) (stage : Stage) : WorkItem Stage Owner :=
  { work with running := some stage }

def finish (work : WorkItem Stage Owner) : WorkItem Stage Owner :=
  { work with running := none, finished := work.finished + 1 }

/-- The number the last queued instance will bear when it has returned. -/
def lastQueued (work : WorkItem Stage Owner) : Nat :=
  work.finished + work.running.isSome.toNat + work.pending.toNat

def beginCancel (work : WorkItem Stage Owner) (owner : Owner) : WorkItem Stage Owner :=
  { work with pending := false, cancellers := owner :: work.cancellers }

def endCancel [DecidableEq Owner] (work : WorkItem Stage Owner) (owner : Owner) :
    WorkItem Stage Owner :=
  { work with cancellers := work.cancellers.filter (· ≠ owner) }

/-- Whoever cancels the item has taken its pending mark away. -/
def Blocked (work : WorkItem Stage Owner) : Prop :=
  work.cancellers ≠ [] → work.pending = false

section Queue

variable (work : WorkItem Stage Owner)

@[simp] theorem queue_running : work.queue.running = work.running := by
  unfold queue
  split <;> rfl

@[simp] theorem queue_finished : work.queue.finished = work.finished := by
  unfold queue
  split <;> rfl

@[simp] theorem queue_cancellers : work.queue.cancellers = work.cancellers := by
  unfold queue
  split <;> rfl

theorem queue_pending (free : work.cancellers = []) : work.queue.pending = true := by
  simp [queue, free]

theorem Blocked.queue (blocked : work.Blocked) : work.queue.Blocked := by
  intro held
  rw [queue_cancellers] at held
  have refused : work.cancellers.isEmpty = false := by
    simpa using held
  simp only [WorkItem.queue, refused]
  exact blocked held

end Queue

theorem Blocked.beginCancel (work : WorkItem Stage Owner) (owner : Owner) :
    (work.beginCancel owner).Blocked := fun _ => rfl

theorem Blocked.endCancel [DecidableEq Owner] (work : WorkItem Stage Owner) (owner : Owner)
    (blocked : work.Blocked) : (work.endCancel owner).Blocked := by
  intro held
  apply blocked
  intro none
  apply held
  simp [WorkItem.endCancel, none]

end WorkItem

end RyzenBuild.WorkQueue
