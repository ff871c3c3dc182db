import RyzenBuild.DawnHex.Command
import RyzenBuild.Lib.Ring
import Mathlib.Data.List.TakeWhile

/-!
The event ring as its readers see it. Emits and reads drive the module's state
beside a bounded queue of numbered messages; `delivered` keeps what each read
copied out, with the event the queue gave up at that moment.
-/
namespace RyzenBuild.DawnHex

open Kernel RingQueue

/-- `dh_read` past its wait. An empty ring here was drained by another reader
since the wake-up, and a failed copy has already taken the event. -/
def dhRead (s : State) (len : Nat) (copied : Bool) : State × Except Errno (List UInt8) :=
  if len = 0 then (s, .ok [])
  else if s.evHead = s.evTail then (s, .ok [])
  else
    let tmp := strscpy dawnhexEventLen (s.events s.evTail.toNat)
    let s := { s with evTail := (s.evTail + 1) % dawnhexEventQ }
    let n := if tmp.length > len then len else tmp.length
    (s, if copied then .ok (tmp.take n) else .error .efault)

/-- Whether `dh_poll` reports `EPOLLIN | EPOLLRDNORM`. -/
def dhPoll (s : State) : Bool := s.evHead ≠ s.evTail

/-- What the ring keeps of a formatted message. -/
def stored (message : List UInt8) : List UInt8 :=
  strscpy dawnhexEventLen (message.take (dawnhexEventLen - 1))

/-- The slots from `ev_tail` up to `ev_head`, modulo 128. -/
def unreadSlots (s : State) : List (List UInt8) :=
  (List.range ((s.evHead.toNat + 128 - s.evTail.toNat) % 128)).map
    fun k => s.events ((s.evTail.toNat + k) % 128)

inductive RingOp where
  | emit (message : List UInt8)
  | read (len : Nat) (copied : Bool)
  deriving DecidableEq, Repr

/-- An emitted message with its place among all emitted messages. -/
abbrev Event := List UInt8 × Nat

structure Delivery where
  event : Event
  len : Nat
  bytes : List UInt8

structure Monitor where
  cluster : State
  emitted : List (List UInt8)
  queue : Fifo 127 Event
  delivered : List Delivery

def Monitor.start (s : State) : Monitor := ⟨s, [], Fifo.empty, []⟩

/-- A read of positive length takes from the queue; it delivers if it returns bytes. -/
def Monitor.step (m : Monitor) : RingOp → Monitor
  | .emit message =>
      { m with
        cluster := dhEmitEventLocked m.cluster message
        emitted := m.emitted ++ [message]
        queue := m.queue.offer (message, m.emitted.length) }
  | .read len copied =>
      if len = 0 then { m with cluster := (dhRead m.cluster len copied).1 }
      else
        { m with
          cluster := (dhRead m.cluster len copied).1
          queue := m.queue.take
          delivered := m.delivered ++
            match m.queue.items, (dhRead m.cluster len copied).2 with
            | event :: _, .ok bytes => [⟨event, len, bytes⟩]
            | _, _ => [] }

/-- The module's fields are those of the ring. -/
structure RingFields (s : State) (ring : Ring 128 (List UInt8)) : Prop where
  slots : s.events = ring.slots
  head : s.evHead.toNat = ring.head
  tail : s.evTail.toNat = ring.tail

theorem advance_index (index : UInt32) :
    ((index + 1) % dawnhexEventQ).toNat = advance 128 index.toNat := by
  simp only [advance, dawnhexEventQ, UInt32.toNat_mod, UInt32.toNat_add, UInt32.reduceToNat]
  omega

theorem ring_fields_emit (s : State) (ring : Ring 128 (List UInt8)) (message : List UInt8)
    (rep : RingFields s ring) :
    RingFields (dhEmitEventLocked s message) (ring.put (stored message)) := by
  have meets : (s.evHead + 1) % dawnhexEventQ = s.evTail ↔
      advance 128 ring.head = ring.tail := by
    rw [← UInt32.toNat_inj, advance_index s.evHead, rep.head, rep.tail]
  constructor
  · funext k
    simp [dhEmitEventLocked, Ring.put, stored, rep.head, rep.slots]
  · exact (advance_index s.evHead).trans (congrArg (advance 128) rep.head)
  · by_cases full : advance 128 ring.head = ring.tail
    · simp only [dhEmitEventLocked, Ring.put, meets, full, ↓reduceIte]
      exact (advance_index s.evTail).trans (congrArg (advance 128) rep.tail)
    · simp [dhEmitEventLocked, Ring.put, meets, full, rep.tail]

/-- A string an array of this length holds is copied whole. -/
theorem strscpy_strscpy (size : Nat) (source : List UInt8) :
    strscpy size (strscpy size source) = strscpy size source := by
  have clean : ∀ byte ∈ (cString source).take (size - 1), byte ≠ 0 := by
    intro byte member
    simpa using List.mem_takeWhile_imp (List.mem_of_mem_take member)
  have whole : cString ((cString source).take (size - 1)) = (cString source).take (size - 1) :=
    List.takeWhile_eq_self_iff.mpr (by simpa using clean)
  simp only [strscpy, whole, List.take_take, Nat.min_self]

theorem ring_fields_poll (s : State) (ring : Ring 128 (List UInt8)) (rep : RingFields s ring) :
    s.evHead = s.evTail ↔ ring.head = ring.tail := by
  rw [← UInt32.toNat_inj, rep.head, rep.tail]

theorem ring_fields_unread (s : State) (ring : Ring 128 (List UInt8)) (rep : RingFields s ring) :
    unreadSlots s = ring.fifo.items := by
  simp [unreadSlots, Ring.fifo, window, used, rep.head, rep.tail, rep.slots]

theorem read_empty (s : State) (len : Nat) (copied : Bool) (empty : s.evHead = s.evTail) :
    dhRead s len copied = (s, .ok []) := by
  simp [dhRead, empty]

theorem ring_fields_read (s : State) (ring : Ring 128 (List UInt8)) (len : Nat) (copied : Bool)
    (rep : RingFields s ring) (positive : 0 < len) (readable : ring.head ≠ ring.tail) :
    RingFields (dhRead s len copied).1 ring.skip ∧
      (dhRead s len true).2 = .ok ((strscpy dawnhexEventLen (ring.slots ring.tail)).take len) ∧
      (dhRead s len false).2 = .error .efault := by
  have unequal : s.evHead ≠ s.evTail := fun same => readable ((ring_fields_poll s ring rep).mp same)
  have asked : len ≠ 0 := Nat.ne_of_gt positive
  refine ⟨?_, ?_, by simp [dhRead, asked, unequal]⟩
  · constructor
    · simp [dhRead, asked, unequal, Ring.skip, rep.slots]
    · simp [dhRead, asked, unequal, Ring.skip, rep.head]
    · simp only [dhRead, asked, unequal, ↓reduceIte, Ring.skip]
      exact (advance_index s.evTail).trans (congrArg (advance 128) rep.tail)
  · simp only [dhRead, asked, unequal, ↓reduceIte, rep.slots, rep.tail, Except.ok.injEq]
    split
    · rfl
    · rw [List.take_length, List.take_of_length_le (by omega)]

/-- The bytes a read of this length gets of an event. -/
def clipped (event : Event) (len : Nat) : List UInt8 := (stored event.1).take len

structure Monitor.Refines (m : Monitor) : Prop where
  ring : ∃ ring : Ring 128 (List UInt8), RingFields m.cluster ring ∧
    ring.fifo = m.queue.map fun event => stored event.1
  order : (m.delivered.map (·.event) ++ m.queue.items).Sublist m.emitted.zipIdx
  bytes : ∀ delivery ∈ m.delivered, delivery.bytes = clipped delivery.event delivery.len

theorem refines_start : (Monitor.start registered).Refines where
  ring := by
    refine ⟨⟨fun _ => [], 0, 0, by omega, by omega⟩, ?_, rfl⟩
    constructor <;> simp [Monitor.start, registered]
  order := by simp [Monitor.start, Fifo.empty]
  bytes := by simp [Monitor.start]

/-- Events taken and events queued stay in the order of emission when another is emitted. -/
theorem emit_order (m : Monitor) (taken : List Event) (message : List UInt8)
    (order : (taken ++ m.queue.items).Sublist m.emitted.zipIdx) :
    (taken ++ (m.queue.offer (message, m.emitted.length)).items).Sublist
      (m.emitted ++ [message]).zipIdx := by
  have numbered : (m.emitted ++ [message]).zipIdx =
      m.emitted.zipIdx ++ [(message, m.emitted.length)] := by
    simp [List.zipIdx_append]
  have dropped := (offer_sublist m.queue (message, m.emitted.length)).append_left taken
  rw [numbered]
  apply dropped.trans
  rw [← List.append_assoc]
  exact order.append_right _

theorem refines_emit (m : Monitor) (message : List UInt8) (refines : m.Refines) :
    (m.step (.emit message)).Refines where
  ring := by
    obtain ⟨ring, rep, same⟩ := refines.ring
    refine ⟨ring.put (stored message), ring_fields_emit m.cluster ring message rep, ?_⟩
    calc (ring.put (stored message)).fifo
      _ = ring.fifo.offer (stored message) := fifo_put ring (stored message)
      _ = (m.queue.map fun event => stored event.1).offer (stored message) := by rw [same]
      _ = (m.queue.offer (message, m.emitted.length)).map fun event => stored event.1 :=
        (map_offer m.queue (fun event => stored event.1) (message, m.emitted.length)).symm
  order := emit_order m _ message refines.order
  bytes := refines.bytes

theorem refined_empty (m : Monitor) (ring : Ring 128 (List UInt8))
    (rep : RingFields m.cluster ring)
    (same : ring.fifo = m.queue.map fun event => stored event.1) :
    m.cluster.evHead = m.cluster.evTail ↔ m.queue.items = [] := by
  rw [ring_fields_poll m.cluster ring rep, ← ring_empty_iff, same]
  simp [Fifo.map]

/-- A read of a nonempty ring returns the oldest event and takes it. -/
theorem refined_read (m : Monitor) (ring : Ring 128 (List UInt8)) (len : Nat) (copied : Bool)
    (event : Event) (rest : List Event) (positive : 0 < len)
    (rep : RingFields m.cluster ring)
    (same : ring.fifo = m.queue.map fun event => stored event.1)
    (items : m.queue.items = event :: rest) :
    RingFields (dhRead m.cluster len copied).1 ring.skip ∧
      ring.skip.fifo = m.queue.take.map (fun event => stored event.1) ∧
      (dhRead m.cluster len true).2 = .ok (clipped event len) ∧
      (dhRead m.cluster len false).2 = .error .efault := by
  have readable : ring.head ≠ ring.tail := by
    rw [Ne, ← ring_empty_iff, same]
    simp [Fifo.map, items]
  have oldest : ring.slots ring.tail = stored event.1 := by
    have taken := ring_skip ring readable
    rw [same] at taken
    simp only [Fifo.map, items, List.map_cons, List.cons.injEq] at taken
    exact taken.1.symm
  obtain ⟨moved, bytes, failed⟩ := ring_fields_read m.cluster ring len copied rep positive readable
  refine ⟨moved, ?_, ?_, failed⟩
  · rw [fifo_skip ring readable, same, map_take]
  · rw [bytes, oldest, stored, strscpy_strscpy, clipped, stored]

theorem refines_read (m : Monitor) (len : Nat) (copied : Bool) (refines : m.Refines) :
    (m.step (.read len copied)).Refines := by
  by_cases asked : len = 0
  · have still : m.step (.read len copied) = m := by simp [Monitor.step, dhRead, asked]
    exact still.symm ▸ refines
  · obtain ⟨ring, rep, same⟩ := refines.ring
    cases items : m.queue.items with
    | nil =>
        have still := read_empty m.cluster len copied
          ((refined_empty m ring rep same).mpr items)
        have idle : m.queue.take = m.queue := Fifo.ext_items _ _ (by simp [Fifo.take, items])
        have same : m.step (.read len copied) = m := by
          simp [Monitor.step, asked, still, items, idle]
        exact same.symm ▸ refines
    | cons event rest =>
        obtain ⟨moved, taken, bytes, failed⟩ := refined_read m ring len copied event rest
          (Nat.pos_of_ne_zero asked) rep same items
        have order := refines.order
        rw [items] at order
        cases copied with
        | true =>
            constructor
            · exact ⟨ring.skip, by simpa [Monitor.step, asked] using moved,
                by simpa [Monitor.step, asked] using taken⟩
            · simpa [Monitor.step, asked, items, bytes, Fifo.take] using order
            · intro delivery member
              simp only [Monitor.step, asked, ↓reduceIte, items, bytes, List.mem_append,
                List.mem_singleton] at member
              rcases member with old | fresh
              · exact refines.bytes delivery old
              · rw [fresh]
        | false =>
            constructor
            · exact ⟨ring.skip, by simpa [Monitor.step, asked] using moved,
                by simpa [Monitor.step, asked] using taken⟩
            · simp only [Monitor.step, asked, ↓reduceIte, items, failed, List.append_nil, Fifo.take,
                List.tail_cons]
              exact (List.Sublist.append_left (List.sublist_cons_self event rest) _).trans order
            · simpa [Monitor.step, asked, items, failed] using refines.bytes

theorem refines_step (m : Monitor) (op : RingOp) (refines : m.Refines) : (m.step op).Refines := by
  cases op with
  | emit message => exact refines_emit m message refines
  | read len copied => exact refines_read m len copied refines

/-- What holds of every state of a run: the indices stay inside, the slots hold the queue, polling
tells whether it is empty, a read gets its oldest event, and the events
delivered so far and those still queued come in the order of their emission,
each at most once. -/
structure Monitor.Faithful (m : Monitor) : Prop where
  indices : m.cluster.evHead.toNat < 128 ∧ m.cluster.evTail.toNat < 128
  slots : unreadSlots m.cluster = m.queue.items.map fun event => stored event.1
  poll : dhPoll m.cluster = true ↔ m.queue.items ≠ []
  read : ∀ event rest, m.queue.items = event :: rest → ∀ len, 0 < len →
    (dhRead m.cluster len true).2 = .ok (clipped event len) ∧
      unreadSlots (dhRead m.cluster len true).1 = rest.map fun event => stored event.1
  order : (m.delivered.map (·.event) ++ m.queue.items).Sublist m.emitted.zipIdx
  bytes : ∀ delivery ∈ m.delivered, delivery.bytes = clipped delivery.event delivery.len

theorem faithful_of_refines (m : Monitor) (refines : m.Refines) : m.Faithful := by
  obtain ⟨ring, rep, same⟩ := refines.ring
  constructor
  · exact ⟨rep.head ▸ ring.head_lt, rep.tail ▸ ring.tail_lt⟩
  · rw [ring_fields_unread m.cluster ring rep, same]
    rfl
  · simp [dhPoll, refined_empty m ring rep same]
  · intro event rest items len positive
    obtain ⟨moved, taken, bytes, _⟩ := refined_read m ring len true event rest positive rep same items
    refine ⟨bytes, ?_⟩
    rw [ring_fields_unread _ ring.skip moved, taken]
    simp [Fifo.map, Fifo.take, items]
  · exact refines.order
  · exact refines.bytes

/-- The ring refines a bounded queue of capacity 127 that drops its oldest
event, over every sequence of emits and reads. -/
theorem event_ring_is_fifo (ops : List RingOp) :
    Trace.Always Monitor.step Monitor.Faithful (Monitor.start registered) ops :=
  Trace.always_mono Monitor.step Monitor.Refines Monitor.Faithful faithful_of_refines _ ops
    (Trace.always_of_invariant Monitor.step Monitor.Refines refines_step _ ops refines_start)

end RyzenBuild.DawnHex
