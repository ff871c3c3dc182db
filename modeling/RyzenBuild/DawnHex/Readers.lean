import RyzenBuild.DawnHex.EventRing
import RyzenBuild.Lib.Threads
import Mathlib.Data.List.Nodup

/-!
Calls of `dh_read` beside each other and beside emitters. A call tests for an
unread event without the lock, one index after the other, and takes the event
later under the lock; an event names the party that takes its next step.
-/
namespace RyzenBuild.EventReaders

open DawnHex Kernel RingQueue Threads

/-- What an emitter formats is never an empty string. -/
structure Message where
  bytes : List UInt8
  printable : stored bytes ≠ []

/-- Where a call is in its code. `loaded` holds the value of `ev_head` in an
evaluation of the wait condition; `woken` is past the wait and not yet under the lock. -/
inductive Phase where
  | waiting
  | loaded (head : UInt32)
  | woken
  | interrupted
  | returned (result : Except Errno (List UInt8))
  deriving DecidableEq

def Phase.isWoken : Phase → Bool
  | .woken => true
  | _ => false

structure Reader where
  len : Nat
  positive : 0 < len
  phase : Phase

/-- `consumed` is history: the events that calls have taken, each with its call. -/
structure System where
  monitor : Monitor
  readers : List Reader
  consumed : List (Nat × DawnHex.Event)

def System.start : System := ⟨Monitor.start registered, [], []⟩

/-- `signal` ends a wait with `-ERESTARTSYS`. -/
inductive Action where
  | emit (message : Message)
  | enter (len : Nat) (positive : 0 < len)
  | load (k : Nat)
  | test (k : Nat)
  | signal (k : Nat)
  | finish (k : Nat) (copied : Bool)

def System.moveTo (x : System) (k : Nat) (phase : Phase) : System :=
  { x with readers := x.readers.modify k fun reader => { reader with phase := phase } }

def System.step (x : System) : Action → System
  | .emit message => { x with monitor := x.monitor.step (.emit message.bytes) }
  | .enter len positive => { x with readers := x.readers ++ [⟨len, positive, .waiting⟩] }
  | .load k =>
      match x.readers[k]? with
      | some ⟨_, _, .waiting⟩ => x.moveTo k (.loaded x.monitor.cluster.evHead)
      | _ => x
  | .test k =>
      match x.readers[k]? with
      | some ⟨_, _, .loaded head⟩ =>
          x.moveTo k (if head ≠ x.monitor.cluster.evTail then .woken else .waiting)
      | _ => x
  | .signal k =>
      match x.readers[k]? with
      | some ⟨_, _, .waiting⟩ => x.moveTo k .interrupted
      | _ => x
  | .finish k copied =>
      match x.readers[k]? with
      | some ⟨len, _, .woken⟩ =>
          { x.moveTo k (.returned (dhRead x.monitor.cluster len copied).2) with
            monitor := x.monitor.step (.read len copied)
            consumed := x.consumed ++ x.monitor.queue.items.head?.toList.map (k, ·) }
      | _ => x

def System.unread (x : System) : Nat := (unreadSlots x.monitor.cluster).length

def System.woken (x : System) : Nat := x.readers.countP fun reader => reader.phase.isWoken

/-- No call has returned 0, and a call that has returned bytes has them from an
event that was emitted and that no other call has taken. -/
structure System.Honest (x : System) : Prop where
  nonzero : ∀ (k : Nat) (reader : Reader) (bytes : List UInt8), x.readers[k]? = some reader →
    reader.phase = .returned (.ok bytes) → bytes ≠ []
  alone : ∀ (k : Nat) (reader : Reader) (bytes : List UInt8), x.readers[k]? = some reader →
    reader.phase = .returned (.ok bytes) →
    ∃ event ∈ x.monitor.emitted.zipIdx, (k, event) ∈ x.consumed ∧
      bytes = clipped event reader.len ∧ ∀ j, (j, event) ∈ x.consumed → j = k

/-- A call passes its wait only while more events are unread than calls are past
their wait and on the way to the lock. -/
def Backed (x : System) : Action → Prop
  | .test k => ∀ (reader : Reader) (head : UInt32), x.readers[k]? = some reader → reader.phase = .loaded head →
      head ≠ x.monitor.cluster.evTail → x.woken < x.unread
  | _ => True

/-- What a call has told its caller. -/
def Told (consumed : List (Nat × DawnHex.Event)) (k : Nat) (reader : Reader) : Prop :=
  ∀ bytes, reader.phase = .returned (.ok bytes) →
    ∃ event, (k, event) ∈ consumed ∧ bytes = clipped event reader.len ∧ stored event.1 ≠ []

structure System.Sound (x : System) : Prop where
  refines : x.monitor.Refines
  printable : ∀ event ∈ x.monitor.queue.items, stored event.1 ≠ []
  order : (x.consumed.map (·.2) ++ x.monitor.queue.items).Sublist x.monitor.emitted.zipIdx
  backed : x.woken ≤ x.monitor.queue.items.length
  told : ∀ k reader, x.readers[k]? = some reader → Told x.consumed k reader

theorem sound_start : System.start.Sound where
  refines := refines_start
  printable := by simp [System.start, Monitor.start, Fifo.empty]
  order := by simp [System.start, Monitor.start, Fifo.empty]
  backed := Nat.zero_le _
  told := by simp [System.start]

theorem told_waits (consumed : List (Nat × DawnHex.Event)) (k : Nat) (reader : Reader)
    (running : ∀ result, reader.phase ≠ .returned result) : Told consumed k reader :=
  fun bytes done => absurd done (running (.ok bytes))

theorem told_grows (consumed more : List (Nat × DawnHex.Event)) (k : Nat) (reader : Reader)
    (told : Told consumed k reader) : Told (consumed ++ more) k reader := by
  intro bytes done
  obtain ⟨event, member, same, printable⟩ := told bytes done
  exact ⟨event, List.mem_append_left more member, same, printable⟩

theorem unread_queue (x : System) (sound : x.Sound) :
    x.unread = x.monitor.queue.items.length := by
  rw [System.unread, (faithful_of_refines x.monitor sound.refines).slots, List.length_map]

theorem sound_emit (x : System) (message : Message) (sound : x.Sound) :
    (x.step (.emit message)).Sound where
  refines := refines_emit x.monitor message.bytes sound.refines
  printable := by
    intro event member
    have kept := (offer_sublist x.monitor.queue (message.bytes, x.monitor.emitted.length)).subset
      member
    rw [List.mem_append, List.mem_singleton] at kept
    rcases kept with old | fresh
    · exact sound.printable event old
    · rw [fresh]
      exact message.printable
  order := emit_order x.monitor _ message.bytes sound.order
  backed := sound.backed.trans (offer_length _ _)
  told := sound.told

theorem sound_enter (x : System) (len : Nat) (positive : 0 < len) (sound : x.Sound) :
    (x.step (.enter len positive)).Sound where
  refines := sound.refines
  printable := sound.printable
  order := sound.order
  backed := by
    have same : (x.step (.enter len positive)).woken = x.woken := by
      simp [System.woken, System.step, List.countP_append, Phase.isWoken]
    exact same ▸ sound.backed
  told := by
    intro k reader found
    rcases found_spawned _ _ _ _ found with old | ⟨_, rfl⟩
    · exact sound.told k reader old
    · exact told_waits _ _ _ fun result done => nomatch done

theorem woken_moved (x : System) (k : Nat) (reader : Reader) (phase : Phase)
    (found : x.readers[k]? = some reader) :
    (x.moveTo k phase).woken + (if reader.phase.isWoken then 1 else 0) =
      x.woken + (if phase.isWoken then 1 else 0) :=
  count_modified (fun reader : Reader => reader.phase.isWoken) x.readers
    (fun reader => { reader with phase := phase }) k reader found

/-- A call that is not past its wait moves on without returning anything. -/
theorem sound_moved (x : System) (k : Nat) (reader : Reader) (phase : Phase) (sound : x.Sound)
    (found : x.readers[k]? = some reader) (outside : reader.phase.isWoken = false)
    (running : ∀ result, phase ≠ .returned result)
    (backed : phase.isWoken = true → x.woken < x.monitor.queue.items.length) :
    (x.moveTo k phase).Sound where
  refines := sound.refines
  printable := sound.printable
  order := sound.order
  backed := by
    have counted := woken_moved x k reader phase found
    have before := sound.backed
    rw [if_neg (by simp [outside])] at counted
    change (x.moveTo k phase).woken ≤ x.monitor.queue.items.length
    split at counted
    · next passes =>
        have room := backed passes
        omega
    · omega
  told := by
    intro j moved there
    rcases found_modified _ _ _ _ _ there with ⟨_, old⟩ | ⟨_, before, _, rfl⟩
    · exact sound.told j moved old
    · exact told_waits _ _ _ running

/-- A call on its way to the lock is one that an unread event is left for. -/
theorem woken_queue (x : System) (k : Nat) (reader : Reader) (sound : x.Sound)
    (found : x.readers[k]? = some reader) (woken : reader.phase = .woken) :
    ∃ event rest, x.monitor.queue.items = event :: rest := by
  have counted : 0 < x.woken :=
    List.countP_pos_iff.mpr ⟨reader, List.mem_of_getElem? found, by rw [woken]; rfl⟩
  have backed := sound.backed
  exact List.exists_cons_of_length_pos (by omega)

theorem step_finish (x : System) (k len : Nat) (positive : 0 < len) (copied : Bool)
    (found : x.readers[k]? = some ⟨len, positive, .woken⟩) :
    x.step (.finish k copied) =
      { x.moveTo k (.returned (dhRead x.monitor.cluster len copied).2) with
        monitor := x.monitor.step (.read len copied)
        consumed := x.consumed ++ x.monitor.queue.items.head?.toList.map (k, ·) } := by
  simp only [System.step, found]

theorem read_takes (m : Monitor) (len : Nat) (positive : 0 < len) (copied : Bool) :
    (m.step (.read len copied)).queue.items = m.queue.items.tail ∧
      (m.step (.read len copied)).emitted = m.emitted := by
  simp [Monitor.step, Fifo.take, Nat.ne_of_gt positive]

theorem sound_finish (x : System) (k len : Nat) (positive : 0 < len) (copied : Bool)
    (sound : x.Sound) (found : x.readers[k]? = some ⟨len, positive, .woken⟩) :
    (x.step (.finish k copied)).Sound := by
  obtain ⟨event, rest, items⟩ := woken_queue x k _ sound found rfl
  obtain ⟨ring, rep, same⟩ := sound.refines.ring
  obtain ⟨_, _, bytes, failed⟩ :=
    refined_read x.monitor ring len copied event rest positive rep same items
  obtain ⟨queue, emitted⟩ := read_takes x.monitor len positive copied
  have left : (x.monitor.step (.read len copied)).queue.items = rest := by
    rw [queue, items, List.tail_cons]
  have taken : x.monitor.queue.items.head?.toList.map (k, ·) = [(k, event)] := by
    rw [items]
    rfl
  rw [step_finish x k len positive copied found, taken]
  constructor
  · exact refines_read x.monitor len copied sound.refines
  · intro later member
    rw [left] at member
    exact sound.printable later (items ▸ List.mem_cons_of_mem event member)
  · have order := sound.order
    rw [items] at order
    rw [left, emitted, List.map_append, List.append_assoc]
    exact order
  · have counted := woken_moved x k _ (.returned (dhRead x.monitor.cluster len copied).2) found
    have backed := sound.backed
    rw [items, List.length_cons] at backed
    rw [left]
    simp only [Phase.isWoken, if_true, Bool.false_eq_true, if_false] at counted
    change (x.moveTo k _).woken ≤ rest.length
    omega
  · intro j reader there
    rcases found_modified _ _ _ _ _ there with ⟨_, old⟩ | ⟨rfl, before, was, rfl⟩
    · exact told_grows _ _ j reader (sound.told j reader old)
    · obtain rfl : _ = before := Option.some.inj (found.symm.trans was)
      intro told done
      have result : (dhRead x.monitor.cluster len copied).2 = .ok told := Phase.returned.inj done
      refine ⟨event, List.mem_append_right _ List.mem_cons_self, ?_, ?_⟩
      · cases copied with
        | true => exact Except.ok.inj (result.symm.trans bytes)
        | false => cases failed.symm.trans result
      · exact sound.printable event (items ▸ List.mem_cons_self)

theorem sound_step (x : System) (action : Action) (sound : x.Sound) (backed : Backed x action) :
    (x.step action).Sound := by
  cases action with
  | emit message => exact sound_emit x message sound
  | enter len positive => exact sound_enter x len positive sound
  | load k =>
      rw [System.step]
      split
      · next found =>
          exact sound_moved x k _ (.loaded _) sound found rfl (fun _ done => nomatch done)
            fun woken => nomatch woken
      · exact sound
  | test k =>
      rw [System.step]
      split
      · next head found =>
          split
          · next unequal =>
              apply sound_moved x k _ .woken sound found rfl (fun _ done => nomatch done)
              intro _
              rw [← unread_queue x sound]
              exact backed _ head found rfl unequal
          · exact sound_moved x k _ .waiting sound found rfl (fun _ done => nomatch done)
              fun woken => nomatch woken
      · exact sound
  | signal k =>
      rw [System.step]
      split
      · next found =>
          exact sound_moved x k _ .interrupted sound found rfl (fun _ done => nomatch done)
            fun woken => nomatch woken
      · exact sound
  | finish k copied =>
      by_cases woken : ∃ len positive, x.readers[k]? = some ⟨len, positive, .woken⟩
      · obtain ⟨len, positive, found⟩ := woken
        exact sound_finish x k len positive copied sound found
      · rw [System.step]
        split
        · next len positive found => exact absurd ⟨len, positive, found⟩ woken
        · exact sound

theorem honest_of_sound (x : System) (sound : x.Sound) : x.Honest := by
  have taken := (List.sublist_append_left _ _).trans sound.order
  have numbers : (x.monitor.emitted.zipIdx.map (·.2)).Nodup := by
    rw [List.zipIdx_map_snd]
    exact List.nodup_range'
  -- The number of an event tells which one it is, so none is taken twice.
  have distinct : (x.consumed.map (·.2)).Nodup := taken.nodup (List.Nodup.of_map _ numbers)
  constructor
  · intro k reader bytes found done
    obtain ⟨event, _, rfl, printable⟩ := sound.told k reader found bytes done
    rw [clipped, ne_eq, List.take_eq_nil_iff, not_or]
    exact ⟨Nat.ne_of_gt reader.positive, printable⟩
  · intro k reader bytes found done
    obtain ⟨event, member, same, _⟩ := sound.told k reader found bytes done
    refine ⟨event, taken.subset (List.mem_map_of_mem member), member, same, ?_⟩
    intro j other
    exact congrArg Prod.fst (List.inj_on_of_nodup_map distinct other member rfl)

theorem woken_reader (x : System) (some_woken : 0 < x.woken) :
    ∃ (k len : Nat) (positive : 0 < len),
      x.readers[k]? = some (⟨len, positive, .woken⟩ : Reader) := by
  obtain ⟨⟨len, positive, phase⟩, member, woken⟩ := List.countP_pos_iff.mp some_woken
  obtain ⟨k, found⟩ := List.mem_iff_getElem?.mp member
  cases phase with
  | woken => exact ⟨k, len, positive, found⟩
  | _ => cases woken

theorem moved_found (x : System) (k : Nat) (reader : Reader) (phase : Phase)
    (found : x.readers[k]? = some reader) :
    (x.moveTo k phase).readers[k]? = some { reader with phase := phase } := by
  simp [System.moveTo, found]

/-- More calls are on their way to the lock than events are left: when all of
them come before the next emitter, one finds nothing. -/
theorem overdrawn_returns_zero (n : Nat) (x : System) (refines : x.monitor.Refines)
    (left : x.monitor.queue.items.length = n) (overdrawn : n < x.woken) :
    ∃ rest, ¬(Trace.run System.step x rest).Honest := by
  induction n generalizing x with
  | zero =>
      obtain ⟨k, len, positive, found⟩ := woken_reader x overdrawn
      obtain ⟨ring, rep, same⟩ := refines.ring
      have empty := (refined_empty x.monitor ring rep same).mpr (List.length_eq_zero_iff.mp left)
      refine ⟨[.finish k true], fun honest => ?_⟩
      rw [Trace.run_cons, Trace.run_nil, step_finish x k len positive true found,
        read_empty _ _ _ empty] at honest
      exact honest.nonzero k _ [] (moved_found x k _ _ found) rfl rfl
  | succ n ih =>
      obtain ⟨k, len, positive, found⟩ := woken_reader x (Nat.zero_lt_of_lt overdrawn)
      have after := step_finish x k len positive true found
      have counted := woken_moved x k _ (.returned (dhRead x.monitor.cluster len true).2) found
      simp only [Phase.isWoken, if_true, Bool.false_eq_true, if_false] at counted
      obtain ⟨rest, dishonest⟩ := ih (x.step (.finish k true))
        (by rw [after]; exact refines_read x.monitor len true refines)
        (by
          rw [after]
          change (x.monitor.step (.read len true)).queue.items.length = n
          rw [(read_takes x.monitor len positive true).1, List.length_tail, left]
          rfl)
        (by
          rw [after]
          change n < (x.moveTo k _).woken
          omega)
      exact ⟨.finish k true :: rest, dishonest⟩

theorem unbacked_returns_zero (x : System) (k : Nat) (sound : x.Sound)
    (unbacked : ¬Backed x (.test k)) :
    ∃ rest, ¬(Trace.run System.step x (.test k :: rest)).Honest := by
  simp only [Backed, not_forall, Nat.not_lt] at unbacked
  obtain ⟨⟨len, positive, phase⟩, head, found, rfl, unequal, spent⟩ := unbacked
  have after : x.step (.test k) = x.moveTo k .woken := by
    simp only [System.step, found, if_pos unequal]
  have counted := woken_moved x k _ .woken found
  simp only [Phase.isWoken, if_true, Bool.false_eq_true, if_false] at counted
  rw [unread_queue x sound] at spent
  obtain ⟨rest, dishonest⟩ := overdrawn_returns_zero _ (x.moveTo k .woken) sound.refines rfl
    (Nat.lt_of_le_of_lt spent (by omega))
  refine ⟨rest, ?_⟩
  rwa [Trace.run_cons, after]

/-- In every run in which no call passes its wait for an event that is spoken
for, no call returns 0 and each returns an event of its own. After such a run a
call that does pass its wait for one can make some call return 0. -/
theorem backed_readers_honest (actions : List Action)
    (backed : Trace.Steps System.step Backed System.start actions) :
    Trace.Always System.step System.Honest System.start actions ∧
      ∀ k, ¬Backed (Trace.run System.step System.start actions) (.test k) →
        ∃ rest, ¬Trace.Always System.step System.Honest System.start
          (actions ++ .test k :: rest) := by
  have always := Trace.always_of_steps System.step Backed System.Sound sound_step _ actions
    sound_start backed
  refine ⟨Trace.always_mono System.step System.Sound System.Honest honest_of_sound _ actions always,
    ?_⟩
  intro k unbacked
  obtain ⟨rest, dishonest⟩ := unbacked_returns_zero _ k
    (Trace.always_final System.step System.Sound _ actions always) unbacked
  refine ⟨rest, fun honest => dishonest ?_⟩
  have last := Trace.always_final System.step System.Honest _ _ honest
  rwa [Trace.run_append] at last

def pulse : Message := ⟨text "tick id=0", by decide⟩

/-- One call and one event. -/
theorem lone_reader_honest :
    (Trace.run System.step System.start [.enter 64 (by decide), .emit pulse, .load 0, .test 0,
      .finish 0 true]).Honest := by
  have always := (backed_readers_honest
    [.enter 64 (by decide), .emit pulse, .load 0, .test 0, .finish 0 true]
    ⟨trivial, trivial, trivial, fun _ _ _ _ _ => by decide +kernel, trivial, trivial⟩).1
  exact Trace.always_final System.step System.Honest _ _ always

/-- Two calls pass their wait for one event. -/
def crowd : List Action :=
  [.enter 64 (by decide), .enter 64 (by decide), .emit pulse, .load 0, .test 0, .load 1, .test 1,
    .finish 0 true, .finish 1 true]

theorem second_reader_gets_zero :
    ¬Trace.Always System.step System.Honest System.start crowd := by
  intro always
  have honest := Trace.always_final System.step System.Honest System.start crowd always
  have found : (Trace.run System.step System.start crowd).readers[1]?.map (·.phase) =
      some (.returned (.ok [])) := by decide +kernel
  obtain ⟨reader, there, done⟩ := Option.map_eq_some_iff.mp found
  exact honest.nonzero 1 reader [] there done rfl

section Emitters

structure SameRing (s t : State) : Prop where
  events : t.events = s.events
  head : t.evHead = s.evHead
  tail : t.evTail = s.evTail

def emitAll (s : State) (messages : List Message) : State :=
  messages.foldl (fun s message => dhEmitEventLocked s message.bytes) s

/-- On the ring, the second state is the first after some messages. -/
def Emits (s t : State) : Prop := ∃ messages, SameRing (emitAll s messages) t

theorem same_ring_emit (s t : State) (message : List UInt8) (same : SameRing s t) :
    SameRing (dhEmitEventLocked s message) (dhEmitEventLocked t message) where
  events := by simp only [dhEmitEventLocked, same.events, same.head]
  head := by simp only [dhEmitEventLocked, same.head]
  tail := by simp only [dhEmitEventLocked, same.head, same.tail]

theorem same_ring_trans (s t u : State) (first : SameRing s t) (second : SameRing t u) :
    SameRing s u :=
  ⟨second.events.trans first.events, second.head.trans first.head, second.tail.trans first.tail⟩

theorem same_ring_all (s t : State) (messages : List Message) (same : SameRing s t) :
    SameRing (emitAll s messages) (emitAll t messages) := by
  induction messages generalizing s t with
  | nil => exact same
  | cons message rest ih => exact ih _ _ (same_ring_emit s t message.bytes same)

theorem emits_quiet (s t : State) (same : SameRing s t) : Emits s t := ⟨[], same⟩

theorem emits_trans (s t u : State) (first : Emits s t) (second : Emits t u) : Emits s u := by
  obtain ⟨before, same⟩ := first
  obtain ⟨after, last⟩ := second
  refine ⟨before ++ after, ?_⟩
  rw [emitAll, List.foldl_append]
  exact same_ring_trans _ _ _ (same_ring_all _ _ after same) last

/-- A longer text leaves something in its slot too. -/
theorem printable_append (front back : List UInt8) (printable : stored front ≠ []) :
    stored (front ++ back) ≠ [] := by
  cases front with
  | nil => exact absurd rfl printable
  | cons first rest =>
      have solid : first ≠ 0 := by
        rintro rfl
        exact printable (by simp [stored, strscpy, cString, dawnhexEventLen])
      simp [stored, strscpy, cString, dawnhexEventLen, solid]

theorem printable_field (label : String) (value : Nat) (printable : stored (text label) ≠ []) :
    stored (field label value) ≠ [] :=
  printable_append (text label) (decimal value) printable

theorem emits_message (s t : State) (message : List UInt8) (printable : stored message ≠ [])
    (same : SameRing s t) : Emits s (dhEmitEventLocked t message) :=
  ⟨[⟨message, printable⟩], same_ring_emit s t message same⟩

variable (s : State)

theorem add_emits (id : UInt32) (name : List UInt8) : Emits s (dhAddNodeLocked s id name).1 := by
  unfold dhAddNodeLocked
  split
  · exact emits_quiet s s ⟨rfl, rfl, rfl⟩
  · split
    · exact emits_quiet s s ⟨rfl, rfl, rfl⟩
    · refine emits_message s _ _ ?_ ⟨rfl, rfl, rfl⟩
      exact printable_append _ _ (printable_append _ _ (printable_field _ _ (by decide)))

theorem del_emits (id : UInt32) : Emits s (dhDelNodeLocked s id).1 := by
  unfold dhDelNodeLocked
  split
  · exact emits_quiet s s ⟨rfl, rfl, rfl⟩
  · split
    · exact emits_quiet s s ⟨rfl, rfl, rfl⟩
    · exact emits_message s _ _ (printable_field _ _ (by decide)) ⟨rfl, rfl, rfl⟩

theorem link_emits (a b : UInt32) (enable : Bool) : Emits s (dhLinkLocked s a b enable).1 := by
  unfold dhLinkLocked
  split
  · exact emits_quiet s s ⟨rfl, rfl, rfl⟩
  · split
    · have printable : stored (text (if enable then "link a=" else "unlink a=")) ≠ [] := by
        cases enable <;> decide
      exact ⟨[⟨_, printable_append _ (field " b=" b.toNat) (printable_field _ a.toNat printable)⟩],
        rfl, rfl, rfl⟩
    · exact emits_quiet s s ⟨rfl, rfl, rfl⟩

theorem set_field_emits (id : UInt32) (change : Node → Node) (message : Node → List UInt8)
    (printable : ∀ n, stored (message n) ≠ []) : Emits s (setNodeField s id change message).1 := by
  unfold setNodeField
  split
  · exact emits_quiet s s ⟨rfl, rfl, rfl⟩
  · exact emits_message s _ _ (printable _) ⟨rfl, rfl, rfl⟩

theorem tick_node_emits (i : Nat) : Emits s (tickNode s i) := by
  simp only [tickNode]
  split
  · exact emits_quiet s s ⟨rfl, rfl, rfl⟩
  · refine emits_message s _ _ ?_ ⟨rfl, rfl, rfl⟩
    exact printable_append _ _ (printable_append _ _
      (printable_append _ _ (printable_field _ _ (by decide))))

theorem tick_emits : Emits s (dhTickOnceLocked s) := by
  apply Trace.run_invariant tickNode (Emits s)
  · intro t i before
    exact emits_trans s t _ before (tick_node_emits t i)
  · exact emits_quiet s _ ⟨rfl, rfl, rfl⟩

theorem duo_add_emits (a b mode : UInt32) : Emits s (dhDuoAddPairLocked s a b mode).1 := by
  unfold dhDuoAddPairLocked
  split
  · exact emits_quiet s s ⟨rfl, rfl, rfl⟩
  · split
    · exact emits_quiet s s ⟨rfl, rfl, rfl⟩
    · split
      · refine emits_message s _ _ ?_ ⟨rfl, rfl, rfl⟩
        exact printable_append _ _ (printable_append _ _
          (printable_append _ _ (printable_field _ _ (by decide))))
      · exact emits_quiet s s ⟨rfl, rfl, rfl⟩

theorem duo_del_emits (pairId : UInt32) : Emits s (dhDuoDelPairLocked s pairId).1 := by
  unfold dhDuoDelPairLocked
  split
  · exact emits_message s _ _ (printable_field _ _ (by decide)) ⟨rfl, rfl, rfl⟩
  · exact emits_quiet s s ⟨rfl, rfl, rfl⟩

theorem duo_pulse_emits (pairId value : UInt32) :
    Emits s (dhDuoPulseLocked s pairId value).1 := by
  simp only [dhDuoPulseLocked]
  split
  · exact emits_quiet s s ⟨rfl, rfl, rfl⟩
  · split
    · exact emits_quiet s s ⟨rfl, rfl, rfl⟩
    · split
      · refine emits_message s _ _ ?_ ⟨rfl, rfl, rfl⟩
        exact printable_append _ _ (printable_append _ _
          (printable_append _ _ (printable_field _ _ (by decide))))
      · exact emits_quiet s s ⟨rfl, rfl, rfl⟩

/-- Every operation under the lock is an emitter: between two reads it does to
the ring what some messages do. -/
theorem command_emits (command : Command) : Emits s (step s command) := by
  cases command with
  | add id name => exact add_emits s id name
  | del id => exact del_emits s id
  | link a b => exact link_emits s a b true
  | unlink a b => exact link_emits s a b false
  | online id value =>
      exact set_field_emits s id _ _ fun _ => printable_append _ _ (printable_field _ _ (by decide))
  | energy id value =>
      exact set_field_emits s id _ _ fun _ => printable_append _ _ (printable_field _ _ (by decide))
  | health id value =>
      exact set_field_emits s id _ _ fun _ => printable_append _ _ (printable_field _ _ (by decide))
  | tick =>
      rw [step_tick]
      exact tick_emits s
  | interactive value =>
      exact emits_message s _ _ (printable_field _ _ (by decide)) ⟨rfl, rfl, rfl⟩
  | tickMs value => exact emits_message s _ _ (printable_field _ _ (by decide)) ⟨rfl, rfl, rfl⟩
  | snapshot =>
      refine emits_message s _ _ ?_ ⟨rfl, rfl, rfl⟩
      exact printable_append _ _ (printable_append _ _ (printable_field _ _ (by decide)))
  | help => exact emits_message s _ _ (by decide) ⟨rfl, rfl, rfl⟩
  | duoAdd a b mode =>
      rw [step_duo_add]
      exact duo_add_emits s a b mode
  | duoDel pairId => exact duo_del_emits s pairId
  | duoPulse pairId value => exact duo_pulse_emits s pairId value
  | duoSnapshot => exact emits_message s _ _ (printable_field _ _ (by decide)) ⟨rfl, rfl, rfl⟩

end Emitters

end RyzenBuild.EventReaders
