import Mathlib.Data.List.Range

/-!
A ring of `size` slots, one of which always stays free, so that equal indices
mean empty. A writer that meets the reader's index moves it on, which makes
the ring a FIFO queue of capacity `size - 1` that gives up its oldest item.
-/
namespace RyzenBuild.RingQueue

variable {Item : Type} {size capacity : Nat}

structure Fifo (capacity : Nat) (Item : Type) where
  items : List Item
  bounded : items.length ≤ capacity

/-- The newest `capacity` of the items and the new one. -/
def Fifo.offer (queue : Fifo capacity Item) (item : Item) : Fifo capacity Item where
  items := (queue.items ++ [item]).drop (queue.items.length + 1 - capacity)
  bounded := by
    simp only [List.length_drop, List.length_append, List.length_singleton]
    omega

def Fifo.take (queue : Fifo capacity Item) : Fifo capacity Item where
  items := queue.items.tail
  bounded := by
    have := queue.bounded
    simp only [List.length_tail]
    omega

def Fifo.empty : Fifo capacity Item := ⟨[], Nat.zero_le capacity⟩

theorem Fifo.ext_items (left right : Fifo capacity Item) (same : left.items = right.items) :
    left = right := by
  cases left
  cases right
  cases same
  rfl

theorem offer_sublist (queue : Fifo capacity Item) (item : Item) :
    (queue.offer item).items.Sublist (queue.items ++ [item]) :=
  List.drop_sublist _ _

theorem offer_length (queue : Fifo capacity Item) (item : Item) :
    queue.items.length ≤ (queue.offer item).items.length := by
  have bounded := queue.bounded
  simp only [Fifo.offer, List.length_drop, List.length_append, List.length_singleton]
  omega

/-- A queue with room left loses nothing. -/
theorem offer_spare (queue : Fifo capacity Item) (item : Item)
    (room : queue.items.length < capacity) :
    (queue.offer item).items = queue.items ++ [item] := by
  have none : queue.items.length + 1 - capacity = 0 := Nat.sub_eq_zero_of_le room
  simp only [Fifo.offer, none, List.drop_zero]

def Fifo.map {Other : Type} (queue : Fifo capacity Item) (change : Item → Other) :
    Fifo capacity Other :=
  ⟨queue.items.map change, by simpa using queue.bounded⟩

theorem map_offer {Other : Type} (queue : Fifo capacity Item) (change : Item → Other)
    (item : Item) : (queue.offer item).map change = (queue.map change).offer (change item) := by
  apply Fifo.ext_items
  simp [Fifo.map, Fifo.offer, List.map_drop]

theorem map_take {Other : Type} (queue : Fifo capacity Item) (change : Item → Other) :
    queue.take.map change = (queue.map change).take := by
  apply Fifo.ext_items
  simp [Fifo.map, Fifo.take]

structure Ring (size : Nat) (Item : Type) where
  slots : Nat → Item
  head : Nat
  tail : Nat
  head_lt : head < size
  tail_lt : tail < size

def advance (size index : Nat) : Nat := (index + 1) % size

theorem advance_lt (index : Nat) (inside : index < size) : advance size index < size :=
  Nat.mod_lt _ (Nat.zero_lt_of_lt inside)

theorem advance_cases (index : Nat) (inside : index < size) :
    index + 1 < size ∧ advance size index = index + 1 ∨
      index + 1 = size ∧ advance size index = 0 := by
  rcases Nat.lt_or_eq_of_le (Nat.succ_le_of_lt inside) with before | last
  · exact Or.inl ⟨before, Nat.mod_eq_of_lt before⟩
  · have last : index + 1 = size := last
    exact Or.inr ⟨last, by rw [advance, last, Nat.mod_self]⟩

theorem wrap_cases (start offset : Nat) (inside : start < size) (short : offset ≤ size) :
    start + offset < size ∧ (start + offset) % size = start + offset ∨
      size ≤ start + offset ∧ (start + offset) % size = start + offset - size := by
  rcases Nat.lt_or_ge (start + offset) size with before | after
  · exact Or.inl ⟨before, Nat.mod_eq_of_lt before⟩
  · refine Or.inr ⟨after, ?_⟩
    rw [Nat.mod_eq_sub_mod after]
    exact Nat.mod_eq_of_lt (by omega)

def window (size : Nat) (slots : Nat → Item) (start count : Nat) : List Item :=
  (List.range count).map fun k => slots ((start + k) % size)

@[simp] theorem window_length (slots : Nat → Item) (start count : Nat) :
    (window size slots start count).length = count := by
  simp [window]

theorem window_cons (slots : Nat → Item) (start count : Nat) (inside : start < size) :
    window size slots start (count + 1) =
      slots start :: window size slots (advance size start) count := by
  simp only [window, List.range_succ_eq_map, List.map_cons, List.map_map, Nat.add_zero,
    Nat.mod_eq_of_lt inside, List.cons.injEq, true_and]
  apply List.map_congr_left
  intro k _
  simp only [Function.comp, advance, Nat.mod_add_mod]
  congr 2
  omega

theorem window_snoc (slots : Nat → Item) (start count : Nat) :
    window size slots start (count + 1) =
      window size slots start count ++ [slots ((start + count) % size)] := by
  simp [window, List.range_succ]

/-- The slots from `tail` up to `head`. -/
def used (size head tail : Nat) : Nat := (head + size - tail) % size

theorem used_cases (head tail : Nat) (headInside : head < size) (tailInside : tail < size) :
    tail ≤ head ∧ used size head tail = head - tail ∨
      head < tail ∧ used size head tail = head + size - tail := by
  rcases Nat.lt_or_ge head tail with wrapped | straight
  · exact Or.inr ⟨wrapped, Nat.mod_eq_of_lt (by omega)⟩
  · refine Or.inl ⟨straight, ?_⟩
    rw [used, Nat.mod_eq_sub_mod (by omega), Nat.mod_eq_of_lt (by omega)]
    omega

def Ring.fifo (ring : Ring size Item) : Fifo (size - 1) Item where
  items := window size ring.slots ring.tail (used size ring.head ring.tail)
  bounded := by
    have := used_cases ring.head ring.tail ring.head_lt ring.tail_lt
    have := ring.tail_lt
    have := ring.head_lt
    rw [window_length]
    omega

def Ring.put (ring : Ring size Item) (item : Item) : Ring size Item where
  slots := fun k => if k = ring.head then item else ring.slots k
  head := advance size ring.head
  tail := if advance size ring.head = ring.tail then advance size ring.tail else ring.tail
  head_lt := advance_lt ring.head ring.head_lt
  tail_lt := by
    split
    · exact advance_lt ring.tail ring.tail_lt
    · exact ring.tail_lt

def Ring.skip (ring : Ring size Item) : Ring size Item :=
  { ring with
    tail := advance size ring.tail
    tail_lt := advance_lt ring.tail ring.tail_lt }

/-- Equal indices mean empty: a full ring keeps one slot free. -/
theorem ring_empty_iff (ring : Ring size Item) :
    ring.fifo.items = [] ↔ ring.head = ring.tail := by
  have counted := used_cases ring.head ring.tail ring.head_lt ring.tail_lt
  have := ring.tail_lt
  have := ring.head_lt
  rw [← List.length_eq_zero_iff, Ring.fifo, window_length]
  omega

theorem ring_skip (ring : Ring size Item) (readable : ring.head ≠ ring.tail) :
    ring.fifo.items = ring.slots ring.tail :: ring.skip.fifo.items := by
  have before := used_cases ring.head ring.tail ring.head_lt ring.tail_lt
  have after := used_cases ring.head (advance size ring.tail) ring.head_lt
    (advance_lt ring.tail ring.tail_lt)
  have moved := advance_cases ring.tail ring.tail_lt
  have := ring.head_lt
  have one : used size ring.head ring.tail =
      used size ring.head (advance size ring.tail) + 1 := by omega
  simp only [Ring.fifo, Ring.skip, one]
  exact window_cons ring.slots ring.tail _ ring.tail_lt

/-- The write goes behind the unread items, whether or not it overwrites. -/
theorem window_put (ring : Ring size Item) (item : Item) :
    window size (ring.put item).slots ring.tail (used size ring.head ring.tail + 1) =
      ring.fifo.items ++ [item] := by
  have counted := used_cases ring.head ring.tail ring.head_lt ring.tail_lt
  have tailInside := ring.tail_lt
  have headInside := ring.head_lt
  rw [window_snoc]
  congr 1
  · apply List.map_congr_left
    intro k member
    have unread := List.mem_range.mp member
    have place := wrap_cases ring.tail k tailInside (by omega)
    have apart : (ring.tail + k) % size ≠ ring.head := by omega
    simp [Ring.put, apart]
  · have place := wrap_cases ring.tail (used size ring.head ring.tail) tailInside (by omega)
    have behind : (ring.tail + used size ring.head ring.tail) % size = ring.head := by omega
    simp [Ring.put, behind]

/-- The ring refines the bounded queue: a write offers, a skip takes. -/
theorem fifo_put (ring : Ring size Item) (item : Item) :
    (ring.put item).fifo = ring.fifo.offer item := by
  have counted := used_cases ring.head ring.tail ring.head_lt ring.tail_lt
  have moved := advance_cases ring.head ring.head_lt
  have tailInside := ring.tail_lt
  have headInside := ring.head_lt
  apply Fifo.ext_items
  have length : ring.fifo.items.length = used size ring.head ring.tail := by simp [Ring.fifo]
  simp only [Fifo.offer, length, ← window_put ring item]
  by_cases full : advance size ring.head = ring.tail
  · have all : used size ring.head ring.tail + 1 - (size - 1) = 1 := by omega
    have kept := used_cases (advance size ring.head) (advance size ring.tail)
      (advance_lt ring.head headInside) (advance_lt ring.tail tailInside)
    have next := advance_cases ring.tail tailInside
    have same : used size (advance size ring.head) (advance size ring.tail) =
        used size ring.head ring.tail := by omega
    rw [all, window_cons _ _ _ tailInside, List.drop_one, List.tail_cons]
    simp only [Ring.fifo, Ring.put, if_pos full, same]
  · have spare : used size ring.head ring.tail + 1 - (size - 1) = 0 := by omega
    have grown := used_cases (advance size ring.head) ring.tail
      (advance_lt ring.head headInside) tailInside
    have more : used size (advance size ring.head) ring.tail =
        used size ring.head ring.tail + 1 := by omega
    rw [spare, List.drop_zero]
    simp only [Ring.fifo, Ring.put, full, ↓reduceIte, more]

theorem fifo_skip (ring : Ring size Item) (readable : ring.head ≠ ring.tail) :
    ring.skip.fifo = ring.fifo.take := by
  apply Fifo.ext_items
  simp [Fifo.take, ring_skip ring readable]

end RyzenBuild.RingQueue
