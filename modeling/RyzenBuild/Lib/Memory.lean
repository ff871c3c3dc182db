import Mathlib.Data.List.Range

/-!
Arrays seen as memory: a total map from indices to cells, of which a program
reads slices and overwrites slices. `memmove` copies through an intermediate
slice, so overlapping source and destination are covered.
-/
namespace RyzenBuild.Memory

variable {Cell : Type}

def slice (mem : Nat → Cell) (start count : Nat) : List Cell :=
  (List.range count).map fun k => mem (start + k)

def store (mem : Nat → Cell) (start : Nat) (chunk : List Cell) : Nat → Cell :=
  fun i => if start ≤ i then (chunk[i - start]?).getD (mem i) else mem i

def memmove (mem : Nat → Cell) (target source count : Nat) : Nat → Cell :=
  store mem target (slice mem source count)

@[simp] theorem slice_length (mem : Nat → Cell) (start count : Nat) :
    (slice mem start count).length = count := by
  simp [slice]

@[simp] theorem slice_zero (mem : Nat → Cell) (start : Nat) : slice mem start 0 = [] := rfl

theorem slice_getElem? (mem : Nat → Cell) (start count k : Nat) (inside : k < count) :
    (slice mem start count)[k]? = some (mem (start + k)) := by
  simp [slice, inside]

theorem mem_slice (mem : Nat → Cell) (start count : Nat) (cell : Cell) :
    cell ∈ slice mem start count ↔ ∃ k, k < count ∧ mem (start + k) = cell := by
  simp [slice]

theorem slice_add (mem : Nat → Cell) (start first second : Nat) :
    slice mem start (first + second) =
      slice mem start first ++ slice mem (start + first) second := by
  simp [slice, List.range_add, Nat.add_assoc]

theorem slice_shift (left right : Nat → Cell) (here there count : Nat)
    (same : ∀ k, k < count → left (here + k) = right (there + k)) :
    slice left here count = slice right there count := by
  apply List.map_congr_left
  intro k member
  exact same k (List.mem_range.mp member)

theorem store_below (mem : Nat → Cell) (start i : Nat) (chunk : List Cell)
    (below : i < start) : store mem start chunk i = mem i := by
  simp [store, Nat.not_le.mpr below]

@[simp] theorem store_nil (mem : Nat → Cell) (start : Nat) : store mem start [] = mem := by
  funext i
  simp [store]

theorem store_outside (mem : Nat → Cell) (start i : Nat) (chunk : List Cell)
    (behind : start + chunk.length ≤ i) : store mem start chunk i = mem i := by
  have missing : chunk.length ≤ i - start := by omega
  simp [store, List.getElem?_eq_none missing]

/-- Two stores right behind each other are one store. -/
theorem store_append (mem : Nat → Cell) (start : Nat) (first second : List Cell) :
    store (store mem start first) (start + first.length) second =
      store mem start (first ++ second) := by
  funext i
  by_cases reached : start + first.length ≤ i
  · have past : first.length ≤ i - start := by omega
    have offset : i - (start + first.length) = i - start - first.length := by omega
    have here : start ≤ i := by omega
    simp [store, reached, here, List.getElem?_append_right past, offset,
      List.getElem?_eq_none past]
  · rw [store_below _ _ _ _ (Nat.lt_of_not_le reached)]
    by_cases here : start ≤ i
    · have inside : i - start < first.length := by omega
      simp [store, here, List.getElem?_append_left inside]
    · simp [store, here]

theorem store_inside (mem : Nat → Cell) (start k : Nat) (chunk : List Cell)
    (inside : k < chunk.length) : store mem start chunk (start + k) = chunk[k] := by
  simp [store, inside]

theorem slice_store (mem : Nat → Cell) (start : Nat) (chunk : List Cell) :
    slice (store mem start chunk) start chunk.length = chunk := by
  apply List.ext_getElem (by simp)
  intro k bound inside
  simp [slice, store_inside mem start k chunk inside]

theorem slice_store_before (mem : Nat → Cell) (start target count : Nat) (chunk : List Cell)
    (before : start + count ≤ target) :
    slice (store mem target chunk) start count = slice mem start count := by
  apply slice_shift
  intro k inside
  exact store_below mem target (start + k) chunk (by omega)

/-- Appending a chunk right behind a slice extends the slice by the chunk. -/
theorem slice_store_append (mem : Nat → Cell) (start count : Nat) (chunk : List Cell) :
    slice (store mem (start + count) chunk) start (count + chunk.length) =
      slice mem start count ++ chunk := by
  rw [slice_add, slice_store_before _ _ _ _ _ (Nat.le_refl _), slice_store]

theorem slice_memmove (mem : Nat → Cell) (target source count : Nat) :
    slice (memmove mem target source count) target count = slice mem source count := by
  have moved := slice_store mem target (slice mem source count)
  rwa [slice_length] at moved

/-- Closing the gap over cell `hole` of a table of `count` cells removes
exactly that cell and keeps the others in order. -/
theorem slice_close_gap (mem : Nat → Cell) (hole count : Nat) (inside : hole < count) :
    slice (memmove mem hole (hole + 1) (count - hole - 1)) 0 (count - 1) =
      (slice mem 0 count).eraseIdx hole := by
  have total : count - 1 = hole + (count - hole - 1) := by omega
  have whole : count = hole + (1 + (count - hole - 1)) := by omega
  have front : slice (memmove mem hole (hole + 1) (count - hole - 1)) 0 hole =
      slice mem 0 hole := by
    apply slice_store_before
    omega
  have back := slice_memmove mem hole (hole + 1) (count - hole - 1)
  rw [total, slice_add, front, Nat.zero_add, back]
  conv_rhs => rw [whole, slice_add, slice_add, Nat.zero_add]
  rw [List.eraseIdx_append_of_length_le (by simp)]
  simp [slice]

end RyzenBuild.Memory
