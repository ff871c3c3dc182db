import RyzenBuild.Lib.Memory

/-!
A write position over a caller's buffer of known capacity, as in a routine
that is called once without a buffer to learn the size and once more to fill
it. The position advances whether or not a chunk fits. The last section is
about a page that is printed on until its end.
-/
namespace RyzenBuild.Writer

open Memory

variable {Cell : Type}

/-- `out` is `none` for the null pointer of a sizing call. -/
structure Cursor (Cell : Type) where
  written : Nat
  out : Option (Nat → Cell)

def put (cap : Nat) (w : Cursor Cell) (chunk : List Cell) : Cursor Cell :=
  { written := w.written + chunk.length
    out := w.out.map fun mem =>
      if w.written + chunk.length ≤ cap then store mem w.written chunk else mem }

def emit (cap : Nat) (w : Cursor Cell) (chunks : List (List Cell)) : Cursor Cell :=
  chunks.foldl (put cap) w

@[simp] theorem emit_nil (cap : Nat) (w : Cursor Cell) : emit cap w [] = w := rfl

@[simp] theorem emit_cons (cap : Nat) (w : Cursor Cell) (chunk : List Cell)
    (rest : List (List Cell)) : emit cap w (chunk :: rest) = emit cap (put cap w chunk) rest := rfl

theorem emit_append (cap : Nat) (w : Cursor Cell) (first second : List (List Cell)) :
    emit cap w (first ++ second) = emit cap (emit cap w first) second := by
  simp [emit, List.foldl_append]

/-- The size does not depend on the buffer or its capacity. -/
theorem emit_written (cap : Nat) (w : Cursor Cell) (chunks : List (List Cell)) :
    (emit cap w chunks).written = w.written + chunks.flatten.length := by
  induction chunks generalizing w with
  | nil => rfl
  | cons chunk rest ih =>
      rw [emit_cons, ih, List.flatten_cons, List.length_append]
      exact Nat.add_assoc _ _ _

/-- When everything fits, the chunks stand in the buffer one behind another. -/
theorem emit_fits (cap : Nat) (written : Nat) (mem : Nat → Cell) (chunks : List (List Cell))
    (fits : written + chunks.flatten.length ≤ cap) :
    ∃ filled, (emit cap ⟨written, some mem⟩ chunks).out = some filled ∧
      slice filled 0 (written + chunks.flatten.length) =
        slice mem 0 written ++ chunks.flatten := by
  induction chunks generalizing written mem with
  | nil => exact ⟨mem, rfl, by simp⟩
  | cons chunk rest ih =>
      rw [List.flatten_cons, List.length_append] at fits
      have room : written + chunk.length ≤ cap := by omega
      obtain ⟨filled, out, content⟩ :=
        ih (written + chunk.length) (store mem written chunk) (by omega)
      refine ⟨filled, ?_, ?_⟩
      · rw [emit_cons]
        simpa [put, room] using out
      · have appended := slice_store_append mem 0 written chunk
        rw [Nat.zero_add] at appended
        rw [List.flatten_cons, List.length_append, ← Nat.add_assoc, content, appended,
          List.append_assoc]

/-- The chunks from the front that fit below `cap`, from position `written` on. -/
def fitting (cap written : Nat) : List (List Cell) → List (List Cell)
  | [] => []
  | chunk :: rest =>
      if written + chunk.length ≤ cap then chunk :: fitting cap (written + chunk.length) rest
      else []

theorem fitting_length_le (cap written : Nat) (chunks : List (List Cell)) (room : written ≤ cap) :
    written + (fitting cap written chunks).flatten.length ≤ cap := by
  induction chunks generalizing written with
  | nil => exact room
  | cons chunk rest ih =>
      rw [fitting]
      split
      · next fits =>
          rw [List.flatten_cons, List.length_append, ← Nat.add_assoc]
          exact ih (written + chunk.length) fits
      · exact room

/-- No longer beginning of the chunks fits: the first one left out goes past `cap`. -/
theorem fitting_longest (cap written : Nat) (chunks : List (List Cell)) :
    ∃ left, chunks = fitting cap written chunks ++ left ∧ ∀ next later, left = next :: later →
      cap < written + (fitting cap written chunks).flatten.length + next.length := by
  induction chunks generalizing written with
  | nil => exact ⟨[], rfl, fun _ _ absent => nomatch absent⟩
  | cons chunk rest ih =>
      rw [fitting]
      split
      · obtain ⟨left, parts, beyond⟩ := ih (written + chunk.length)
        refine ⟨left, by rw [List.cons_append, ← parts], fun next later shape => ?_⟩
        rw [List.flatten_cons, List.length_append, ← Nat.add_assoc]
        exact beyond next later shape
      · next full =>
          refine ⟨chunk :: rest, rfl, fun next later shape => ?_⟩
          cases shape
          exact Nat.lt_of_not_le full

/-- Of chunks of one cell each, as many fit as there is room. -/
theorem fitting_cells (cap written : Nat) (cells : List Cell) :
    (fitting cap written (cells.map ([·]))).flatten = cells.take (cap - written) := by
  induction cells generalizing written with
  | nil => rw [List.take_nil]; rfl
  | cons cell rest ih =>
      rw [List.map_cons, fitting]
      split
      · next room =>
          have more : cap - written = cap - (written + 1) + 1 := by
            have : written + 1 ≤ cap := room
            omega
          rw [List.flatten_cons, List.length_singleton, ih, more, List.take_succ_cons]
          rfl
      · next full =>
          have full' : cap - written = 0 := by
            have : ¬ written + 1 ≤ cap := full
            omega
          rw [full']
          rfl

theorem flatten_cells (cells : List Cell) : (cells.map ([·])).flatten = cells := by
  induction cells with
  | nil => rfl
  | cons cell rest ih => rw [List.map_cons, List.flatten_cons, ih, List.singleton_append]

@[simp] theorem emit_none (cap written : Nat) (chunks : List (List Cell)) :
    (emit cap ⟨written, none⟩ chunks).out = none := by
  induction chunks generalizing written with
  | nil => rfl
  | cons chunk rest ih => exact ih _

/-- Once the position is past the capacity nothing is written any more. -/
theorem emit_past (cap written : Nat) (mem : Nat → Cell) (chunks : List (List Cell))
    (past : cap < written) : (emit cap ⟨written, some mem⟩ chunks).out = some mem := by
  induction chunks generalizing written with
  | nil => rfl
  | cons chunk rest ih =>
      have full : ¬ written + chunk.length ≤ cap := by omega
      rw [emit_cons]
      simp only [put, Option.map_some, if_neg full]
      exact ih (written + chunk.length) (by omega)

/-- What a buffer of any capacity holds afterwards: a chunk that does not fit
moves the position past the capacity, so nothing slips in behind the gap. -/
theorem emit_out (cap written : Nat) (mem : Nat → Cell) (chunks : List (List Cell)) :
    (emit cap ⟨written, some mem⟩ chunks).out =
      some (store mem written (fitting cap written chunks).flatten) := by
  induction chunks generalizing written mem with
  | nil => rw [fitting, List.flatten_nil, store_nil]; rfl
  | cons chunk rest ih =>
      rw [emit_cons, fitting]
      by_cases room : written + chunk.length ≤ cap
      · simp only [put, Option.map_some, if_pos room]
        rw [ih, List.flatten_cons, store_append]
      · simp only [put, Option.map_some, if_neg room]
        rw [emit_past _ _ _ _ (Nat.lt_of_not_le room), List.flatten_nil, store_nil]

/-- The two-call protocol delivers `cells`: a call without a buffer announces
their number, and a call with exactly that capacity reports the same number
and leaves them in the buffer, whatever was in it before. -/
structure Delivers (call : Option (Nat → Cell) → Nat → Nat × Option (Nat → Cell))
    (cells : List Cell) : Prop where
  size : (call none 0).1 = cells.length
  fill : ∀ mem, ∃ filled, call (some mem) cells.length = (cells.length, some filled) ∧
    slice filled 0 cells.length = cells

theorem emit_delivers (call : Option (Nat → Cell) → Nat → Nat × Option (Nat → Cell))
    (chunks : List (List Cell))
    (emits : ∀ out cap, call out cap =
      ((emit cap ⟨0, out⟩ chunks).written, (emit cap ⟨0, out⟩ chunks).out)) :
    Delivers call chunks.flatten := by
  constructor
  · rw [emits, emit_written]
    exact Nat.zero_add _
  · intro mem
    obtain ⟨filled, out, content⟩ := emit_fits chunks.flatten.length 0 mem chunks (by simp)
    rw [Nat.zero_add] at content
    refine ⟨filled, ?_, content⟩
    rw [emits, out, emit_written, Nat.zero_add]

/-- The caller's side of the protocol reads the cells back. -/
theorem delivers_read (call : Option (Nat → Cell) → Nat → Nat × Option (Nat → Cell))
    (cells : List Cell) (delivers : Delivers call cells) (mem : Nat → Cell) :
    (call (some mem) cells.length).1 = cells.length ∧
      slice ((call (some mem) cells.length).2.getD mem) 0 cells.length = cells := by
  obtain ⟨filled, called, content⟩ := delivers.fill mem
  rw [called]
  exact ⟨rfl, content⟩

/-- A call with a buffer of any capacity counts all of `cells` and leaves
the beginning `kept` of them in the buffer, and nothing else. -/
structure FillsShort (call : Option (Nat → Cell) → Nat → Nat × Option (Nat → Cell))
    (cells : List Cell) (kept : Nat → List Cell) : Prop where
  size : ∀ out cap, (call out cap).1 = cells.length
  silent : ∀ cap, (call none cap).2 = none
  fill : ∀ mem cap, ∃ filled, (call (some mem) cap).2 = some filled ∧
    slice filled 0 (kept cap).length = kept cap ∧
    ∀ i, (kept cap).length ≤ i → filled i = mem i
  beginning : ∀ cap, kept cap <+: cells
  room : ∀ cap, (kept cap).length ≤ cap

theorem emit_fills_short (call : Option (Nat → Cell) → Nat → Nat × Option (Nat → Cell))
    (chunks : List (List Cell))
    (emits : ∀ out cap, call out cap =
      ((emit cap ⟨0, out⟩ chunks).written, (emit cap ⟨0, out⟩ chunks).out)) :
    FillsShort call chunks.flatten fun cap => (fitting cap 0 chunks).flatten := by
  constructor
  case size =>
    intro out cap
    rw [emits, emit_written]
    exact Nat.zero_add _
  case silent =>
    intro cap
    rw [emits]
    exact emit_none cap 0 chunks
  case fill =>
    intro mem cap
    refine ⟨store mem 0 (fitting cap 0 chunks).flatten, ?_, slice_store _ _ _, ?_⟩
    · rw [emits]
      exact emit_out cap 0 mem chunks
    · intro i behind
      exact store_outside _ _ _ _ (by omega)
  case beginning =>
    intro cap
    obtain ⟨left, parts, _⟩ := fitting_longest cap 0 chunks
    exact ⟨left.flatten, by rw [← List.flatten_append, ← parts]⟩
  case room =>
    intro cap
    have fits := fitting_length_le cap 0 chunks (Nat.zero_le cap)
    rwa [Nat.zero_add] at fits

section Page

/-- At most `size - 1` cells; the last one is the terminator's. -/
def scnprintf (size : Nat) (printed : List Cell) : List Cell := printed.take (size - 1)

/-- Prints one slot after another behind `out`; a slot without a text is skipped. -/
def printAll (pageSize : Nat) (line : Nat → Option (List Cell)) :
    List Nat → List Cell → List Cell
  | [], out => out
  | slot :: rest, out =>
      match line slot with
      | none => printAll pageSize line rest out
      | some printed =>
          let out := out ++ scnprintf (pageSize - out.length) printed
          if out.length ≥ pageSize then out else printAll pageSize line rest out

variable (pageSize : Nat)

theorem scnprintf_behind (out printed : List Cell) :
    out.take (pageSize - 1) ++ scnprintf (pageSize - (out.take (pageSize - 1)).length) printed =
      (out ++ printed).take (pageSize - 1) := by
  rw [scnprintf, List.take_append, List.length_take]
  congr 2
  omega

/-- The page holds the beginning of all lines; the test for a full one never fires. -/
theorem printAll_take (positive : 0 < pageSize) (line : Nat → Option (List Cell))
    (slots : List Nat) (out : List Cell) :
    printAll pageSize line slots (out.take (pageSize - 1)) =
      (out ++ (slots.filterMap line).flatten).take (pageSize - 1) := by
  induction slots generalizing out with
  | nil => rw [List.filterMap_nil, List.flatten_nil, List.append_nil]; rfl
  | cons slot rest ih =>
      rw [printAll]
      cases printed : line slot with
      | none => rw [List.filterMap_cons_none printed]; exact ih out
      | some text =>
          have short : ¬((out ++ text).take (pageSize - 1)).length ≥ pageSize := by
            rw [List.length_take]
            omega
          simp only [scnprintf_behind, if_neg short]
          rw [ih, List.filterMap_cons_some printed, List.flatten_cons, List.append_assoc]

theorem take_whole_iff (positive : 0 < pageSize) (whole : List Cell) :
    whole.take (pageSize - 1) = whole ↔ whole.length < pageSize := by
  constructor
  · intro same
    have short := congrArg List.length same
    rw [List.length_take] at short
    omega
  · intro short
    exact List.take_of_length_le (by omega)

end Page

end RyzenBuild.Writer
