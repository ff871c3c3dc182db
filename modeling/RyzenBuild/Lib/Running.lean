import Mathlib.Logic.Function.Basic

/-!
Checksums that take in one symbol after another. A step that loses neither the
running value nor the symbol cannot hide a change of a single symbol, and cut
into blocks, only the block of that symbol changes.
-/
namespace RyzenBuild.Running

variable {State Symbol : Type}

/-- No step forgets: of the state before and the symbol, each is recovered from
the other and the state after. -/
structure Absorbing (step : State → Symbol → State) : Prop where
  keeps : ∀ symbol, Function.Injective fun state => step state symbol
  tells : ∀ state, Function.Injective (step state)

/-- Two words of one length that differ at the position `k` and nowhere else. -/
structure DifferOnlyAt (left right : List Symbol) (k : Nat) : Prop where
  length : left.length = right.length
  here : left[k]? ≠ right[k]?
  elsewhere : ∀ i, i ≠ k → left[i]? = right[i]?

section Absorbing

variable {step : State → Symbol → State}

/-- Two running values that no step brings together. -/
theorem stays_apart_of_keeps (keeps : ∀ symbol, Function.Injective fun state => step state symbol)
    (word : List Symbol) (first second : State) (apart : first ≠ second) :
    word.foldl step first ≠ word.foldl step second := by
  induction word generalizing first second with
  | nil => exact apart
  | cons symbol word ih =>
      apply ih
      exact fun same => apart (keeps symbol same)

theorem Absorbing.notices (absorbing : Absorbing step) (before behind : List Symbol)
    (old new : Symbol) (changed : old ≠ new) (start : State) :
    (before ++ old :: behind).foldl step start ≠ (before ++ new :: behind).foldl step start := by
  simp only [List.foldl_append, List.foldl_cons]
  apply stays_apart_of_keeps absorbing.keeps
  exact fun same => changed (absorbing.tells _ same)

end Absorbing

section DifferOnlyAt

variable {left right : List Symbol} {k : Nat}

theorem DifferOnlyAt.inside (differ : DifferOnlyAt left right k) : k < left.length := by
  apply Nat.lt_of_not_le
  intro beyond
  apply differ.here
  rw [List.getElem?_eq_none beyond, List.getElem?_eq_none (differ.length ▸ beyond)]

/-- The words are equal in front of the position and behind it. -/
theorem DifferOnlyAt.split (differ : DifferOnlyAt left right k) :
    ∃ before old new behind, old ≠ new ∧ left = before ++ old :: behind ∧
      right = before ++ new :: behind := by
  have insideLeft : k < left.length := differ.inside
  have insideRight : k < right.length := differ.length ▸ insideLeft
  have before : left.take k = right.take k := by
    apply List.ext_getElem?
    intro i
    rw [List.getElem?_take, List.getElem?_take]
    split
    · exact differ.elsewhere i (by omega)
    · rfl
  have behind : left.drop (k + 1) = right.drop (k + 1) := by
    apply List.ext_getElem?
    intro i
    rw [List.getElem?_drop, List.getElem?_drop]
    exact differ.elsewhere _ (by omega)
  refine ⟨left.take k, left[k], right[k], left.drop (k + 1), ?_, ?_, ?_⟩
  · intro same
    apply differ.here
    rw [List.getElem?_eq_getElem insideLeft, List.getElem?_eq_getElem insideRight, same]
  · rw [List.getElem_cons_drop, List.take_append_drop]
  · rw [before, behind, List.getElem_cons_drop, List.take_append_drop]

theorem Absorbing.differ {step : State → Symbol → State} (absorbing : Absorbing step)
    (differ : DifferOnlyAt left right k) (start : State) :
    left.foldl step start ≠ right.foldl step start := by
  obtain ⟨before, old, new, behind, changed, rfl, rfl⟩ := differ.split
  exact absorbing.notices before behind old new changed start

end DifferOnlyAt

section Blocks

/-- The `j`-th block of `size` symbols; the last one may be short. -/
def block (size : Nat) (word : List Symbol) (j : Nat) : List Symbol :=
  (word.drop (j * size)).take size

theorem block_getElem? (size : Nat) (word : List Symbol) (j i : Nat) :
    (block size word j)[i]? = if i < size then word[j * size + i]? else none := by
  rw [block, List.getElem?_take]
  split
  · rw [List.getElem?_drop]
  · rfl

theorem block_length (size : Nat) (word : List Symbol) (j : Nat) :
    (block size word j).length = min size (word.length - j * size) := by
  simp [block]

/-- The first blocks of a word are its beginning. -/
theorem flatMap_block (size : Nat) (word : List Symbol) (count : Nat) :
    (List.range count).flatMap (block size word) = word.take (count * size) := by
  induction count with
  | zero => rw [List.range_zero, List.flatMap_nil, Nat.zero_mul, List.take_zero]
  | succ count ih =>
      rw [List.range_succ, List.flatMap_append, ih, List.flatMap_singleton, Nat.succ_mul,
        List.take_add, block]

variable {left right : List Symbol} {k size : Nat}

theorem DifferOnlyAt.block_here (differ : DifferOnlyAt left right k) (positive : 0 < size) :
    DifferOnlyAt (block size left (k / size)) (block size right (k / size)) (k % size) := by
  have place : k / size * size + k % size = k := Nat.div_add_mod' k size
  have within : k % size < size := Nat.mod_lt k positive
  refine ⟨?_, ?_, ?_⟩
  · rw [block_length, block_length, differ.length]
  · rw [block_getElem?, block_getElem?, if_pos within, if_pos within, place]
    exact differ.here
  · intro i other
    rw [block_getElem?, block_getElem?]
    split
    · exact differ.elsewhere _ (by omega)
    · rfl

theorem DifferOnlyAt.block_elsewhere (differ : DifferOnlyAt left right k) (j : Nat)
    (other : j ≠ k / size) : block size left j = block size right j := by
  apply List.ext_getElem?
  intro i
  rw [block_getElem?, block_getElem?]
  split
  · next within =>
      apply differ.elsewhere
      intro same
      apply other
      rw [← same, Nat.add_comm, Nat.mul_comm, Nat.add_mul_div_left _ _ (by omega),
        Nat.div_eq_of_lt within, Nat.zero_add]
  · rfl

end Blocks

end RyzenBuild.Running
