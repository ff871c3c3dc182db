import Mathlib.Order.Iterate
import RyzenBuild.Lib.Trace

/-!
Cells that are drawn together a few at a time. A step that touches a cell moves it
one box further in, as long as all cells are in the outer box; a round touches every
cell at least once, in any order and any number of times. So the cells are as far in
as there were rounds, and stay there.
-/
namespace RyzenBuild.Settling

open Trace

variable {State Input Cell : Type} (step : State → Input → State)

/-- Some step of the run touches the cell. -/
def Touched (touches : State → Input → Cell → Prop) : State → List Input → Cell → Prop
  | _, [], _ => False
  | state, input :: rest, cell =>
      touches state input cell ∨ Touched touches (step state input) rest cell

instance (touches : State → Input → Cell → Prop)
    [decides : ∀ state input cell, Decidable (touches state input cell)] :
    ∀ state inputs cell, Decidable (Touched step touches state inputs cell)
  | _, [], _ => isFalse id
  | state, input :: rest, cell =>
      have : Decidable (Touched step touches (step state input) rest cell) :=
        instDecidableTouched touches (step state input) rest cell
      inferInstanceAs (Decidable (touches state input cell ∨
        Touched step touches (step state input) rest cell))

/-- One round after another, each admitted throughout and touching every cell. -/
def Rounds (admits : State → Input → Prop) (touches : State → Input → Cell → Prop)
    (cells : List Cell) : State → List (List Input) → Prop
  | _, [] => True
  | state, round :: rest =>
      (Steps step admits state round ∧ ∀ cell ∈ cells, Touched step touches state round cell) ∧
        Rounds admits touches cells (run step state round) rest

instance (admits : State → Input → Prop) (touches : State → Input → Cell → Prop)
    (cells : List Cell) [∀ state input, Decidable (admits state input)]
    [∀ state input cell, Decidable (touches state input cell)] :
    ∀ state rounds, Decidable (Rounds step admits touches cells state rounds)
  | _, [] => isTrue trivial
  | state, round :: rest =>
      have : Decidable (Rounds step admits touches cells (run step state round) rest) :=
        instDecidableRounds admits touches cells (run step state round) rest
      inferInstanceAs (Decidable (_ ∧ _))

/-- `inside k` is the box that a cell is in after `k` rounds. -/
structure Drawn (admits : State → Input → Prop) (touches : State → Input → Cell → Prop)
    (cells : List Cell) (inside : Nat → State → Cell → Prop) : Prop where
  nested : ∀ k state cell, inside (k + 1) state cell → inside k state cell
  touched : ∀ k state input cell, admits state input → (∀ other ∈ cells, inside k state other) →
    cell ∈ cells → touches state input cell → inside (k + 1) (step state input) cell
  spared : ∀ k state input cell, admits state input → cell ∈ cells → ¬touches state input cell →
    inside k state cell → inside k (step state input) cell

section Drawing

variable {admits : State → Input → Prop} {touches : State → Input → Cell → Prop}
  {cells : List Cell} {inside : Nat → State → Cell → Prop}
  (drawn : Drawn step admits touches cells inside)

include drawn

theorem inside_kept (k : Nat) (state : State) (input : Input)
    (held : ∀ cell ∈ cells, inside k state cell) (admitted : admits state input) :
    ∀ cell ∈ cells, inside k (step state input) cell := by
  intro cell member
  by_cases touch : touches state input cell
  · exact drawn.nested k _ cell (drawn.touched k state input cell admitted held member touch)
  · exact drawn.spared k state input cell admitted member touch (held cell member)

theorem inside_run (k : Nat) (state : State) (inputs : List Input)
    (held : ∀ cell ∈ cells, inside k state cell) (admitted : Steps step admits state inputs) :
    Always step (fun state => ∀ cell ∈ cells, inside k state cell) state inputs :=
  always_of_steps step admits _ (inside_kept step drawn k) state inputs held admitted

/-- In the course of a round a cell is further in already, or it is yet to be touched. -/
theorem inside_further (k : Nat) (state : State) (inputs : List Input) (cell : Cell)
    (held : ∀ other ∈ cells, inside k state other) (admitted : Steps step admits state inputs)
    (member : cell ∈ cells)
    (either : inside (k + 1) state cell ∨ Touched step touches state inputs cell) :
    inside (k + 1) (run step state inputs) cell := by
  induction inputs generalizing state with
  | nil =>
      rcases either with further | never
      · exact further
      · cases never
  | cons input rest ih =>
      apply ih (step state input) (inside_kept step drawn k state input held admitted.1) admitted.2
      by_cases touch : touches state input cell
      · exact Or.inl (drawn.touched k state input cell admitted.1 held member touch)
      · rcases either with further | here | later
        · exact Or.inl (drawn.spared (k + 1) state input cell admitted.1 member touch further)
        · exact absurd here touch
        · exact Or.inr later

theorem inside_round (k : Nat) (state : State) (round : List Input)
    (held : ∀ cell ∈ cells, inside k state cell) (admitted : Steps step admits state round)
    (every : ∀ cell ∈ cells, Touched step touches state round cell) :
    ∀ cell ∈ cells, inside (k + 1) (run step state round) cell := fun cell member =>
  inside_further step drawn k state round cell held admitted member (Or.inr (every cell member))

theorem inside_rounds (k : Nat) (state : State) (rounds : List (List Input))
    (held : ∀ cell ∈ cells, inside k state cell)
    (done : Rounds step admits touches cells state rounds) :
    ∀ cell ∈ cells, inside (k + rounds.length) (run step state rounds.flatten) cell := by
  induction rounds generalizing state k with
  | nil => exact held
  | cons round rest ih =>
      obtain ⟨⟨admitted, every⟩, later⟩ := done
      have next := ih (k + 1) (run step state round)
        (inside_round step drawn k state round held admitted every) later
      rw [List.flatten_cons, run_append, List.length_cons, Nat.add_comm rest.length 1,
        ← Nat.add_assoc]
      exact next

theorem inside_outer (k more : Nat) (state : State) (cell : Cell)
    (further : inside (k + more) state cell) : inside k state cell := by
  induction more with
  | zero => exact further
  | succ more ih => exact ih (drawn.nested (k + more) state cell further)

end Drawing

/-- Three parts of one's own and one part of what is aimed at. -/
def pull (aim level : Nat) : Nat := (3 * level + aim) / 4

/-- The excess over the aim shrinks by a fourth a turn. -/
theorem pull_above (aim excess turns : Nat) :
    (pull aim)^[turns] (aim + excess) = aim + (fun d => 3 * d / 4)^[turns] excess := by
  induction turns generalizing excess with
  | zero => rfl
  | succ turns ih =>
      have once : pull aim (aim + excess) = aim + 3 * excess / 4 := by
        rw [pull]
        omega
      rw [Function.iterate_succ_apply, Function.iterate_succ_apply, once, ih]

/-- What a level wants of the aim shrinks by a fourth a turn, rounded up. -/
theorem pull_below (aim level want turns : Nat) (short : level + want = aim) :
    (pull aim)^[turns] level + (fun d => (3 * d + 3) / 4)^[turns] want = aim := by
  induction turns generalizing level want with
  | zero => exact short
  | succ turns ih =>
      rw [Function.iterate_succ_apply, Function.iterate_succ_apply]
      apply ih
      rw [pull]
      omega

/-- A million is worn down to three and to nothing. -/
theorem million_worn : (fun d => (3 * d + 3) / 4)^[46] 1000000 = 3 ∧
    (fun d => 3 * d / 4)^[46] 1000000 = 0 := by decide +kernel

end RyzenBuild.Settling
