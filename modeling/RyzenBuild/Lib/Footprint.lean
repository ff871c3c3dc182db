import Mathlib.Data.List.Perm.Basic
import Mathlib.Data.Set.Lattice
import Mathlib.Order.CompletePartialOrder

/-!
Operations on a store of named cells, each confined to the cells it names.
Operations on disjoint cells commute, so a list of them may be performed in
any order.
-/
namespace RyzenBuild.Footprint

variable {Cell Op : Type} {Value : Cell → Type}

/-- `f` writes inside `foot` only, and what it writes there depends on what
stands there only. -/
structure Confined (foot : Set Cell) (f : ((c : Cell) → Value c) → (c : Cell) → Value c) :
    Prop where
  outside : ∀ store c, c ∉ foot → f store c = store c
  inside : ∀ store other, (∀ c ∈ foot, store c = other c) → ∀ c ∈ foot, f store c = f other c

theorem Confined.comm {left right : Set Cell}
    {f g : ((c : Cell) → Value c) → (c : Cell) → Value c}
    (confinedF : Confined left f) (confinedG : Confined right g) (apart : Disjoint left right)
    (store : (c : Cell) → Value c) : f (g store) = g (f store) := by
  funext c
  by_cases here : c ∈ left
  · have there : c ∉ right := Set.disjoint_left.mp apart here
    rw [confinedG.outside (f store) c there]
    apply confinedF.inside _ _ _ c here
    intro read inLeft
    exact confinedG.outside store read (Set.disjoint_left.mp apart inLeft)
  · rw [confinedF.outside (g store) c here]
    by_cases there : c ∈ right
    · apply confinedG.inside _ _ _ c there
      intro read inRight
      exact (confinedF.outside store read (Set.disjoint_right.mp apart inRight)).symm
    · rw [confinedG.outside store c there, confinedG.outside (f store) c there,
        confinedF.outside store c here]

def perform (act : Op → ((c : Cell) → Value c) → (c : Cell) → Value c) (ops : List Op)
    (store : (c : Cell) → Value c) : (c : Cell) → Value c :=
  ops.foldl (fun store op => act op store) store

/-- Operations on pairwise disjoint cells give the same store in every order. -/
theorem perform_perm (act : Op → ((c : Cell) → Value c) → (c : Cell) → Value c)
    (foot : Op → Set Cell) (ops reordered : List Op)
    (confined : ∀ op ∈ ops, Confined (foot op) (act op))
    (apart : ops.Pairwise fun first second => Disjoint (foot first) (foot second))
    (same : ops.Perm reordered) (store : (c : Cell) → Value c) :
    perform act ops store = perform act reordered store := by
  -- Two entries of the list are one and the same, or stand apart.
  have anyTwo : ∀ first ∈ ops, ∀ second ∈ ops,
      first = second ∨ Disjoint (foot first) (foot second) := by
    intro first firstMember second secondMember
    apply List.Pairwise.forall_of_forall_of_flip _ _ _ firstMember secondMember
    · exact fun op _ => Or.inl rfl
    · exact apart.imp fun disjoint => Or.inr disjoint
    · exact apart.imp fun disjoint => Or.inr disjoint.symm
  unfold perform
  apply same.foldl_eq'
  intro first firstMember second secondMember store
  rcases anyTwo first firstMember second secondMember with equal | disjoint
  · rw [equal]
  · exact ((confined first firstMember).comm (confined second secondMember) disjoint store).symm

end RyzenBuild.Footprint
