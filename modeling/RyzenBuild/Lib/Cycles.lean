import Mathlib.Logic.Relation
import Mathlib.Data.Fintype.Card

/-!
Searches that carry the path from the start to where they are. Such a search
meets its own path when something it can reach lies on a cycle, and over a
finite graph a path that does not repeat itself cannot grow for ever.
-/
namespace RyzenBuild.Cycles

open Relation

variable {Node : Type}

/-- From here the search comes back to its path, or to a place twice. -/
def Meets (edge : Node → Node → Prop) (path : List Node) (node : Node) : Prop :=
  ∃ found, ReflTransGen edge node found ∧ (found ∈ path ∨ TransGen edge found found)

theorem meets_on_path (edge : Node → Node → Prop) (path : List Node) (node : Node)
    (visited : node ∈ path) : Meets edge path node :=
  ⟨node, .refl, .inl visited⟩

/-- One step of the search: off the path, one of the neighbours meets the path
that now ends here. -/
theorem meets_step (edge : Node → Node → Prop) (path : List Node) (node : Node)
    (fresh : node ∉ path) :
    Meets edge path node ↔ ∃ next, edge node next ∧ Meets edge (node :: path) next := by
  constructor
  · rintro ⟨found, reached, back⟩
    rcases ReflTransGen.cases_head reached with rfl | ⟨next, first, later⟩
    · rcases back with visited | cycle
      · exact absurd visited fresh
      · obtain ⟨next, first, later⟩ := TransGen.head'_iff.mp cycle
        exact ⟨next, first, node, later, .inl List.mem_cons_self⟩
    · exact ⟨next, first, found, later, back.imp_left (List.mem_cons_of_mem node)⟩
  · rintro ⟨next, first, found, later, back⟩
    rcases back with visited | cycle
    · rcases List.mem_cons.mp visited with rfl | visited
      · exact ⟨found, .refl, .inr (TransGen.head'_iff.mpr ⟨next, first, later⟩)⟩
      · exact ⟨found, .head first later, .inl visited⟩
    · exact ⟨found, .head first later, .inr cycle⟩

theorem meets_nil (edge : Node → Node → Prop) (node : Node) :
    Meets edge [] node ↔ ∃ found, ReflTransGen edge node found ∧ TransGen edge found found := by
  simp [Meets]

theorem path_bounded {count : Nat} (path : List (Fin count)) (simple : path.Nodup) :
    path.length ≤ count := by
  have bound := simple.length_le_card
  rwa [Fintype.card_fin] at bound

end RyzenBuild.Cycles
