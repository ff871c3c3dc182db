import Mathlib.Combinatorics.SimpleGraph.DeleteEdges
import Mathlib.Combinatorics.SimpleGraph.DegreeSum
import Mathlib.Combinatorics.SimpleGraph.Operations

/-!
Undirected graphs whose nodes come and go: a simple graph together with the
set of nodes now present. A value carries the proof that links join present
nodes only, so removing a node has to remove its links.
-/
namespace RyzenBuild.NodeGraph

variable {V : Type}

structure Graph (V : Type) where
  present : Set V
  links : SimpleGraph V
  supported : ∀ a b, links.Adj a b → a ∈ present

namespace Graph

variable (g : Graph V)

def empty : Graph V := ⟨∅, ⊥, by simp⟩

def insert (v : V) : Graph V where
  present := Insert.insert v g.present
  links := g.links
  supported a b joined := Or.inr (g.supported a b joined)

def remove (v : V) : Graph V where
  present := g.present \ {v}
  links := g.links.deleteIncidenceSet v
  supported a b joined := by
    rw [SimpleGraph.deleteIncidenceSet_adj] at joined
    exact ⟨g.supported a b joined.1, joined.2.1⟩

def connect (a b : V) (first : a ∈ g.present) (second : b ∈ g.present) : Graph V where
  present := g.present
  links := g.links ⊔ SimpleGraph.edge a b
  supported x y joined := by
    rcases joined with old | new
    · exact g.supported x y old
    · rcases (SimpleGraph.edge_adj a b x y).mp new with ⟨⟨rfl, _⟩ | ⟨rfl, _⟩, _⟩
      · exact first
      · exact second

def disconnect (a b : V) : Graph V where
  present := g.present
  links := g.links.deleteEdges {s(a, b)}
  supported x y joined := g.supported x y (SimpleGraph.deleteEdges_adj.mp joined).1

end Graph

/-- What a graph can do in one step. A node is only inserted when absent, so
a slot that is used again starts without links. -/
inductive Step (g : Graph V) : Graph V → Prop
  | keep : Step g g
  | insert (v : V) (absent : v ∉ g.present) : Step g (g.insert v)
  | remove (v : V) (member : v ∈ g.present) : Step g (g.remove v)
  | connect (a b : V) (distinct : a ≠ b) (first : a ∈ g.present) (second : b ∈ g.present) :
      Step g (g.connect a b first second)
  | disconnect (a b : V) (distinct : a ≠ b) (first : a ∈ g.present) (second : b ∈ g.present) :
      Step g (g.disconnect a b)

theorem supported_right (g : Graph V) (a b : V) (joined : g.links.Adj a b) :
    b ∈ g.present :=
  g.supported b a joined.symm

theorem connect_adj (g : Graph V) (a b : V) (first : a ∈ g.present)
    (second : b ∈ g.present) (x y : V) :
    (g.connect a b first second).links.Adj x y ↔
      g.links.Adj x y ∨ ((x = a ∧ y = b ∨ x = b ∧ y = a) ∧ x ≠ y) := by
  simp [Graph.connect, SimpleGraph.edge_adj]

theorem remove_adj (g : Graph V) (v x y : V) :
    (g.remove v).links.Adj x y ↔ g.links.Adj x y ∧ x ≠ v ∧ y ≠ v :=
  SimpleGraph.deleteIncidenceSet_adj

theorem disconnect_adj (g : Graph V) (a b x y : V) :
    (g.disconnect a b).links.Adj x y ↔
      g.links.Adj x y ∧ ¬ (x = a ∧ y = b ∨ x = b ∧ y = a) := by
  simp [Graph.disconnect]

/-- The handshake lemma in the form a degree table is read off: summing the
degrees over any set of nodes that contains every linked one counts each
link twice. -/
theorem sum_degrees_of_supported [Fintype V] (g : Graph V) [DecidableRel g.links.Adj]
    (members : Finset V) (complete : ∀ v, v ∈ g.present → v ∈ members) :
    ∑ v ∈ members, g.links.degree v = 2 * g.links.edgeFinset.card := by
  rw [← g.links.sum_degrees_eq_twice_card_edges]
  apply Finset.sum_subset (Finset.subset_univ members)
  intro v _ outside
  rw [SimpleGraph.degree, Finset.card_eq_zero, Finset.eq_empty_iff_forall_notMem]
  intro w neighbor
  exact outside (complete v (g.supported v w ((g.links.mem_neighborFinset v w).mp neighbor)))

end RyzenBuild.NodeGraph
