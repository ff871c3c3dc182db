import RyzenBuild.Lib.Memory
import Mathlib.Logic.Function.Basic
import Mathlib.Data.List.Nodup

/-!
Loops that fill an array cell by cell, and lists read through a map of their
indices. A map that undoes itself gives a rearrangement that undoes itself.
-/
namespace RyzenBuild.Reindex

open Memory

variable {Cell : Type}

/-- The loop that sets cell `i` of the destination, for every `i` below `n`. -/
def fill (dst : Nat → Cell) (n : Nat) (cell : Nat → Cell) : Nat → Cell :=
  (List.range n).foldl (fun dst i => Function.update dst i (cell i)) dst

theorem fill_succ (dst : Nat → Cell) (n : Nat) (cell : Nat → Cell) :
    fill dst (n + 1) cell = Function.update (fill dst n cell) n (cell n) := by
  simp [fill, List.range_succ]

theorem fill_apply (dst : Nat → Cell) (n : Nat) (cell : Nat → Cell) (i : Nat) :
    fill dst n cell i = if i < n then cell i else dst i := by
  induction n with
  | zero => rfl
  | succ n ih =>
      rw [fill_succ]
      by_cases last : i = n
      · rw [last, Function.update_self, if_pos (Nat.lt_succ_self n)]
      · have below : i < n + 1 ↔ i < n := by omega
        rw [Function.update_of_ne last, ih]
        simp only [below]

theorem slice_fill (dst : Nat → Cell) (n : Nat) (cell : Nat → Cell) :
    slice (fill dst n cell) 0 n = slice cell 0 n := by
  apply slice_shift
  intro k inside
  simp [fill_apply, inside]

/-- The map keeps the indices below `n` and undoes itself there. -/
structure Mirrors (n : Nat) (mirror : Nat → Nat) : Prop where
  inside : ∀ i, i < n → mirror i < n
  twice : ∀ i, i < n → mirror (mirror i) = i

variable {n : Nat} {mirror : Nat → Nat}

theorem mirror_range (mirrors : Mirrors n mirror) :
    ((List.range n).map mirror).Perm (List.range n) := by
  have nodup : ((List.range n).map mirror).Nodup := by
    apply List.Nodup.map_on _ List.nodup_range
    intro i first j second same
    rw [← mirrors.twice i (List.mem_range.mp first), same, mirrors.twice j (List.mem_range.mp second)]
  apply (List.perm_ext_iff_of_nodup nodup List.nodup_range).mpr
  intro i
  constructor
  · intro member
    obtain ⟨j, below, rfl⟩ := List.mem_map.mp member
    exact List.mem_range.mpr (mirrors.inside j (List.mem_range.mp below))
  · intro member
    have below := List.mem_range.mp member
    exact List.mem_map.mpr ⟨mirror i, List.mem_range.mpr (mirrors.inside i below),
      mirrors.twice i below⟩

theorem slice_mirror_perm (mirrors : Mirrors n mirror) (mem : Nat → Cell) :
    (slice (fun i => mem (mirror i)) 0 n).Perm (slice mem 0 n) := by
  have moved := (mirror_range mirrors).map mem
  simpa [slice, List.map_map, Function.comp_def] using moved

theorem slice_mirror_twice (mirrors : Mirrors n mirror) (mem : Nat → Cell) :
    slice (fun i => mem (mirror (mirror i))) 0 n = slice mem 0 n := by
  apply slice_shift
  intro k inside
  rw [Nat.zero_add, mirrors.twice k inside]

end RyzenBuild.Reindex
