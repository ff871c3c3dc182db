/-!
Threads in a list: a thread is named by its index, a new one comes last, and a
step rewrites one entry.
-/
namespace RyzenBuild.Threads

variable {Thread : Type}

theorem found_spawned (threads : List Thread) (fresh thread : Thread) (k : Nat)
    (found : (threads ++ [fresh])[k]? = some thread) :
    threads[k]? = some thread ∨ k = threads.length ∧ thread = fresh := by
  by_cases old : k < threads.length
  · rw [List.getElem?_append_left old] at found
    exact Or.inl found
  · have late : threads.length ≤ k := Nat.le_of_not_lt old
    rw [List.getElem?_append_right late] at found
    have first : k - threads.length = 0 := by
      have := (List.getElem?_eq_some_iff.mp found).1
      simp only [List.length_singleton] at this
      omega
    rw [first] at found
    exact Or.inr ⟨by omega, (Option.some.inj found).symm⟩

theorem found_modified (threads : List Thread) (change : Thread → Thread) (thread : Thread)
    (k j : Nat) (found : (threads.modify k change)[j]? = some thread) :
    j ≠ k ∧ threads[j]? = some thread ∨
      j = k ∧ ∃ before, threads[k]? = some before ∧ thread = change before := by
  rw [List.getElem?_modify] at found
  by_cases same : k = j
  · subst same
    cases was : threads[k]? with
    | none => simp [was] at found
    | some before =>
        simp only [was, if_true, Option.map_eq_map, Option.map_some, Option.some.injEq] at found
        exact Or.inr ⟨rfl, before, rfl, found.symm⟩
  · refine Or.inl ⟨fun equal => same equal.symm, ?_⟩
    cases was : threads[j]? with
    | none => simp [was] at found
    | some before => simpa [was, same] using found

theorem kept_modified (threads : List Thread) (change : Thread → Thread) (thread : Thread)
    (k j : Nat) (other : j ≠ k) (found : threads[j]? = some thread) :
    (threads.modify k change)[j]? = some thread := by
  simpa [List.getElem?_modify, other.symm] using found

theorem kept_spawned (threads : List Thread) (fresh thread : Thread) (k : Nat)
    (found : threads[k]? = some thread) : (threads ++ [fresh])[k]? = some thread := by
  rw [List.getElem?_append_left (List.getElem?_eq_some_iff.mp found).1]
  exact found

/-- A rewritten entry counts as what it has become. -/
theorem count_modified (counts : Thread → Bool) (threads : List Thread) (change : Thread → Thread)
    (k : Nat) (before : Thread) (found : threads[k]? = some before) :
    (threads.modify k change).countP counts + (if counts before then 1 else 0) =
      threads.countP counts + (if counts (change before) then 1 else 0) := by
  induction threads generalizing k with
  | nil => cases found
  | cons first rest ih =>
      cases k with
      | zero =>
          obtain rfl : first = before := Option.some.inj found
          rw [List.modify_zero_cons, List.countP_cons, List.countP_cons]
          omega
      | succ k =>
          have later := ih k found
          rw [List.modify_succ_cons, List.countP_cons, List.countP_cons]
          omega

end RyzenBuild.Threads
