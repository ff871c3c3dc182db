/-!
Byte strings in lexicographic order. Sorting forgets the order of its input,
since a list has only one sorted rearrangement.
-/
namespace RyzenBuild.ByteOrder

def bytesLe : List UInt8 → List UInt8 → Bool
  | [], _ => true
  | _ :: _, [] => false
  | first :: left, second :: right =>
      if first < second then true else if second < first then false else bytesLe left right

theorem bytesLe_total (left right : List UInt8) :
    (bytesLe left right || bytesLe right left) = true := by
  induction left generalizing right with
  | nil => rfl
  | cons first left ih =>
      cases right with
      | nil => rfl
      | cons second right =>
          simp only [bytesLe]
          by_cases less : first < second
          · simp [less]
          · by_cases more : second < first
            · simp [less, more]
            · simpa [less, more] using ih right

theorem bytesLe_antisymm (left right : List UInt8) (one : bytesLe left right = true)
    (other : bytesLe right left = true) : left = right := by
  induction left generalizing right with
  | nil =>
      cases right with
      | nil => rfl
      | cons second right => cases other
  | cons first left ih =>
      cases right with
      | nil => cases one
      | cons second right =>
          have notMore : ¬second < first := by
            intro more
            simp [bytesLe, more, UInt8.lt_asymm more] at one
          have notLess : ¬first < second := by
            intro less
            simp [bytesLe, less, UInt8.lt_asymm less] at other
          have same : first = second :=
            UInt8.le_antisymm (UInt8.not_lt.mp notMore) (UInt8.not_lt.mp notLess)
          simp only [bytesLe, if_neg notMore, if_neg notLess] at one other
          rw [same, ih right one other]

theorem bytesLe_trans (left middle right : List UInt8) (one : bytesLe left middle = true)
    (other : bytesLe middle right = true) : bytesLe left right = true := by
  induction left generalizing middle right with
  | nil => rfl
  | cons first left ih =>
      cases middle with
      | nil => cases one
      | cons second middle =>
          cases right with
          | nil => cases other
          | cons third right =>
              have below : first ≤ second := by
                apply UInt8.not_lt.mp
                intro more
                simp [bytesLe, more, UInt8.lt_asymm more] at one
              have above : second ≤ third := by
                apply UInt8.not_lt.mp
                intro more
                simp [bytesLe, more, UInt8.lt_asymm more] at other
              simp only [bytesLe]
              by_cases less : first < third
              · rw [if_pos less]
              · have outer : third ≤ first := UInt8.not_lt.mp less
                -- All three first bytes are one, so the tails decide.
                have leftSame : first = second :=
                  UInt8.le_antisymm below (UInt8.le_trans above outer)
                have rightSame : second = third :=
                  UInt8.le_antisymm above (UInt8.le_trans outer below)
                subst leftSame rightSame
                simp only [bytesLe, if_neg less] at one other ⊢
                exact ih middle right one other

def sort (strings : List (List UInt8)) : List (List UInt8) := strings.mergeSort bytesLe

theorem sort_sorted (strings : List (List UInt8)) :
    (sort strings).Pairwise fun left right => bytesLe left right = true :=
  List.pairwise_mergeSort bytesLe_trans bytesLe_total strings

theorem sort_perm (strings : List (List UInt8)) : (sort strings).Perm strings :=
  List.mergeSort_perm strings bytesLe

theorem sort_perm_eq (first second : List (List UInt8)) (same : first.Perm second) :
    sort first = sort second := by
  refine List.Perm.eq_of_pairwise ?_ (sort_sorted first) (sort_sorted second) ?_
  · intro left right _ _ one other
    exact bytesLe_antisymm left right one other
  · exact ((sort_perm first).trans same).trans (sort_perm second).symm

/-- The sorted texts of some things are the texts of the things in some order. -/
theorem sort_map {Thing : Type} (text : Thing → List UInt8) (things : List Thing) :
    ∃ ordered : List Thing, ordered.Perm things ∧ ordered.map text = sort (things.map text) :=
  ⟨things.mergeSort fun a b => bytesLe (text a) (text b), List.mergeSort_perm _ _,
    List.map_mergeSort fun _ _ _ _ => rfl⟩

end RyzenBuild.ByteOrder
