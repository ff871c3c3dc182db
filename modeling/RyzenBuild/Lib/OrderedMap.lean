import Mathlib.Order.Lattice
import Mathlib.Data.List.Nodup

/-!
Finite maps as lists of values that carry their keys, in the order of the
keys. New keys come above all others, so insertion appends; erasing and
adjusting leave every other value where it was.
-/
namespace RyzenBuild.SortedTable

variable {Key Value : Type} [LinearOrder Key]

structure OrderedMap (key : Value → Key) where
  items : List Value
  sorted : (items.map key).Pairwise (· < ·)

variable {key : Value → Key}

def OrderedMap.empty : OrderedMap key := ⟨[], List.Pairwise.nil⟩

def OrderedMap.lookup (m : OrderedMap key) (k : Key) : Option Value :=
  m.items.find? fun value => key value = k

def OrderedMap.insertLast (m : OrderedMap key) (value : Value)
    (above : ∀ other ∈ m.items, key other < key value) : OrderedMap key where
  items := m.items ++ [value]
  sorted := by
    simp only [List.map_append, List.map_cons, List.map_nil, List.pairwise_append]
    refine ⟨m.sorted, List.pairwise_singleton _ _, ?_⟩
    simpa using above

def OrderedMap.erase (m : OrderedMap key) (k : Key) : OrderedMap key where
  items := m.items.filter fun value => key value ≠ k
  sorted := m.sorted.sublist (List.filter_sublist.map key)

def OrderedMap.adjust (m : OrderedMap key) (k : Key) (change : Value → Value)
    (keeps : ∀ value, key (change value) = key value) : OrderedMap key where
  items := m.items.map fun value => if key value = k then change value else value
  sorted := by
    have same : (m.items.map fun value => if key value = k then change value else value).map key =
        m.items.map key := by
      rw [List.map_map]
      apply List.map_congr_left
      intro value _
      by_cases here : key value = k <;> simp [here, keeps]
    rw [same]
    exact m.sorted

def Distinct (key : Value → Key) (items : List Value) : Prop :=
  items.Pairwise fun left right => key left ≠ key right

theorem distinct_items (m : OrderedMap key) : Distinct key m.items :=
  (List.pairwise_map.mp m.sorted).imp fun before => ne_of_lt before

theorem key_injective (m : OrderedMap key) (left right : Value) (leftMember : left ∈ m.items)
    (rightMember : right ∈ m.items) (same : key left = key right) : left = right := by
  have apart : (m.items.map key).Nodup := m.sorted.imp fun before => ne_of_lt before
  exact List.inj_on_of_nodup_map apart leftMember rightMember same

theorem lookup_some (m : OrderedMap key) (k : Key) (value : Value) :
    m.lookup k = some value ↔ value ∈ m.items ∧ key value = k := by
  constructor
  · intro found
    exact ⟨List.mem_of_find?_eq_some found, by simpa using List.find?_some found⟩
  · rintro ⟨member, rfl⟩
    cases found : m.lookup (key value) with
    | none =>
        have absent := List.find?_eq_none.mp found value member
        simp at absent
    | some other =>
        have matched : key other = key value := by simpa using List.find?_some found
        rw [key_injective m other value (List.mem_of_find?_eq_some found) member matched]

theorem lookup_none (m : OrderedMap key) (k : Key) :
    m.lookup k = none ↔ ∀ value ∈ m.items, key value ≠ k := by
  simp [OrderedMap.lookup]

theorem mem_erase (m : OrderedMap key) (k : Key) (value : Value) :
    value ∈ (m.erase k).items ↔ value ∈ m.items ∧ key value ≠ k := by
  simp [OrderedMap.erase]

theorem lookup_erase (m : OrderedMap key) (k j : Key) :
    (m.erase k).lookup j = if j = k then none else m.lookup j := by
  by_cases here : j = k
  · rw [if_pos here, lookup_none]
    intro value member
    exact here ▸ ((mem_erase m k value).mp member).2
  · rw [if_neg here]
    apply Option.ext
    intro value
    rw [lookup_some, lookup_some, mem_erase]
    constructor
    · rintro ⟨⟨member, _⟩, matched⟩
      exact ⟨member, matched⟩
    · rintro ⟨member, matched⟩
      exact ⟨⟨member, matched ▸ here⟩, matched⟩

theorem lookup_insertLast (m : OrderedMap key) (value : Value)
    (above : ∀ other ∈ m.items, key other < key value) (j : Key) :
    (m.insertLast value above).lookup j = if j = key value then some value else m.lookup j := by
  by_cases here : j = key value
  · rw [if_pos here, lookup_some]
    exact ⟨by simp [OrderedMap.insertLast], here.symm⟩
  · rw [if_neg here]
    simp [OrderedMap.lookup, OrderedMap.insertLast, List.find?_append, Ne.symm here]

theorem lookup_adjust (m : OrderedMap key) (k : Key) (change : Value → Value)
    (keeps : ∀ value, key (change value) = key value) (j : Key) :
    (m.adjust k change keeps).lookup j =
      (m.lookup j).map fun value => if key value = k then change value else value := by
  have same : ∀ value, key (if key value = k then change value else value) = key value := by
    intro value
    by_cases here : key value = k <;> simp [here, keeps]
  simp only [OrderedMap.lookup, OrderedMap.adjust, List.find?_map]
  congr 2
  funext value
  simp [same]

theorem filter_absent (k : Key) (items : List Value) (absent : ∀ value ∈ items, key value ≠ k) :
    items.filter (fun value => key value ≠ k) = items :=
  List.filter_eq_self.mpr fun value member => by simpa using absent value member

theorem erase_index (items : List Value) (distinct : Distinct key items) (i : Nat) (value : Value)
    (found : items[i]? = some value) :
    items.eraseIdx i = items.filter fun other => key other ≠ key value := by
  induction items generalizing i with
  | nil => simp at found
  | cons first rest ih =>
      obtain ⟨apart, later⟩ := List.pairwise_cons.mp distinct
      cases i with
      | zero =>
          obtain rfl : first = value := by simpa using found
          have kept := filter_absent (key first) rest fun other member =>
            (apart other member).symm
          simpa using kept.symm
      | succ i =>
          have found : rest[i]? = some value := by simpa using found
          have kept := apart value (List.mem_of_getElem? found)
          simp [kept, ih later i found]

theorem set_index (items : List Value) (distinct : Distinct key items) (i : Nat) (value : Value)
    (change : Value → Value) (found : items[i]? = some value) :
    items.set i (change value) =
      items.map fun other => if key other = key value then change other else other := by
  induction items generalizing i with
  | nil => simp at found
  | cons first rest ih =>
      obtain ⟨apart, later⟩ := List.pairwise_cons.mp distinct
      cases i with
      | zero =>
          obtain rfl : first = value := by simpa using found
          have kept : rest.map (fun other => if key other = key first then change other else other) =
              rest := by
            conv_rhs => rw [← List.map_id rest]
            apply List.map_congr_left
            intro other member
            simp [(apart other member).symm]
          simp [kept]
      | succ i =>
          have found : rest[i]? = some value := by simpa using found
          have kept := apart value (List.mem_of_getElem? found)
          simp [kept, ih later i found]

/-- Removing the item at an index is erasing its key. -/
theorem eraseIdx_items (m : OrderedMap key) (i : Nat) (value : Value)
    (found : m.items[i]? = some value) : m.items.eraseIdx i = (m.erase (key value)).items :=
  erase_index m.items (distinct_items m) i value found

theorem set_items (m : OrderedMap key) (i : Nat) (value : Value) (change : Value → Value)
    (keeps : ∀ value, key (change value) = key value) (found : m.items[i]? = some value) :
    m.items.set i (change value) = (m.adjust (key value) change keeps).items :=
  set_index m.items (distinct_items m) i value change found

end RyzenBuild.SortedTable
