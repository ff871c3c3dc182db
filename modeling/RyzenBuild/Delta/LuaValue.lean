import Mathlib.Algebra.Group.Nat.Defs
import RyzenBuild.Lib.Cycles
import Mathlib.Data.List.Nodup

/-!
The Lua values `encode_json` is given. Tables live in a heap and are reached by
reference; each lists its entries in the order in which `pairs` goes through
them.
-/
namespace RyzenBuild.Delta

/-- The numbers that `tostring` does not write with an exponent or a point. -/
inductive LuaNumber where
  | integer (n : Int) (small : n.natAbs < 10 ^ 14)
  | nan
  | huge (negative : Bool)
  deriving DecidableEq

inductive LuaValue (count : Nat) where
  | nil
  | boolean (truth : Bool)
  | number (n : LuaNumber)
  | string (s : List UInt8)
  | table (t : Fin count)
  deriving DecidableEq

inductive Key where
  | number (n : Int)
  | string (s : List UInt8)
  deriving DecidableEq

/-- No key has two values, and no entry holds nil. Numeric keys are integers that
`tostring` writes out, as the numbers are. -/
structure Table (count : Nat) where
  entries : List (Key × LuaValue count)
  nodup : (entries.map Prod.fst).Nodup
  filled : ∀ entry ∈ entries, entry.2 ≠ .nil
  small : ∀ entry ∈ entries, ∀ n, entry.1 = .number n → n.natAbs < 10 ^ 14

abbrev Heap (count : Nat) := Fin count → Table count

variable {count : Nat}

namespace Table

def get (t : Table count) (key : Key) : LuaValue count :=
  ((t.entries.find? fun entry => entry.1 == key).map Prod.snd).getD .nil

/-- The first loop of `is_array`: the greatest key, or none at a key that is no
index. -/
def scanKeys : List Key → Nat → Option Nat
  | [], n => some n
  | .string _ :: _, _ => none
  | .number k :: rest, n => if k < 1 then none else scanKeys rest (if k > n then k.toNat else n)

def isArray (t : Table count) : Bool :=
  match scanKeys (t.entries.map Prod.fst) 0 with
  | none => false
  | some n => (List.range n).all fun i => t.get (.number (i + 1)) ≠ .nil

/-- The next index without a value, from `i` on. -/
def border (t : Table count) : Nat → Nat → Nat
  | 0, i => i
  | fuel + 1, i => if t.get (.number (i + 1)) = .nil then i else t.border fuel (i + 1)

/-- `#t`. -/
def length (t : Table count) : Nat := t.border t.entries.length 0

/-- The values the numeric loop goes through. -/
def items (t : Table count) : List (LuaValue count) :=
  (List.range t.length).map fun (i : Nat) => t.get (.number (i + 1))

def keys (t : Table count) : List Key := t.entries.map Prod.fst

def values (t : Table count) : List (LuaValue count) := t.entries.map Prod.snd

/-- The keys of a sequence of this length. -/
def indices (n : Nat) : List Key := (List.range n).map fun (i : Nat) => .number (i + 1)

/-- The keys are the indices from one to the number of entries. -/
def Sequence (t : Table count) : Prop := t.keys.Perm (indices t.entries.length)

def StringKeyed (t : Table count) : Prop := ∀ key ∈ t.keys, ∃ s, key = .string s

section Get

variable (t : Table count)

theorem get_entry (key : Key) (value : LuaValue count) (member : (key, value) ∈ t.entries) :
    t.get key = value := by
  unfold get
  cases found : t.entries.find? fun entry => entry.1 == key with
  | none =>
      have missed := List.find?_eq_none.mp found (key, value) member
      simp at missed
  | some entry =>
      have same : entry.1 = key := by simpa using List.find?_some found
      have unique : entry = (key, value) :=
        List.inj_on_of_nodup_map t.nodup (List.mem_of_find?_eq_some found) member same
      rw [unique]
      rfl

theorem get_missing (key : Key) (absent : key ∉ t.keys) : t.get key = .nil := by
  have none : (t.entries.find? fun entry => entry.1 == key) = none := by
    rw [List.find?_eq_none]
    intro entry member same
    apply absent
    rw [← eq_of_beq same]
    exact List.mem_map_of_mem member
  rw [get, none]
  rfl

theorem get_ne_nil (key : Key) : t.get key ≠ .nil ↔ key ∈ t.keys := by
  constructor
  · intro present
    by_contra absent
    exact present (t.get_missing key absent)
  · intro member
    obtain ⟨⟨same, value⟩, inside, rfl⟩ := List.mem_map.mp member
    rw [t.get_entry same value inside]
    exact t.filled _ inside

theorem map_get_keys : t.keys.map t.get = t.values := by
  rw [keys, values, List.map_map]
  apply List.map_congr_left
  intro entry member
  exact t.get_entry entry.1 entry.2 member

/-- A reordered table answers the same. -/
theorem get_reordered (t' : Table count) (same : t'.entries.Perm t.entries) (key : Key) :
    t'.get key = t.get key := by
  by_cases present : key ∈ t.keys
  · obtain ⟨⟨_, value⟩, inside, rfl⟩ := List.mem_map.mp present
    rw [t.get_entry _ value inside, t'.get_entry _ value (same.mem_iff.mpr inside)]
  · have absent : key ∉ t'.keys := fun member => present ((same.map Prod.fst).mem_iff.mp member)
    rw [t.get_missing key present, t'.get_missing key absent]

end Get

section IsArray

theorem indices_nodup (n : Nat) : (indices n).Nodup := by
  apply List.Nodup.map _ List.nodup_range
  intro i j same
  have shifted : (i : Int) + 1 = j + 1 := Key.number.inj same
  omega

theorem mem_indices (n : Nat) (key : Key) :
    key ∈ indices n ↔ ∃ k : Int, key = .number k ∧ 1 ≤ k ∧ k ≤ n := by
  constructor
  · intro member
    obtain ⟨i, below, rfl⟩ := List.mem_map.mp member
    have := List.mem_range.mp below
    exact ⟨_, rfl, by omega, by omega⟩
  · rintro ⟨k, rfl, positive, bound⟩
    refine List.mem_map.mpr ⟨(k - 1).toNat, List.mem_range.mpr (by omega), ?_⟩
    congr 1
    omega

/-- The scan gives the least bound on the keys that is no smaller than the one it
started with. -/
theorem scanKeys_some (keys : List Key) (n bound : Nat) (scanned : scanKeys keys n = some bound) :
    n ≤ bound ∧ (∀ key ∈ keys, ∃ k : Int, key = .number k ∧ 1 ≤ k ∧ k ≤ bound) ∧
      (bound = n ∨ Key.number bound ∈ keys) := by
  induction keys generalizing n with
  | nil =>
      cases scanned
      exact ⟨Nat.le_refl _, by simp, .inl rfl⟩
  | cons key keys ih =>
      cases key with
      | string s => cases scanned
      | number k =>
          simp only [scanKeys] at scanned
          split at scanned
          · cases scanned
          · next positive =>
              obtain ⟨grown, inside, reached⟩ := ih _ scanned
              have here : n ≤ bound ∧ k ≤ bound := by split at grown <;> omega
              refine ⟨here.1, ?_, ?_⟩
              · intro key member
                rcases List.mem_cons.mp member with rfl | later
                · exact ⟨k, rfl, by omega, here.2⟩
                · exact inside key later
              · rcases reached with same | later
                · split at same
                  · next larger =>
                      right
                      have exact : k = bound := by omega
                      rw [exact]
                      exact List.mem_cons_self
                  · exact .inl same
                · exact .inr (List.mem_cons_of_mem _ later)

theorem scanKeys_indices (keys : List Key) (n : Nat)
    (indexed : ∀ key ∈ keys, ∃ k : Int, key = .number k ∧ 1 ≤ k) :
    ∃ bound, scanKeys keys n = some bound := by
  induction keys generalizing n with
  | nil => exact ⟨n, rfl⟩
  | cons key keys ih =>
      obtain ⟨k, rfl, positive⟩ := indexed key List.mem_cons_self
      rw [scanKeys, if_neg (by omega)]
      exact ih _ fun other member => indexed other (List.mem_cons_of_mem _ member)

/-- Keys within the bound, and a value at every index up to it. -/
theorem sequence_of_scan (t : Table count) (n : Nat) (scanned : scanKeys t.keys 0 = some n)
    (full : ∀ i, i < n → t.get (.number ((i : Int) + 1)) ≠ .nil) : t.Sequence := by
  obtain ⟨_, inside, _⟩ := scanKeys_some _ _ _ scanned
  have perm : t.keys.Perm (indices n) := by
    apply (List.perm_ext_iff_of_nodup t.nodup (indices_nodup n)).mpr
    intro key
    rw [mem_indices]
    constructor
    · exact inside key
    · rintro ⟨k, rfl, positive, bound⟩
      have present := full (k - 1).toNat (by omega)
      have index : ((k - 1).toNat : Int) + 1 = k := by omega
      rwa [index, t.get_ne_nil] at present
  have length : t.entries.length = n := by simpa [keys, indices] using perm.length_eq
  rwa [Sequence, length]

/-- The scan of a sequence succeeds and does not go past its length. -/
theorem scan_of_sequence (t : Table count) (sequence : t.Sequence) :
    ∃ bound, scanKeys t.keys 0 = some bound ∧ bound ≤ t.entries.length := by
  have numbered : ∀ key ∈ t.keys, ∃ k : Int, key = .number k ∧ 1 ≤ k ∧ k ≤ t.entries.length :=
    fun key member => (mem_indices _ key).mp (sequence.mem_iff.mp member)
  obtain ⟨bound, scanned⟩ := scanKeys_indices t.keys 0 fun key member => by
    obtain ⟨k, same, positive, _⟩ := numbered key member
    exact ⟨k, same, positive⟩
  obtain ⟨_, _, reached⟩ := scanKeys_some _ _ _ scanned
  refine ⟨bound, scanned, ?_⟩
  rcases reached with rfl | last
  · exact Nat.zero_le _
  · obtain ⟨k, same, _, small⟩ := numbered _ last
    have exact : (bound : Int) = k := Key.number.inj same
    omega

theorem get_sequence (t : Table count) (sequence : t.Sequence) (i : Nat)
    (below : i < t.entries.length) : t.get (.number ((i : Int) + 1)) ≠ .nil := by
  rw [t.get_ne_nil, sequence.mem_iff, mem_indices]
  exact ⟨_, rfl, by omega, by omega⟩

/-- `is_array` holds of the sequences and of no other table. -/
theorem isArray_iff (t : Table count) : t.isArray = true ↔ t.Sequence := by
  constructor
  · intro array
    unfold isArray at array
    split at array
    · cases array
    · next n scanned =>
        apply sequence_of_scan t n scanned
        intro i below
        exact of_decide_eq_true (List.all_eq_true.mp array i (List.mem_range.mpr below))
  · intro sequence
    obtain ⟨bound, scanned, within⟩ := scan_of_sequence t sequence
    have scanned : scanKeys (t.entries.map Prod.fst) 0 = some bound := scanned
    simp only [isArray, scanned, List.all_eq_true, List.mem_range, decide_eq_true_iff]
    intro i below
    exact get_sequence t sequence i (Nat.lt_of_lt_of_le below within)

theorem border_sequence (t : Table count) (sequence : t.Sequence) (fuel i : Nat)
    (steps : fuel + i = t.entries.length) : t.border fuel i = t.entries.length := by
  induction fuel generalizing i with
  | zero => simpa [border] using steps
  | succ fuel ih =>
      have present := get_sequence t sequence i (by omega)
      rw [border, if_neg present]
      exact ih (i + 1) (by omega)

/-- The numeric loop visits the value of every entry of a sequence. -/
theorem items_perm (t : Table count) (sequence : t.Sequence) : t.items.Perm t.values := by
  have length : t.length = t.entries.length := border_sequence t sequence _ 0 rfl
  have mapped := sequence.map t.get
  rw [t.map_get_keys] at mapped
  have listed : t.items = (indices t.entries.length).map t.get := by
    rw [items, length, indices, List.map_map]
    rfl
  rw [listed]
  exact mapped.symm

end IsArray

section Reordered

variable (t t' : Table count) (same : t'.entries.Perm t.entries)
include same

theorem isArray_reordered : t'.isArray = t.isArray := by
  have sequence : t'.Sequence ↔ t.Sequence := by
    rw [Sequence, Sequence, same.length_eq]
    exact List.Perm.congr_left (same.map Prod.fst) _
  rw [Bool.eq_iff_iff, isArray_iff, isArray_iff, sequence]

theorem border_reordered (fuel i : Nat) : t'.border fuel i = t.border fuel i := by
  induction fuel generalizing i with
  | zero => rfl
  | succ fuel ih => rw [border, border, get_reordered t t' same, ih]

theorem items_reordered : t'.items = t.items := by
  rw [items, items, length, length, same.length_eq, border_reordered t t' same]
  simp only [get_reordered t t' same]

end Reordered

end Table

section Heap

open Relation

/-- One entry of the table refers to the other. -/
def Contains (heap : Heap count) (t u : Fin count) : Prop := .table u ∈ (heap t).values

/-- Somewhere in the value a table contains itself along some path. -/
def Cyclic (heap : Heap count) (v : LuaValue count) : Prop :=
  ∃ t, v = .table t ∧
    ∃ u, ReflTransGen (Contains heap) t u ∧ TransGen (Contains heap) u u

/-- The same heap, enumerated by `pairs` in another order. -/
def Reordered (heap heap' : Heap count) : Prop := ∀ t, (heap' t).entries.Perm (heap t).entries

/-- A value JSON has a form for. -/
def LuaValue.Plain : LuaValue count → Prop
  | .nil => False
  | .number (.integer _ _) => True
  | .number _ => False
  | _ => True

def Table.Plain (t : Table count) : Prop :=
  (t.Sequence ∨ t.StringKeyed) ∧ ∀ v ∈ t.values, v.Plain

/-- Built from sequences, string-keyed tables, strings, booleans and small
integers. -/
def Encodable (heap : Heap count) (v : LuaValue count) : Prop :=
  v.Plain ∧ ∀ t, v = .table t → ∀ u, ReflTransGen (Contains heap) t u → (heap u).Plain

end Heap

end RyzenBuild.Delta
