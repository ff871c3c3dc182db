import RyzenBuild.Delta.LuaCanonical

/-!
The two kinds of tables that a manifest is made of, records and lists of strings, and
what a reader finds in the JSON that `M.json` makes of them.
-/
namespace RyzenBuild.Delta

open Kernel Digits Json

variable {count : Nat}

/-- `{ name = value, ... }`. -/
def record (fields : List (List UInt8 × LuaValue count)) (names : (fields.map Prod.fst).Nodup)
    (filled : ∀ field ∈ fields, field.2 ≠ .nil) : Table count where
  entries := fields.map fun field => (.string field.1, field.2)
  nodup := by
    have keys : (fields.map fun field => (Key.string field.1, field.2)).map Prod.fst =
        (fields.map Prod.fst).map Key.string := by simp
    rw [keys]
    exact names.map fun _ _ same => Key.string.inj same
  filled := by
    intro entry member
    obtain ⟨field, inside, rfl⟩ := List.mem_map.mp member
    exact filled field inside
  small := by
    intro entry member n numbered
    obtain ⟨field, _, rfl⟩ := List.mem_map.mp member
    cases numbered

theorem listed_keys (items : List (List UInt8)) :
    (items.mapIdx fun i item => (Key.number (i + 1), (LuaValue.string item : LuaValue count))).map
      Prod.fst = Table.indices items.length := by
  apply List.ext_getElem
  · simp [Table.indices]
  · intro i _ _
    simp [Table.indices]

/-- A table that strings are appended to one after another. -/
def listOf (items : List (List UInt8)) (few : items.length < 10 ^ 14) : Table count where
  entries := items.mapIdx fun i item => (.number (i + 1), .string item)
  nodup := by
    rw [listed_keys]
    exact Table.indices_nodup _
  filled := by
    intro entry member
    obtain ⟨i, _, rfl⟩ := List.mem_mapIdx.mp member
    intro missing
    cases missing
  small := by
    intro entry member n numbered
    obtain ⟨i, inside, rfl⟩ := List.mem_mapIdx.mp member
    obtain rfl := Key.number.inj numbered
    omega

section Shapes

variable (fields : List (List UInt8 × LuaValue count)) (names : (fields.map Prod.fst).Nodup)
  (filled : ∀ field ∈ fields, field.2 ≠ .nil) (items : List (List UInt8))
  (few : items.length < 10 ^ 14)

theorem record_values : (record fields names filled).values = fields.map Prod.snd := by
  simp [Table.values, record]

theorem record_plain (plain : ∀ field ∈ fields, field.2.Plain) :
    (record fields names filled).Plain := by
  refine ⟨.inr ?_, ?_⟩
  · intro key member
    obtain ⟨entry, inside, rfl⟩ := List.mem_map.mp member
    obtain ⟨field, _, rfl⟩ := List.mem_map.mp inside
    exact ⟨field.1, rfl⟩
  · intro v member
    rw [record_values] at member
    obtain ⟨field, inside, rfl⟩ := List.mem_map.mp member
    exact plain field inside

theorem listOf_values : (listOf items few : Table count).values = items.map LuaValue.string := by
  apply List.ext_getElem
  · simp [Table.values, listOf]
  · intro i _ _
    simp [Table.values, listOf]

theorem listOf_sequence : (listOf items few : Table count).Sequence := by
  have keys : (listOf items few : Table count).keys = Table.indices items.length :=
    listed_keys items
  have length : (listOf items few : Table count).entries.length = items.length := by simp [listOf]
  rw [Table.Sequence, keys, length]

theorem listOf_plain : (listOf items few : Table count).Plain := by
  refine ⟨.inl (listOf_sequence items few), ?_⟩
  intro v member
  rw [listOf_values] at member
  obtain ⟨item, _, rfl⟩ := List.mem_map.mp member
  trivial

theorem listOf_items : (listOf items few : Table count).items = items.map LuaValue.string := by
  have length : (listOf items few : Table count).length = items.length := by
    have sized : (listOf items few : Table count).entries.length = items.length := by simp [listOf]
    rw [← sized]
    exact Table.border_sequence _ (listOf_sequence items few) _ 0 rfl
  rw [Table.items, length]
  apply List.ext_getElem
  · simp
  · intro i inside other
    have present : i < items.length := by simpa using other
    have entry : (Key.number (i + 1), (LuaValue.string items[i] : LuaValue count)) ∈
        (listOf items few : Table count).entries := List.mem_mapIdx.mpr ⟨i, present, rfl⟩
    simpa using (listOf items few : Table count).get_entry _ _ entry

end Shapes

section Heaps

open Relation

/-- Where tables refer to later ones only, none contains itself. -/
theorem acyclic_of_rises (heap : Heap count) (rises : ∀ t u, Contains heap t u → t < u)
    (v : LuaValue count) : ¬Cyclic heap v := by
  have climbs : ∀ t u, TransGen (Contains heap) t u → t < u := by
    intro t u reached
    induction reached with
    | single step => exact rises t _ step
    | tail _ step ih => exact ih.trans (rises _ _ step)
  rintro ⟨t, -, u, -, cycle⟩
  exact absurd (climbs u u cycle) (lt_irrefl u)

theorem plain_reordered (t t' : Table count) (same : t'.entries.Perm t.entries) (plain : t.Plain) :
    t'.Plain := by
  refine ⟨?_, ?_⟩
  · rcases plain.1 with sequence | strings
    · left
      rw [← t'.isArray_iff, Table.isArray_reordered t t' same, t.isArray_iff]
      exact sequence
    · right
      exact fun key member => strings key ((same.map Prod.fst).mem_iff.mp member)
  · exact fun v member => plain.2 v ((same.map Prod.snd).mem_iff.mp member)

end Heaps

section Reading

variable (heap : Heap count)

/-- From the whole value down the names of the path, each of which is there once. -/
def At : List (List UInt8) → Value → Value → Prop
  | [], whole, value => whole = value
  | name :: path, whole, value =>
      ∃ members inner, whole = .object members ∧ Only members name inner ∧ At path inner value

theorem at_append (first second : List (List UInt8)) (whole middle value : Value)
    (upper : At first whole middle) (lower : At second middle value) :
    At (first ++ second) whole value := by
  induction first generalizing whole with
  | nil =>
      obtain rfl := upper
      exact lower
  | cons name path ih =>
      obtain ⟨members, inner, object, only, later⟩ := upper
      exact ⟨members, inner, object, only, ih inner later⟩

/-- A name that is the key of one entry is the name of one member. -/
theorem only_recovered (ordered : List (Key × LuaValue count))
    (members : List (List UInt8 × Value)) (nodup : (ordered.map Prod.fst).Nodup)
    (names : ordered.map Prod.fst = members.map fun member => Key.string member.1)
    (each : List.Forall₂ (Recovers heap) (ordered.map Prod.snd) (members.map Prod.snd))
    (name : List UInt8) (v : LuaValue count) (entry : (Key.string name, v) ∈ ordered) :
    ∃ value, Only members name value ∧ Recovers heap v value := by
  induction ordered generalizing members with
  | nil => cases entry
  | cons first ordered ih =>
      cases members with
      | nil => cases names
      | cons member members =>
          rw [List.map_cons, List.map_cons, List.cons.injEq] at names
          rw [List.map_cons, List.nodup_cons] at nodup
          rw [List.map_cons, List.map_cons, List.forall₂_cons] at each
          obtain ⟨here, later⟩ := names
          rcases List.mem_cons.mp entry with rfl | behind
          · have same : name = member.1 := Key.string.inj here
            refine ⟨member.2, ?_, each.1⟩
            have others : members.filter (·.1 == name) = [] := by
              rw [List.filter_eq_nil_iff]
              intro other inside equal
              apply nodup.1
              rw [later]
              exact List.mem_map.mpr ⟨other, inside, by rw [eq_of_beq equal]⟩
            rw [Only, List.filter_cons_of_pos (by rw [same]; exact BEq.rfl), others, same]
          · obtain ⟨value, only, recovers⟩ := ih members nodup.2 later each.2 behind
            have apart : ¬(member.1 == name) = true := by
              intro equal
              apply nodup.1
              rw [here, eq_of_beq equal]
              exact List.mem_map_of_mem (f := Prod.fst) behind
            refine ⟨value, ?_, recovers⟩
            rw [Only, List.filter_cons, if_neg apart]
            exact only

variable (t : Fin count) (value : Value) (recovers : Recovers heap (.table t) value)

include recovers

/-- The value of a record at one of its names. -/
theorem recovers_record (fields : List (List UInt8 × LuaValue count))
    (names : (fields.map Prod.fst).Nodup) (filled : ∀ field ∈ fields, field.2 ≠ .nil)
    (same : (heap t).entries.Perm (record fields names filled).entries) (name : List UInt8)
    (v : LuaValue count) (field : (name, v) ∈ fields) :
    ∃ inner, At [name] value inner ∧ Recovers heap v inner := by
  have entry : (Key.string name, v) ∈ (heap t).entries :=
    same.mem_iff.mpr (List.mem_map.mpr ⟨(name, v), field, rfl⟩)
  cases recovers with
  | array _ items sequence each =>
      have numbered := sequence.mem_iff.mp (List.mem_map_of_mem (f := Prod.fst) entry)
      obtain ⟨k, number, _⟩ := (Table.mem_indices _ _).mp numbered
      cases number
  | object _ ordered members nonempty perm keys each =>
      have nodup : (ordered.map Prod.fst).Nodup := (perm.map Prod.fst).nodup_iff.mpr (heap t).nodup
      obtain ⟨inner, only, recovered⟩ := only_recovered heap ordered members nodup keys each name v
        (perm.mem_iff.mpr entry)
      exact ⟨inner, ⟨members, inner, rfl, only, rfl⟩, recovered⟩

/-- A record has a member for every name and no other. -/
theorem recovers_names (fields : List (List UInt8 × LuaValue count))
    (names : (fields.map Prod.fst).Nodup) (filled : ∀ field ∈ fields, field.2 ≠ .nil)
    (same : (heap t).entries.Perm (record fields names filled).entries) (some : fields ≠ []) :
    ∃ members, value = .object members ∧ (members.map Prod.fst).Perm (fields.map Prod.fst) := by
  cases recovers with
  | array _ items sequence each =>
      obtain ⟨field, inside⟩ := List.exists_mem_of_ne_nil _ some
      have entry : (Key.string field.1, field.2) ∈ (heap t).entries :=
        same.mem_iff.mpr (List.mem_map_of_mem inside)
      have numbered := sequence.mem_iff.mp (List.mem_map_of_mem (f := Prod.fst) entry)
      obtain ⟨k, number, _⟩ := (Table.mem_indices _ _).mp numbered
      cases number
  | object _ ordered members nonempty perm keys each =>
      refine ⟨members, rfl, ?_⟩
      have injective : Function.Injective Key.string := fun _ _ same => Key.string.inj same
      rw [← List.map_perm_map_iff injective, List.map_map, List.map_map]
      have listed := (perm.trans same).map Prod.fst
      have named : (record fields names filled).entries.map Prod.fst =
          fields.map (Key.string ∘ Prod.fst) := by simp [record, Function.comp_def]
      rw [keys, named] at listed
      exact listed

/-- A list of strings is read back as the same list. -/
theorem recovers_list (items : List (List UInt8)) (few : items.length < 10 ^ 14)
    (same : (heap t).entries.Perm (listOf items few : Table count).entries) :
    value = .array (items.map Value.string) := by
  cases recovers with
  | array _ values sequence each =>
      rw [Table.items_reordered _ _ same, listOf_items] at each
      congr 1
      clear same few sequence
      induction items generalizing values with
      | nil =>
          cases each
          rfl
      | cons item items ih =>
          cases each with
          | cons first later =>
              cases first
              rw [ih _ later]
              rfl
  | object _ ordered members nonempty perm keys each =>
      cases ordered with
      | nil => exact absurd rfl nonempty
      | cons first ordered =>
          have entry := same.mem_iff.mp (perm.mem_iff.mp List.mem_cons_self)
          obtain ⟨i, _, numbered⟩ := List.mem_mapIdx.mp entry
          have named : first.1 ∈ (first :: ordered).map Prod.fst :=
            List.mem_map_of_mem List.mem_cons_self
          rw [keys] at named
          obtain ⟨member, _, string⟩ := List.mem_map.mp named
          rw [← numbered] at string
          cases string

end Reading

end RyzenBuild.Delta
