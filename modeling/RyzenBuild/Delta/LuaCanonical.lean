import RyzenBuild.Delta.LuaEncode

/-!
The text of an acyclic value does not depend on the order in which `pairs`
enumerates its tables, and a JSON parser reads the value back from it.
-/
namespace RyzenBuild.Delta

open Kernel Digits Json ByteOrder Cycles Relation

variable {count : Nat}

section Canonical

theorem contains_reordered (heap heap' : Heap count) (reordered : Reordered heap heap') :
    Contains heap' = Contains heap := by
  funext t u
  exact propext ((reordered t).map Prod.snd).mem_iff

theorem cyclic_reordered (heap heap' : Heap count) (reordered : Reordered heap heap')
    (v : LuaValue count) : Cyclic heap' v ↔ Cyclic heap v := by
  rw [Cyclic, Cyclic, contains_reordered heap heap' reordered]

/-- Sorting the encoded entries undoes any reordering of the entries. -/
theorem tableText_reordered (t t' : Table count) (same : t'.entries.Perm t.entries)
    (inner inner' : LuaValue count → List UInt8) (agree : ∀ v ∈ t.values, inner' v = inner v) :
    tableText inner' t' = tableText inner t := by
  unfold tableText
  rw [Table.isArray_reordered t t' same, Table.items_reordered t t' same]
  split
  · next array =>
      have perm := t.items_perm (t.isArray_iff.mp array)
      have items : t.items.map inner' = t.items.map inner :=
        List.map_congr_left fun v member => agree v (perm.mem_iff.mp member)
      rw [items]
  · have entries : t.entries.map (entryText inner') = t.entries.map (entryText inner) := by
      apply List.map_congr_left
      intro entry member
      rw [entryText, entryText, agree entry.2 (List.mem_map_of_mem member)]
    rw [← entries, sort_perm_eq _ _ (same.map (entryText inner'))]

/-- Off every cycle, neither the order of the entries nor further fuel changes
the text. -/
theorem printed_reordered (heap heap' : Heap count) (reordered : Reordered heap heap')
    (fuel fuel' : Nat) (path : List (Fin count)) (v : LuaValue count) (simple : path.Nodup)
    (enough : count < fuel + path.length) (enough' : count < fuel' + path.length)
    (free : ¬Blocked heap path v) : printed heap' fuel' v = printed heap fuel v := by
  induction fuel generalizing fuel' path v with
  | zero =>
      have bound := path_bounded path simple
      omega
  | succ fuel ih =>
      cases fuel' with
      | zero =>
          have bound := path_bounded path simple
          omega
      | succ fuel' =>
          by_cases table : ∃ t, v = .table t
          · obtain ⟨t, rfl⟩ := table
            have fresh : t ∉ path := fun visited => free ⟨t, rfl, meets_on_path _ path t visited⟩
            rw [blocked_table heap path t fresh] at free
            apply tableText_reordered (heap t) (heap' t) (reordered t)
            intro v member
            apply ih fuel' (t :: path) v (List.nodup_cons.mpr ⟨fresh, simple⟩)
            · rw [List.length_cons]
              omega
            · rw [List.length_cons]
              omega
            · exact fun blocked => free ⟨v, member, blocked⟩
          · have scalar : ∀ t, v ≠ .table t := fun t same => table ⟨t, same⟩
            rw [printed_scalar heap' fuel' v scalar, printed_scalar heap fuel v scalar]

end Canonical

/-- The JSON value says what the Lua value is: numbers by their value, arrays item
by item, objects entry by entry in some order. -/
inductive Recovers (heap : Heap count) : LuaValue count → Value → Prop
  | boolean (truth : Bool) : Recovers heap (.boolean truth) (.bool truth)
  | number (n : Int) (small : n.natAbs < 10 ^ 14) (digits : List UInt8)
      (value : signedValue digits = n) :
      Recovers heap (.number (.integer n small)) (.number digits)
  | string (s : List UInt8) : Recovers heap (.string s) (.string s)
  | array (t : Fin count) (items : List Value) (sequence : (heap t).Sequence)
      (each : List.Forall₂ (Recovers heap) (heap t).items items) :
      Recovers heap (.table t) (.array items)
  | object (t : Fin count) (ordered : List (Key × LuaValue count))
      (members : List (List UInt8 × Value)) (nonempty : ordered ≠ [])
      (perm : ordered.Perm (heap t).entries)
      (names : ordered.map Prod.fst = members.map fun member => Key.string member.1)
      (each : List.Forall₂ (Recovers heap) (ordered.map Prod.snd) (members.map Prod.snd)) :
      Recovers heap (.table t) (.object members)

section Lossless

theorem tableConcat_listed (out : List (List UInt8)) : tableConcat out (text ",") = listed out := by
  induction out with
  | nil => rfl
  | cons first out ih =>
      cases out with
      | nil => simp [tableConcat, listed]
      | cons second out =>
          rw [listed, ← ih]
          simp [tableConcat, List.intercalate, text_comma]

variable (heap : Heap count)

/-- A written value that reads back as the Lua value. -/
def Writes (v : LuaValue count) (encoded : List UInt8) : Prop :=
  ∃ written : Written, written.text = encoded ∧ Recovers heap v written.value

theorem writes_items (inner : LuaValue count → List UInt8) (items : List (LuaValue count))
    (each : ∀ v ∈ items, Writes heap v (inner v)) :
    ∃ written : List Written, written.map Written.text = items.map inner ∧
      List.Forall₂ (Recovers heap) items (written.map Written.value) := by
  induction items with
  | nil => exact ⟨[], rfl, .nil⟩
  | cons v items ih =>
      obtain ⟨first, same, recovers⟩ := each v List.mem_cons_self
      obtain ⟨later, texts, values⟩ := ih fun other member =>
        each other (List.mem_cons_of_mem v member)
      exact ⟨first :: later, by simp [same, texts], .cons recovers values⟩

theorem writes_entries (inner : LuaValue count → List UInt8)
    (entries : List (Key × LuaValue count))
    (keyed : ∀ entry ∈ entries, ∃ s, entry.1 = .string s)
    (each : ∀ entry ∈ entries, Writes heap entry.2 (inner entry.2)) :
    ∃ written : List Entry, written.map Entry.text = entries.map (entryText inner) ∧
      entries.map Prod.fst =
        (written.map Entry.member).map (fun member => Key.string member.1) ∧
      List.Forall₂ (Recovers heap) (entries.map Prod.snd)
        ((written.map Entry.member).map Prod.snd) := by
  induction entries with
  | nil => exact ⟨[], rfl, rfl, .nil⟩
  | cons entry entries ih =>
      obtain ⟨s, named⟩ := keyed entry List.mem_cons_self
      obtain ⟨first, same, recovers⟩ := each entry List.mem_cons_self
      obtain ⟨later, texts, names, values⟩ :=
        ih (fun other member => keyed other (List.mem_cons_of_mem entry member))
          fun other member => each other (List.mem_cons_of_mem entry member)
      refine ⟨⟨encodeString s, s, literal_encodeString s, first⟩ :: later, ?_, ?_, ?_⟩
      · simp [Entry.text, entryText, named, tostringKey, same, texts, text_colon]
      · simp [Entry.member, named, names]
      · exact .cons recovers values

/-- The text of a plain table is that of an array or an object of the values in
it. -/
theorem writes_table (inner : LuaValue count → List UInt8) (t : Fin count)
    (plain : (heap t).Plain) (each : ∀ v ∈ (heap t).values, Writes heap v (inner v)) :
    Writes heap (.table t) (tableText inner (heap t)) := by
  by_cases array : (heap t).isArray = true
  · have sequence := (heap t).isArray_iff.mp array
    have perm := (heap t).items_perm sequence
    obtain ⟨written, texts, values⟩ := writes_items heap inner (heap t).items fun v member =>
      each v (perm.mem_iff.mp member)
    refine ⟨Written.array written, ?_, .array t _ sequence values⟩
    simp only [Written.array, tableText, if_pos array, texts, tableConcat_listed]
    rfl
  · have keyed : (heap t).StringKeyed := plain.1.resolve_left fun sequence =>
      array ((heap t).isArray_iff.mpr sequence)
    obtain ⟨ordered, perm, sorted⟩ := sort_map (entryText inner) (heap t).entries
    obtain ⟨written, texts, names, values⟩ := writes_entries heap inner ordered
      (fun entry member => keyed entry.1 (List.mem_map_of_mem (perm.mem_iff.mp member)))
      fun entry member => each entry.2 (List.mem_map_of_mem (perm.mem_iff.mp member))
    have nonempty : ordered ≠ [] := by
      rintro rfl
      apply array
      rw [(heap t).isArray_iff, Table.Sequence, Table.keys, perm.nil_eq.symm]
      exact .nil
    refine ⟨Written.object written, ?_, .object t ordered _ nonempty perm names values⟩
    simp only [Written.object, tableText, if_neg array, ← sorted, ← texts, joined_listed,
      tableConcat_listed]
    rfl

theorem writes_scalar (v : LuaValue count) (plain : v.Plain) (scalar : ∀ t, v ≠ .table t) :
    Writes heap v (scalarText v) := by
  cases v with
  | nil => cases plain
  | boolean truth =>
      refine ⟨Written.bool truth, ?_, ?_⟩
      · cases truth <;> rfl
      · cases truth
        · exact .boolean false
        · exact .boolean true
  | number n =>
      cases n with
      | integer n small =>
          exact ⟨Written.signed n, rfl, .number n small _ (signedValue_signed n)⟩
      | nan => cases plain
      | huge negative => cases plain
  | string s =>
      exact ⟨Written.string (encodeString s) s (literal_encodeString s), rfl, .string s⟩
  | table t => exact absurd rfl (scalar t)

theorem encodable_inside (t : Fin count) (encodable : Encodable heap (.table t))
    (v : LuaValue count) (member : v ∈ (heap t).values) : Encodable heap v := by
  have plain := encodable.2 t rfl
  refine ⟨(plain t .refl).2 v member, ?_⟩
  rintro u rfl w reached
  exact plain w (.head member reached)

/-- The induction of `encodeJson_outcome` again, now over the values the texts
stand for. -/
theorem writes_printed (fuel : Nat) (path : List (Fin count)) (v : LuaValue count)
    (simple : path.Nodup) (enough : count < fuel + path.length) (encodable : Encodable heap v)
    (free : ¬Blocked heap path v) : Writes heap v (printed heap fuel v) := by
  induction fuel generalizing path v with
  | zero =>
      have bound := path_bounded path simple
      omega
  | succ fuel ih =>
      by_cases table : ∃ t, v = .table t
      · obtain ⟨t, rfl⟩ := table
        have fresh : t ∉ path := fun visited => free ⟨t, rfl, meets_on_path _ path t visited⟩
        rw [blocked_table heap path t fresh] at free
        apply writes_table heap (printed heap fuel) t (encodable.2 t rfl t .refl)
        intro v member
        apply ih (t :: path) v (List.nodup_cons.mpr ⟨fresh, simple⟩)
        · rw [List.length_cons]
          omega
        · exact encodable_inside heap t encodable v member
        · exact fun blocked => free ⟨v, member, blocked⟩
      · have scalar : ∀ t, v ≠ .table t := fun t same => table ⟨t, same⟩
        rw [printed_scalar heap fuel v scalar]
        exact writes_scalar heap v encodable.1 scalar

end Lossless

/-- On values JSON has a form for, `M.json` raises its error exactly when a table
contains itself. Every other value has one text, whatever the order of `pairs`,
and a parser recovers the value from it. -/
theorem json_canonical_and_lossless (heap : Heap count) (v : LuaValue count) (fuel : Nat)
    (encodable : Encodable heap v) (enough : count < fuel) :
    (mJson heap fuel v = .error .cyclic ↔ Cyclic heap v) ∧
      (¬Cyclic heap v →
        ∃ encoded value, mJson heap fuel v = .ok encoded ∧ ParsesTo encoded value ∧
          Recovers heap v value ∧
          ∀ heap' fuel', Reordered heap heap' → count < fuel' →
            mJson heap' fuel' v = .ok encoded) := by
  obtain ⟨fails, succeeds⟩ := mJson_outcome heap fuel v enough
  constructor
  · constructor
    · intro failed
      by_contra acyclic
      rw [succeeds acyclic] at failed
      cases failed
    · exact fails
  · intro acyclic
    have free : ¬Blocked heap [] v := fun blocked =>
      acyclic ((cyclic_iff_blocked heap v).mpr blocked)
    have room : count < fuel + ([] : List (Fin count)).length := by simpa using enough
    obtain ⟨written, same, recovers⟩ :=
      writes_printed heap fuel [] v List.nodup_nil room encodable free
    refine ⟨written.text, written.value, ?_, parsesTo_written written, recovers, ?_⟩
    · rw [same]
      exact succeeds acyclic
    · intro heap' fuel' reordered enough'
      have room' : count < fuel' + ([] : List (Fin count)).length := by simpa using enough'
      rw [same, ← printed_reordered heap heap' reordered fuel fuel' [] v List.nodup_nil room room'
        free]
      exact (mJson_outcome heap' fuel' v enough').2 fun cyclic =>
        acyclic ((cyclic_reordered heap heap' reordered v).mp cyclic)

section Shared

/-- Two entries of the first table share the second one, a sequence. -/
def sharedHeap : Heap 2 := fun t =>
  if t = 0 then
    { entries := [(.string (text "b"), .table 1), (.string (text "a"), .table 1)]
      nodup := by decide
      filled := by simp
      small := by simp }
  else
    { entries := [(.number 1, .boolean true)]
      nodup := by decide
      filled := by simp
      small := by simp }

theorem sharedHeap_rises (t u : Fin 2) (contains : Contains sharedHeap t u) : t < u := by
  match t with
  | 0 =>
      simp [Contains, sharedHeap, Table.values] at contains
      rw [contains]
      decide
  | 1 => simp [Contains, sharedHeap, Table.values] at contains

theorem sharedHeap_acyclic : ¬Cyclic sharedHeap (.table 0) := by
  have rises : ∀ t u, TransGen (Contains sharedHeap) t u → t < u := by
    intro t u reached
    induction reached with
    | single step => exact sharedHeap_rises t _ step
    | tail _ step ih => exact lt_trans ih (sharedHeap_rises _ _ step)
  rintro ⟨t, -, u, -, cycle⟩
  exact absurd (rises u u cycle) (lt_irrefl u)

theorem sharedHeap_plain (t : Fin 2) : (sharedHeap t).Plain := by
  match t with
  | 0 =>
      refine ⟨.inr ?_, ?_⟩
      · simp [Table.StringKeyed, Table.keys, sharedHeap]
      · simp [Table.values, sharedHeap, LuaValue.Plain]
  | 1 =>
      refine ⟨.inl (.refl _), ?_⟩
      simp [Table.values, sharedHeap, LuaValue.Plain]

theorem json_canonical_shared :
    ∃ encoded value, mJson sharedHeap 3 (.table 0) = .ok encoded ∧ ParsesTo encoded value ∧
      Recovers sharedHeap (.table 0) value ∧
      ∀ heap' fuel', Reordered sharedHeap heap' → 2 < fuel' →
        mJson heap' fuel' (.table 0) = .ok encoded :=
  (json_canonical_and_lossless sharedHeap (.table 0) 3
    ⟨trivial, fun _ _ u _ => sharedHeap_plain u⟩ (by decide)).2 sharedHeap_acyclic

end Shared

end RyzenBuild.Delta
