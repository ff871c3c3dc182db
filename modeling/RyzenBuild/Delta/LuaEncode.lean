import RyzenBuild.Lib.ByteOrder
import RyzenBuild.Delta.LuaEscape
import RyzenBuild.Delta.LuaValue

/-!
`encode_json`, with the set of tables it is inside of. The set is mutated on the
way down and restored on the way up, so a table is refused exactly when the
encoder is inside of it already: the value contains a cycle.
-/
namespace RyzenBuild.Delta

open Kernel Digits Json ByteOrder Cycles

inductive Failure where
  | cyclic
  | outOfFuel
  deriving DecidableEq

variable {count : Nat}

abbrev Seen (count : Nat) := Fin count → Bool

def tostring : LuaNumber → List UInt8
  | .integer n _ => signed n
  | .nan => text "nan"
  | .huge negative => if negative then text "-inf" else text "inf"

def tostringKey : Key → List UInt8
  | .number n => signed n
  | .string s => s

def tableConcat (out : List (List UInt8)) (sep : List UInt8) : List UInt8 := List.intercalate sep out

/-- A loop that encodes one thing after another into `out`. -/
def encodeAll {Thing : Type} (encode : Thing → Seen count → Except Failure (List UInt8 × Seen count)) :
    List Thing → Seen count → Except Failure (List (List UInt8) × Seen count)
  | [], seen => .ok ([], seen)
  | thing :: things, seen => do
      let (first, seen) ← encode thing seen
      let (later, seen) ← encodeAll encode things seen
      return (first :: later, seen)

def encodeEntry (encode : LuaValue count → Seen count → Except Failure (List UInt8 × Seen count))
    (entry : Key × LuaValue count) (seen : Seen count) :
    Except Failure (List UInt8 × Seen count) := do
  let (encoded, seen) ← encode entry.2 seen
  return (encodeString (tostringKey entry.1) ++ text ":" ++ encoded, seen)

/-- `fuel` bounds the depth of the recursion. -/
def encodeJson (heap : Heap count) :
    Nat → LuaValue count → Seen count → Except Failure (List UInt8 × Seen count)
  | 0, _, _ => .error .outOfFuel
  | fuel + 1, v, seen =>
      match v with
      | .nil => .ok (text "null", seen)
      | .boolean truth => .ok (if truth then text "true" else text "false", seen)
      | .number n =>
          if n = .nan ∨ n = .huge false ∨ n = .huge true then .ok (text "null", seen)
          else .ok (tostring n, seen)
      | .string s => .ok (encodeString s, seen)
      | .table t =>
          if seen t then .error .cyclic
          else
            let seen := Function.update seen t true
            if (heap t).isArray then do
              let (out, seen) ← encodeAll (encodeJson heap fuel) (heap t).items seen
              return (text "[" ++ tableConcat out (text ",") ++ text "]",
                Function.update seen t false)
            else do
              let (out, seen) ←
                encodeAll (encodeEntry (encodeJson heap fuel)) (heap t).entries seen
              return (text "\x7b" ++ tableConcat (sort out) (text ",") ++ text "\x7d",
                Function.update seen t false)

/-- `M.json`: the text alone, from an empty set. -/
def mJson (heap : Heap count) (fuel : Nat) (v : LuaValue count) : Except Failure (List UInt8) := do
  let (encoded, _) ← encodeJson heap fuel v fun _ => false
  return encoded

section Printed

/-- The text of a scalar, whatever the fuel. -/
def scalarText : LuaValue count → List UInt8
  | .nil => text "null"
  | .boolean truth => if truth then text "true" else text "false"
  | .number n =>
      if n = .nan ∨ n = .huge false ∨ n = .huge true then text "null" else tostring n
  | .string s => encodeString s
  | .table _ => []

def entryText (inner : LuaValue count → List UInt8) (entry : Key × LuaValue count) : List UInt8 :=
  encodeString (tostringKey entry.1) ++ text ":" ++ inner entry.2

/-- The text of a table, given that of the values in it. -/
def tableText (inner : LuaValue count → List UInt8) (t : Table count) : List UInt8 :=
  if t.isArray then text "[" ++ tableConcat (t.items.map inner) (text ",") ++ text "]"
  else text "\x7b" ++ tableConcat (sort (t.entries.map (entryText inner))) (text ",") ++ text "\x7d"

/-- The text without the check for cycles. -/
def printed (heap : Heap count) : Nat → LuaValue count → List UInt8
  | 0, _ => []
  | fuel + 1, .table t => tableText (printed heap fuel) (heap t)
  | _ + 1, v => scalarText v

theorem printed_scalar (heap : Heap count) (fuel : Nat) (v : LuaValue count)
    (scalar : ∀ t, v ≠ .table t) : printed heap (fuel + 1) v = scalarText v := by
  cases v with
  | table t => exact absurd rfl (scalar t)
  | nil => rfl
  | boolean truth => rfl
  | number n => rfl
  | string s => rfl

end Printed

section Loops

variable {Thing : Type} (encode : Thing → Seen count → Except Failure (List UInt8 × Seen count))
  (out : Thing → List UInt8) (seen : Seen count)

theorem encodeAll_ok (things : List Thing)
    (each : ∀ thing ∈ things, encode thing seen = .ok (out thing, seen)) :
    encodeAll encode things seen = .ok (things.map out, seen) := by
  induction things with
  | nil => rfl
  | cons thing things ih =>
      have later := ih fun other member => each other (List.mem_cons_of_mem thing member)
      simp only [encodeAll, each thing List.mem_cons_self, bind, Except.bind, later]
      rfl

theorem encodeAll_cyclic (things : List Thing)
    (each : ∀ thing ∈ things,
      encode thing seen = .ok (out thing, seen) ∨ encode thing seen = .error .cyclic)
    (fails : ∃ thing ∈ things, encode thing seen = .error .cyclic) :
    encodeAll encode things seen = .error .cyclic := by
  induction things with
  | nil =>
      obtain ⟨thing, member, _⟩ := fails
      cases member
  | cons thing things ih =>
      rcases each thing List.mem_cons_self with fine | failed
      · have later := ih (fun other member => each other (List.mem_cons_of_mem thing member)) (by
          obtain ⟨other, member, failed⟩ := fails
          rcases List.mem_cons.mp member with rfl | behind
          · rw [fine] at failed
            cases failed
          · exact ⟨other, behind, failed⟩)
        simp only [encodeAll, fine, bind, Except.bind, later]
      · simp only [encodeAll, failed, bind, Except.bind]

end Loops

section Search

/-- The set of the tables on the path. -/
def onPath (path : List (Fin count)) : Seen count := fun t => decide (t ∈ path)

theorem onPath_enter (path : List (Fin count)) (t : Fin count) :
    Function.update (onPath path) t true = onPath (t :: path) := by
  funext u
  by_cases same : u = t
  · simp [onPath, same]
  · simp [onPath, same]

theorem onPath_leave (path : List (Fin count)) (t : Fin count) (fresh : t ∉ path) :
    Function.update (onPath (t :: path)) t false = onPath path := by
  funext u
  by_cases same : u = t
  · simp [onPath, same, fresh]
  · simp [onPath, same]

/-- A value refers to a table from which the search meets the path. -/
def Blocked (heap : Heap count) (path : List (Fin count)) (v : LuaValue count) : Prop :=
  ∃ t, v = .table t ∧ Meets (Contains heap) path t

theorem cyclic_iff_blocked (heap : Heap count) (v : LuaValue count) :
    Cyclic heap v ↔ Blocked heap [] v := by
  simp only [Cyclic, Blocked, meets_nil]

theorem blocked_table (heap : Heap count) (path : List (Fin count)) (t : Fin count)
    (fresh : t ∉ path) :
    Blocked heap path (.table t) ↔ ∃ v ∈ (heap t).values, Blocked heap (t :: path) v := by
  constructor
  · rintro ⟨_, same, meets⟩
    cases same
    obtain ⟨next, contained, later⟩ := (meets_step _ path t fresh).mp meets
    exact ⟨.table next, contained, next, rfl, later⟩
  · rintro ⟨_, contained, next, rfl, later⟩
    exact ⟨t, rfl, (meets_step _ path t fresh).mpr ⟨next, contained, later⟩⟩

/-- What a call on the path gives: the cyclic-table error, or the text and the
set it was called with. -/
structure Outcome (heap : Heap count) (path : List (Fin count)) (v : LuaValue count)
    (text : List UInt8) (result : Except Failure (List UInt8 × Seen count)) : Prop where
  fails : Blocked heap path v → result = .error .cyclic
  succeeds : ¬Blocked heap path v → result = .ok (text, onPath path)

theorem Outcome.either {heap : Heap count} {path : List (Fin count)} {v : LuaValue count}
    {text : List UInt8} {result : Except Failure (List UInt8 × Seen count)}
    (outcome : Outcome heap path v text result) :
    result = .ok (text, onPath path) ∨ result = .error .cyclic := by
  by_cases blocked : Blocked heap path v
  · exact .inr (outcome.fails blocked)
  · exact .inl (outcome.succeeds blocked)

variable (heap : Heap count) (fuel : Nat) (path : List (Fin count)) (t : Fin count)

/-- The entry of an object fails and succeeds with its value. -/
theorem encodeEntry_outcome (inner : LuaValue count → List UInt8)
    (encode : LuaValue count → Seen count → Except Failure (List UInt8 × Seen count))
    (entry : Key × LuaValue count)
    (outcome : Outcome heap path entry.2 (inner entry.2) (encode entry.2 (onPath path))) :
    Outcome heap path entry.2 (entryText inner entry)
      (encodeEntry encode entry (onPath path)) where
  fails := by
    intro blocked
    simp only [encodeEntry, outcome.fails blocked, bind, Except.bind]
  succeeds := by
    intro free
    simp only [encodeEntry, outcome.succeeds free, bind, Except.bind]
    rfl

/-- The values of a table one after another, off the path or on it. -/
theorem encodeAll_outcome {Thing : Type} (things : List Thing) (value : Thing → LuaValue count)
    (out : Thing → List UInt8)
    (encode : Thing → Seen count → Except Failure (List UInt8 × Seen count))
    (each : ∀ thing, Outcome heap path (value thing) (out thing) (encode thing (onPath path))) :
    ((∃ thing ∈ things, Blocked heap path (value thing)) →
      encodeAll encode things (onPath path) = .error .cyclic) ∧
    ((¬∃ thing ∈ things, Blocked heap path (value thing)) →
      encodeAll encode things (onPath path) = .ok (things.map out, onPath path)) := by
  constructor
  · rintro ⟨thing, member, blocked⟩
    apply encodeAll_cyclic encode out _ things
    · exact fun other _ => (each other).either
    · exact ⟨thing, member, (each thing).fails blocked⟩
  · intro free
    apply encodeAll_ok encode out _ things
    intro thing member
    exact (each thing).succeeds fun blocked => free ⟨thing, member, blocked⟩

/-- The loop over a sequence visits what the search looks through. -/
theorem blocked_items (fresh : t ∉ path) (array : (heap t).isArray = true) :
    (∃ v ∈ (heap t).items, Blocked heap (t :: path) v) ↔ Blocked heap path (.table t) := by
  have perm := (heap t).items_perm ((heap t).isArray_iff.mp array)
  rw [blocked_table heap path t fresh]
  simp only [perm.mem_iff]

/-- So does the loop over the entries. -/
theorem blocked_entries (fresh : t ∉ path) :
    (∃ entry ∈ (heap t).entries, Blocked heap (t :: path) entry.2) ↔
      Blocked heap path (.table t) := by
  rw [blocked_table heap path t fresh]
  constructor
  · rintro ⟨entry, member, blocked⟩
    exact ⟨entry.2, List.mem_map_of_mem member, blocked⟩
  · rintro ⟨v, member, blocked⟩
    obtain ⟨entry, inside, rfl⟩ := List.mem_map.mp member
    exact ⟨entry, inside, blocked⟩

/-- One level of the search: the values are encoded on the path that goes into
the table. -/
theorem encodeJson_table (fresh : t ∉ path)
    (each : ∀ v, Outcome heap (t :: path) v (printed heap fuel v)
      (encodeJson heap fuel v (onPath (t :: path)))) :
    Outcome heap path (.table t) (printed heap (fuel + 1) (.table t))
      (encodeJson heap (fuel + 1) (.table t) (onPath path)) := by
  have unseen : onPath path t = false := by simp [onPath, fresh]
  by_cases array : (heap t).isArray = true
  · have visits := blocked_items heap path t fresh array
    obtain ⟨fails, succeeds⟩ := encodeAll_outcome heap (t :: path) (heap t).items id
      (printed heap fuel) (encodeJson heap fuel) each
    constructor
    · intro blocked
      simp only [encodeJson, unseen, array, onPath_enter, fails (visits.mpr blocked), bind,
        Except.bind]
      rfl
    · intro free
      have out := succeeds fun blocked => free (visits.mp blocked)
      simp only [encodeJson, unseen, array, onPath_enter, out, bind, Except.bind, printed,
        tableText, if_true, onPath_leave path t fresh]
      rfl
  · have visits := blocked_entries heap path t fresh
    obtain ⟨fails, succeeds⟩ := encodeAll_outcome heap (t :: path) (heap t).entries Prod.snd
      (entryText (printed heap fuel)) (encodeEntry (encodeJson heap fuel)) fun entry =>
        encodeEntry_outcome heap (t :: path) (printed heap fuel) _ entry (each entry.2)
    constructor
    · intro blocked
      simp only [encodeJson, unseen, array, onPath_enter, fails (visits.mpr blocked), bind,
        Except.bind]
      rfl
    · intro free
      have out := succeeds fun blocked => free (visits.mp blocked)
      simp only [encodeJson, unseen, array, onPath_enter, out, bind, Except.bind, printed,
        tableText, onPath_leave path t fresh]
      rfl

theorem encodeJson_scalar (v : LuaValue count) (scalar : ∀ t, v ≠ .table t) (seen : Seen count) :
    encodeJson heap (fuel + 1) v seen = .ok (printed heap (fuel + 1) v, seen) := by
  cases v with
  | table t => exact absurd rfl (scalar t)
  | number n =>
      simp only [encodeJson, printed, scalarText]
      split <;> rfl
  | nil => rfl
  | boolean truth => rfl
  | string s => rfl

/-- With more fuel than tables off the path, the encoder refuses what is blocked
and prints everything else. The induction is on the fuel; the path takes up one
table at each level. -/
theorem encodeJson_outcome (v : LuaValue count) (simple : path.Nodup)
    (enough : count < fuel + path.length) :
    Outcome heap path v (printed heap fuel v) (encodeJson heap fuel v (onPath path)) := by
  induction fuel generalizing path v with
  | zero =>
      have bound := path_bounded path simple
      omega
  | succ fuel ih =>
      by_cases table : ∃ t, v = .table t
      · obtain ⟨t, rfl⟩ := table
        by_cases visited : t ∈ path
        · have blocked : Blocked heap path (.table t) := ⟨t, rfl, meets_on_path _ path t visited⟩
          have seen : onPath path t = true := by simp [onPath, visited]
          constructor
          · intro _
            simp only [encodeJson, seen, if_true]
          · intro free
            exact absurd blocked free
        · apply encodeJson_table heap fuel path t visited
          intro v
          apply ih (t :: path) v (List.nodup_cons.mpr ⟨visited, simple⟩)
          rw [List.length_cons]
          omega
      · have scalar : ∀ t, v ≠ .table t := fun t same => table ⟨t, same⟩
        constructor
        · rintro ⟨t, same, _⟩
          exact absurd same (scalar t)
        · intro _
          exact encodeJson_scalar heap fuel v scalar _

/-- `M.json` raises its error for the cyclic values and returns the text of every
other one. -/
theorem mJson_outcome (v : LuaValue count) (enough : count < fuel) :
    (Cyclic heap v → mJson heap fuel v = .error .cyclic) ∧
      (¬Cyclic heap v → mJson heap fuel v = .ok (printed heap fuel v)) := by
  have empty : (fun _ => false) = (onPath [] : Seen count) := by
    funext t
    simp [onPath]
  have outcome := encodeJson_outcome heap fuel [] v List.nodup_nil (by simpa using enough)
  rw [cyclic_iff_blocked]
  constructor
  · intro blocked
    simp only [mJson, empty, outcome.fails blocked, bind, Except.bind]
  · intro free
    simp only [mJson, empty, outcome.succeeds free, bind, Except.bind]
    rfl

end Search

end RyzenBuild.Delta
