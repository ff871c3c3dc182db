import RyzenBuild.DawnHex.Ioctl

/-!
What the operations under the lock refuse. Each operation is stated as the list
of its checks in the order of the code; the first check that fails decides the
error, and a refused request leaves no trace.
-/
namespace RyzenBuild.DawnHex

open Kernel Ladder Memory

inductive Locked where
  | add (id : UInt32) (name : List UInt8)
  | del (id : UInt32)
  | link (a b : UInt32) (enable : Bool)
  | duoAdd (a b mode : UInt32)
  | duoDel (pairId : UInt32)
  | duoPulse (pairId valuePpm : UInt32)
  deriving DecidableEq, Repr

def Locked.run (s : State) : Locked → State × Option Errno
  | .add id name => dhAddNodeLocked s id name
  | .del id => dhDelNodeLocked s id
  | .link a b enable => dhLinkLocked s a b enable
  | .duoAdd a b mode => errorOf (dhDuoAddPairLocked s a b mode)
  | .duoDel pairId => dhDuoDelPairLocked s pairId
  | .duoPulse pairId valuePpm => dhDuoPulseLocked s pairId valuePpm

/-- An id out of range counts as absent. -/
def Absent (s : State) (id : UInt32) : Prop :=
  ¬(id.toNat < dawnhexMaxNodes ∧ present s id.toNat = true)

def Unpaired (s : State) (pairId : UInt32) : Prop := ∀ p ∈ livePairs s, p.pairId ≠ pairId

/-- The pair that the id names has lost an endpoint. -/
def Loose (s : State) (pairId : UInt32) : Prop :=
  ∃ p, (livePairs s).find? (fun p => p.pairId = pairId) = some p ∧ (Absent s p.a ∨ Absent s p.b)

/-- What is wrong with a request, in the order of the checks, and the error for it. -/
def Locked.checks (s : State) : Locked → List (Prop × Errno)
  | .add id _ => [(dawnhexMaxNodes ≤ id.toNat, .einval), (present s id.toNat = true, .eexist)]
  | .del id => [(dawnhexMaxNodes ≤ id.toNat, .einval), (Absent s id, .enoent)]
  | .link a b _ => [(a = b, .einval), (Absent s a ∨ Absent s b, .enoent)]
  | .duoAdd a b _ =>
      [((livePairs s).length = 128, .enospc), (a = b, .einval),
        (Absent s a ∨ Absent s b, .enoent)]
  | .duoDel pairId => [(Unpaired s pairId, .enoent)]
  | .duoPulse pairId _ => [(Unpaired s pairId, .enoent), (Loose s pairId, .enoent)]

/-- The error is that of the first thing that is wrong. -/
def Refused : List (Prop × Errno) → Errno → Prop
  | [], _ => False
  | (wrong, reported) :: rest, e => wrong ∧ reported = e ∨ ¬wrong ∧ Refused rest e

theorem refused_here (wrong : Prop) (reported e : Errno) (rest : List (Prop × Errno))
    (here : wrong) : Refused ((wrong, reported) :: rest) e ↔ some reported = some e := by
  simp [Refused, here]

theorem refused_later (wrong : Prop) (reported e : Errno) (rest : List (Prop × Errno))
    (passed : ¬wrong) : Refused ((wrong, reported) :: rest) e ↔ Refused rest e := by
  simp [Refused, passed]

theorem refused_nil (e : Errno) : Refused [] e ↔ (none : Option Errno) = some e := by
  simp [Refused]

theorem lookup_none (s : State) (id : UInt32) :
    dhLookupNodeLocked s id = none ↔ Absent s id := by
  constructor
  · rintro missing ⟨inside, here⟩
    have found := (lookup_some s id id.toNat).mpr ⟨rfl, inside, here⟩
    rw [missing] at found
    cases found
  · intro absent
    cases found : dhLookupNodeLocked s id with
    | none => rfl
    | some i =>
        obtain ⟨_, inside, here⟩ := (lookup_some s id i).mp found
        exact absurd ⟨inside, here⟩ absent

theorem add_refused_iff (s : State) (id : UInt32) (name : List UInt8) (e : Errno) :
    (dhAddNodeLocked s id name).2 = some e ↔ Refused (Locked.checks s (.add id name)) e := by
  rw [Locked.checks]
  by_cases outside : dawnhexMaxNodes ≤ id.toNat
  · rw [refused_here _ _ _ _ outside, dhAddNodeLocked, if_pos outside]
  · rw [refused_later _ _ _ _ outside, dhAddNodeLocked, if_neg outside]
    by_cases occupied : present s id.toNat = true
    · have member : (s.nodes id.toNat).present = true := occupied
      rw [refused_here _ _ _ _ occupied, if_pos member]
    · have vacant : ¬(s.nodes id.toNat).present = true := occupied
      rw [refused_later _ _ _ _ occupied, if_neg vacant, refused_nil]

theorem del_refused_iff (s : State) (id : UInt32) (e : Errno) :
    (dhDelNodeLocked s id).2 = some e ↔ Refused (Locked.checks s (.del id)) e := by
  rw [Locked.checks]
  by_cases outside : dawnhexMaxNodes ≤ id.toNat
  · rw [refused_here _ _ _ _ outside, dhDelNodeLocked, if_pos outside]
  · rw [refused_later _ _ _ _ outside, dhDelNodeLocked, if_neg outside]
    by_cases here : (s.nodes id.toNat).present = true
    · have passed : ¬Absent s id := fun absent => absent ⟨Nat.lt_of_not_le outside, here⟩
      rw [refused_later _ _ _ _ passed, refused_nil, if_neg (by simp [here])]
    · have absent : Absent s id := fun found => here found.2
      rw [refused_here _ _ _ _ absent, if_pos (by simpa using here)]

/-- Either both endpoints are found or one of them is absent. -/
theorem endpoints_found (s : State) (a b : UInt32) :
    (Absent s a ∨ Absent s b) ∧
        (dhLookupNodeLocked s a = none ∨ dhLookupNodeLocked s b = none) ∨
      ¬(Absent s a ∨ Absent s b) ∧ dhLookupNodeLocked s a = some a.toNat ∧
        dhLookupNodeLocked s b = some b.toNat := by
  by_cases lost : Absent s a ∨ Absent s b
  · rw [lookup_none, lookup_none]
    exact Or.inl ⟨lost, lost⟩
  · have found : ∀ id, ¬Absent s id → dhLookupNodeLocked s id = some id.toNat := by
      intro id here
      obtain ⟨inside, member⟩ := not_not.mp here
      exact (lookup_some s id id.toNat).mpr ⟨rfl, inside, member⟩
    exact Or.inr ⟨lost, found a fun away => lost (.inl away), found b fun away => lost (.inr away)⟩

theorem link_refused_iff (s : State) (a b : UInt32) (enable : Bool) (e : Errno) :
    (dhLinkLocked s a b enable).2 = some e ↔ Refused (Locked.checks s (.link a b enable)) e := by
  rw [Locked.checks]
  by_cases same : a = b
  · rw [refused_here _ _ _ _ same, dhLinkLocked, if_pos same]
  · rw [refused_later _ _ _ _ same, dhLinkLocked, if_neg same]
    rcases endpoints_found s a b with ⟨lost, missing⟩ | ⟨kept, foundA, foundB⟩
    · rw [refused_here _ _ _ _ lost]
      rcases missing with missing | missing
      · rw [missing]
      · cases dhLookupNodeLocked s a <;> rw [missing]
    · rw [refused_later _ _ _ _ kept, refused_nil, foundA, foundB]

theorem few_pairs_step (s : State) (command : Command)
    (few : s.duo.pairCount.toNat ≤ 128) : (step s command).duo.pairCount.toNat ≤ 128 := by
  rw [step_duo]
  cases command with
  | duoAdd a b mode =>
      dsimp only
      rcases duo_add_cases s a b mode with ⟨_, failed⟩ | ⟨_, room, _, _, _, _, count, _⟩
      · rwa [failed]
      · have small : s.duo.pairCount.toNat < 128 := UInt32.lt_iff_toNat_lt.mp room
        rw [count, UInt32.toNat_add]
        exact Nat.le_trans (Nat.mod_le _ _) small
  | duoDel pairId =>
      dsimp only
      rcases duo_del_cases s pairId with ⟨_, failed⟩ | ⟨i, found, _, count, _⟩
      · rwa [failed]
      · rw [count, UInt32.toNat_sub_of_le _ _ (found_nonempty s pairId i found)]
        exact (Nat.sub_le _ _).trans few
  | duoPulse pairId value =>
      dsimp only
      rcases duo_pulse_cases s pairId value with failed | ⟨_, _, _, _, _, _, duo, _⟩
      · rwa [failed]
      · rwa [duo]
  | _ => exact few

theorem reachable_few_pairs (s : State) (reachable : Reachable s) :
    s.duo.pairCount.toNat ≤ 128 :=
  reachable_invariant (fun s => s.duo.pairCount.toNat ≤ 128) (Nat.zero_le 128) few_pairs_step s
    reachable

theorem duo_add_refused_iff (s : State) (reachable : Reachable s) (a b mode : UInt32) (e : Errno) :
    (errorOf (dhDuoAddPairLocked s a b mode)).2 = some e ↔
      Refused (Locked.checks s (.duoAdd a b mode)) e := by
  have few := reachable_few_pairs s reachable
  have limit : s.duo.pairCount ≥ dawnhexDuoMaxPairs ↔ 128 ≤ s.duo.pairCount.toNat :=
    UInt32.le_iff_toNat_le
  have full : s.duo.pairCount ≥ dawnhexDuoMaxPairs ↔ (livePairs s).length = 128 := by
    rw [limit, live_pairs_length]
    omega
  rw [Locked.checks]
  by_cases stuffed : s.duo.pairCount ≥ dawnhexDuoMaxPairs
  · rw [refused_here _ _ _ _ (full.mp stuffed), dhDuoAddPairLocked, if_pos stuffed]
    rfl
  · rw [refused_later _ _ _ _ (stuffed ∘ full.mpr), dhDuoAddPairLocked, if_neg stuffed]
    by_cases same : a = b
    · rw [refused_here _ _ _ _ same, if_pos same]
      rfl
    · rw [refused_later _ _ _ _ same, if_neg same]
      rcases endpoints_found s a b with ⟨lost, missing⟩ | ⟨kept, foundA, foundB⟩
      · rw [refused_here _ _ _ _ lost]
        rcases missing with missing | missing
        · rw [missing]
          rfl
        · cases dhLookupNodeLocked s a <;> rw [missing] <;> rfl
      · rw [refused_later _ _ _ _ kept, refused_nil, foundA, foundB]
        rfl

/-- The search fails exactly if no live pair has the id. -/
theorem search_failed (s : State) (pairId : UInt32) :
    dhDuoLookupPairLocked s pairId = none ↔ Unpaired s pairId := by
  rw [← Option.map_eq_none_iff (f := s.duo.pairs), lookup_live, List.find?_eq_none]
  simp [Unpaired]

theorem duo_del_refused_iff (s : State) (pairId : UInt32) (e : Errno) :
    (dhDuoDelPairLocked s pairId).2 = some e ↔ Refused (Locked.checks s (.duoDel pairId)) e := by
  rw [Locked.checks]
  cases found : dhDuoLookupPairLocked s pairId with
  | none =>
      rw [refused_here _ _ _ _ ((search_failed s pairId).mp found), dhDuoDelPairLocked, found]
  | some i =>
      have paired : ¬Unpaired s pairId := by
        rw [← search_failed, found]
        exact Option.some_ne_none i
      rw [refused_later _ _ _ _ paired, refused_nil, dhDuoDelPairLocked, found]

theorem duo_pulse_refused_iff (s : State) (reachable : Reachable s) (pairId value : UInt32)
    (e : Errno) :
    (dhDuoPulseLocked s pairId value).2 = some e ↔
      Refused (Locked.checks s (.duoPulse pairId value)) e := by
  rw [Locked.checks]
  cases found : dhDuoLookupPairLocked s pairId with
  | none =>
      rw [refused_here _ _ _ _ ((search_failed s pairId).mp found), dhDuoPulseLocked, found]
  | some i =>
      have paired : ¬Unpaired s pairId := by
        rw [← search_failed, found]
        exact Option.some_ne_none i
      have named := lookup_live s pairId
      rw [found, Option.map_some] at named
      have live := (mem_live_pairs s _).mpr ⟨i, (pair_lookup_some s pairId i found).1, rfl⟩
      -- Deletion compacts the table, so a pair that is not active is not found.
      have active := (reachable_joined s reachable _ live).active
      rw [refused_later _ _ _ _ paired]
      have loose : Loose s pairId ↔ Absent s (s.duo.pairs i).a ∨ Absent s (s.duo.pairs i).b := by
        simp [Loose, ← named]
      rcases endpoints_found s (s.duo.pairs i).a (s.duo.pairs i).b with
        ⟨lost, missing⟩ | ⟨kept, foundA, foundB⟩
      · rw [refused_here _ _ _ _ (loose.mpr lost)]
        rcases missing with missing | missing
        · simp [dhDuoPulseLocked, found, active, missing]
        · simp [dhDuoPulseLocked, found, active, missing]
      · rw [refused_later _ _ _ _ (kept ∘ loose.mp), refused_nil]
        simp [dhDuoPulseLocked, found, active, foundA, foundB]

theorem locked_refused_iff (s : State) (reachable : Reachable s) (operation : Locked) (e : Errno) :
    (operation.run s).2 = some e ↔ Refused (operation.checks s) e := by
  cases operation with
  | add id name => exact add_refused_iff s id name e
  | del id => exact del_refused_iff s id e
  | link a b enable => exact link_refused_iff s a b enable e
  | duoAdd a b mode => exact duo_add_refused_iff s reachable a b mode e
  | duoDel pairId => exact duo_del_refused_iff s pairId e
  | duoPulse pairId value => exact duo_pulse_refused_iff s reachable pairId value e

theorem locked_failed_same (s : State) (operation : Locked) (e : Errno)
    (failed : (operation.run s).2 = some e) : (operation.run s).1 = s := by
  cases operation with
  | add id name => exact add_failed_same s e id name failed
  | del id => exact del_failed_same s e id failed
  | link a b enable => exact link_failed_same s e a b enable failed
  | duoAdd a b mode =>
      obtain ⟨refused, same⟩ := errorOf_some (dhDuoAddPairLocked s a b mode) e failed
      exact same.trans (duo_add_failed_same s e a b mode refused)
  | duoDel pairId => exact duo_del_failed_same s e pairId failed
  | duoPulse pairId value => exact duo_pulse_failed_same s e pairId value failed

/-- A command string or an operation under the lock that reports an error leaves
the whole state as it was, and the operations report each error exactly if the
first thing wrong with the request calls for it. -/
theorem refusals_atomic_and_exact (s : State) (reachable : Reachable s) :
    (∀ cmd e, (dhHandleCommandLocked s cmd).2 = some e → (dhHandleCommandLocked s cmd).1 = s) ∧
      ∀ (operation : Locked) (e : Errno),
        ((operation.run s).2 = some e → (operation.run s).1 = s) ∧
          ((operation.run s).2 = some e ↔ Refused (operation.checks s) e) := by
  refine ⟨handled_failed_same s, fun operation e => ⟨?_, ?_⟩⟩
  · exact locked_failed_same s operation e
  · exact locked_refused_iff s reachable operation e

/-- A self-link of an absent node: the endpoints are compared before they are looked up. -/
theorem self_link_refused :
    dhLinkLocked dawnhexInit 9 9 true = (dawnhexInit, some .einval) ∧
      Refused (Locked.checks dawnhexInit (.link 9 9 true)) .einval := by
  have reachable : Reachable dawnhexInit := ⟨[], rfl⟩
  have exact := (refusals_atomic_and_exact dawnhexInit reachable).2 (.link 9 9 true) .einval
  exact ⟨rfl, exact.2.mp rfl⟩

end RyzenBuild.DawnHex
