import RyzenBuild.DawnHex.Pairs
import RyzenBuild.Lib.OrderedMap

/-!
The duo table as an ordered finite map from ids to pairs. A log of the ids
that adds returned and that deletions took away says which ids stand; the
compacted array, its linear search and the id counter together implement the
map as long as the counter has not gone round.
-/
namespace RyzenBuild.DawnHex

open Kernel Ladder Memory SortedTable

inductive TableEvent where
  | issued (pairId : UInt32)
  | removed (pairId : UInt32)
  deriving DecidableEq, Repr

structure Ledger where
  cluster : State
  log : List TableEvent

def tableEvents (s : State) : Command → List TableEvent
  | .duoAdd a b mode =>
      match (dhDuoAddPairLocked s a b mode).2 with
      | .ok pairId => [.issued pairId]
      | .error _ => []
  | .duoDel pairId =>
      match (dhDuoDelPairLocked s pairId).2 with
      | none => [.removed pairId]
      | some _ => []
  | _ => []

def Ledger.step (l : Ledger) (command : Command) : Ledger :=
  ⟨DawnHex.step l.cluster command, l.log ++ tableEvents l.cluster command⟩

def Ledger.start : Ledger := ⟨registered, []⟩

/-- The ids that successful adds returned, in order. -/
def issuedIds (log : List TableEvent) : List UInt32 :=
  log.filterMap fun event =>
    match event with
    | .issued pairId => some pairId
    | .removed _ => none

/-- An add returned the id and no later deletion of it succeeded. -/
def Standing (log : List TableEvent) (pairId : UInt32) : Prop :=
  ∃ before after, log = before ++ .issued pairId :: after ∧ .removed pairId ∉ after

theorem standing_snoc (log : List TableEvent) (event : TableEvent) (pairId : UInt32) :
    Standing (log ++ [event]) pairId ↔
      event = .issued pairId ∨ Standing log pairId ∧ event ≠ .removed pairId := by
  constructor
  · rintro ⟨before, after, whole, kept⟩
    rcases List.eq_nil_or_concat after with rfl | ⟨init, last, rfl⟩
    · obtain ⟨_, same⟩ := List.append_inj' whole rfl
      exact Or.inl (by simpa using same)
    · rw [List.concat_eq_append] at whole kept
      rw [← List.cons_append, ← List.append_assoc] at whole
      obtain ⟨front, same⟩ := List.append_inj' whole rfl
      obtain rfl : event = last := by simpa using same
      rw [List.mem_append, not_or] at kept
      exact Or.inr ⟨⟨before, init, front, kept.1⟩, fun removed => kept.2 (by simp [removed])⟩
  · rintro (rfl | ⟨⟨before, after, rfl, kept⟩, other⟩)
    · exact ⟨log, [], rfl, List.not_mem_nil⟩
    · refine ⟨before, after ++ [event], by simp, ?_⟩
      simp [kept, Ne.symm other]

abbrev PairMap : Type := OrderedMap fun p : DuoPair => p.pairId.toNat

/-- The linear search finds what the map holds. -/
theorem lookup_pairs (s : State) (m : PairMap) (items : livePairs s = m.items) (pairId : UInt32) :
    (dhDuoLookupPairLocked s pairId).map s.duo.pairs = m.lookup pairId.toNat := by
  rw [lookup_live, OrderedMap.lookup, ← items]
  congr 1
  funext p
  simp [UInt32.toNat_inj]

/-- The map the table holds, with the log of the run that led to it. -/
structure Tabled (l : Ledger) (m : PairMap) : Prop where
  items : livePairs l.cluster = m.items
  count : l.cluster.duo.pairCount.toNat ≤ 128
  below : ∀ p ∈ m.items, p.pairId.toNat ≤ l.cluster.duo.nextPairId.toNat
  counted : l.cluster.duo.nextPairId.toNat = (issuedIds l.log).length
  issued_below : ∀ pairId ∈ issuedIds l.log, pairId.toNat ≤ l.cluster.duo.nextPairId.toNat
  distinct : (issuedIds l.log).Nodup
  standing : ∀ pairId : UInt32, (m.lookup pairId.toNat).isSome ↔ Standing l.log pairId

theorem tabled_start : Tabled Ledger.start OrderedMap.empty where
  items := rfl
  count := by decide
  below := by simp [OrderedMap.empty]
  counted := rfl
  issued_below := by simp [Ledger.start, issuedIds]
  distinct := List.nodup_nil
  standing := by
    intro pairId
    simp [OrderedMap.lookup, OrderedMap.empty, Ledger.start, Standing]

theorem tabled_kept (l l' : Ledger) (m : PairMap) (tabled : Tabled l m)
    (duo : l'.cluster.duo = l.cluster.duo) (log : l'.log = l.log) : Tabled l' m := by
  constructor
  · rw [live_pairs_of_duo _ _ duo]
    exact tabled.items
  · rw [duo]
    exact tabled.count
  · rw [duo]
    exact tabled.below
  · rw [duo, log]
    exact tabled.counted
  · rw [duo, log]
    exact tabled.issued_below
  · rw [log]
    exact tabled.distinct
  · rw [log]
    exact tabled.standing

theorem issued_snoc (log : List TableEvent) (pairId : UInt32) :
    issuedIds (log ++ [.issued pairId]) = issuedIds log ++ [pairId] := by
  simp [issuedIds]

theorem removed_snoc (log : List TableEvent) (pairId : UInt32) :
    issuedIds (log ++ [.removed pairId]) = issuedIds log := by
  simp [issuedIds]

/-- An add that succeeds hands out the next id and appends its pair. -/
theorem add_inserts (s : State) (a b mode pairId : UInt32)
    (added : (dhDuoAddPairLocked s a b mode).2 = .ok pairId) :
    pairId = s.duo.nextPairId + 1 ∧ s.duo.pairCount < dawnhexDuoMaxPairs ∧
      (dhDuoAddPairLocked s a b mode).1.duo.nextPairId = pairId ∧
      (dhDuoAddPairLocked s a b mode).1.duo.pairCount = s.duo.pairCount + 1 ∧
      livePairs (dhDuoAddPairLocked s a b mode).1 =
        livePairs s ++ [dhDuoRecomputeSimplexLocked (freshPair pairId a b mode)] := by
  rcases duo_add_cases s a b mode with
    ⟨⟨e, failed⟩, _⟩ | ⟨ok, room, different, foundA, foundB, _, count, pairs⟩
  · rw [failed] at added
    cases added
  · have issued : s.duo.nextPairId + 1 = pairId := by simpa [ok] using added
    subst issued
    have space : ¬ s.duo.pairCount ≥ dawnhexDuoMaxPairs := by simpa using room
    refine ⟨rfl, room, ?_, count, live_pairs_append s _ _ room count pairs⟩
    simp [dhDuoAddPairLocked, space, different, foundA, foundB, State.setPair]

/-- Only a full table is out of space. -/
theorem add_enospc (s : State) (a b mode : UInt32) :
    (dhDuoAddPairLocked s a b mode).2 = .error .enospc ↔ 128 ≤ s.duo.pairCount.toNat := by
  have limit : s.duo.pairCount ≥ dawnhexDuoMaxPairs ↔ 128 ≤ s.duo.pairCount.toNat :=
    UInt32.le_iff_toNat_le
  rw [← limit]
  by_cases full : s.duo.pairCount ≥ dawnhexDuoMaxPairs
  · simp [dhDuoAddPairLocked, full]
  · simp only [full, iff_false]
    by_cases same : a = b
    · simp [dhDuoAddPairLocked, full, same]
    · cases foundA : dhLookupNodeLocked s a with
      | none => simp [dhDuoAddPairLocked, full, same, foundA]
      | some na =>
          cases foundB : dhLookupNodeLocked s b with
          | none => simp [dhDuoAddPairLocked, full, same, foundA, foundB]
          | some nb => simp [dhDuoAddPairLocked, full, same, foundA, foundB]

theorem next_above (l : Ledger) (m : PairMap) (a b mode pairId : UInt32) (tabled : Tabled l m)
    (added : (dhDuoAddPairLocked l.cluster a b mode).2 = .ok pairId)
    (few : (issuedIds l.log).length + 1 < 2 ^ 32) :
    pairId.toNat = l.cluster.duo.nextPairId.toNat + 1 ∧ ∀ p ∈ m.items,
      p.pairId.toNat < (dhDuoRecomputeSimplexLocked (freshPair pairId a b mode)).pairId.toNat := by
  obtain ⟨next, _⟩ := add_inserts l.cluster a b mode pairId added
  have counted := tabled.counted
  -- The counter has not gone round, so the id is new.
  have advanced : pairId.toNat = l.cluster.duo.nextPairId.toNat + 1 := by
    rw [next, UInt32.toNat_add, counted]
    exact Nat.mod_eq_of_lt few
  refine ⟨advanced, ?_⟩
  intro p member
  have := tabled.below p member
  change p.pairId.toNat < pairId.toNat
  omega

theorem tabled_added (l : Ledger) (m : PairMap) (a b mode pairId : UInt32) (tabled : Tabled l m)
    (added : (dhDuoAddPairLocked l.cluster a b mode).2 = .ok pairId)
    (few : (issuedIds l.log).length + 1 < 2 ^ 32) :
    ∃ m', Tabled (l.step (.duoAdd a b mode)) m' := by
  obtain ⟨_, room, counter, count, pairs⟩ := add_inserts l.cluster a b mode pairId added
  obtain ⟨advanced, above⟩ := next_above l m a b mode pairId tabled added few
  have counted := tabled.counted
  have small := UInt32.lt_iff_toNat_lt.mp room
  have cluster : (l.step (.duoAdd a b mode)).cluster =
      (dhDuoAddPairLocked l.cluster a b mode).1 := step_duo_add l.cluster a b mode
  have log : (l.step (.duoAdd a b mode)).log = l.log ++ [.issued pairId] := by
    simp [Ledger.step, tableEvents, added]
  refine ⟨m.insertLast _ above, ?_⟩
  constructor
  · rw [cluster, pairs, tabled.items]
    rfl
  · rw [cluster, count, UInt32.toNat_add]
    have : dawnhexDuoMaxPairs.toNat = 128 := rfl
    have : (1 : UInt32).toNat = 1 := rfl
    omega
  · intro p member
    rw [cluster, counter]
    rcases List.mem_append.mp member with old | fresh
    · have := tabled.below p old
      omega
    · rw [List.mem_singleton.mp fresh]
      exact Nat.le_refl _
  · rw [cluster, counter, log, issued_snoc, List.length_append, advanced, counted]
    rfl
  · intro other member
    rw [cluster, counter]
    rw [log, issued_snoc, List.mem_append, List.mem_singleton] at member
    rcases member with old | same
    · have := tabled.issued_below other old
      omega
    · rw [same]
  · rw [log, issued_snoc]
    apply List.Nodup.append tabled.distinct (List.nodup_singleton pairId)
    intro other old same
    have := tabled.issued_below other old
    rw [List.mem_singleton.mp same] at this
    omega
  · intro other
    rw [lookup_insertLast, log, standing_snoc, ← tabled.standing other]
    change (if other.toNat = pairId.toNat then _ else _ : Option DuoPair).isSome ↔ _
    by_cases here : other = pairId
    · simp [here]
    · have apart : other.toNat ≠ pairId.toNat := fun equal => here (UInt32.toNat_inj.mp equal)
      simp [apart, Ne.symm here]

theorem found_item (s : State) (m : PairMap) (items : livePairs s = m.items) (pairId : UInt32)
    (i : Nat) (found : dhDuoLookupPairLocked s pairId = some i) :
    m.items[i]? = some (s.duo.pairs i) ∧ (s.duo.pairs i).pairId = pairId := by
  obtain ⟨inside, matched⟩ := pair_lookup_some s pairId i found
  exact ⟨items ▸ live_pairs_get s i inside, matched⟩

/-- A deletion erases exactly the pair of that id, or fails and changes nothing. -/
theorem del_erases (s : State) (m : PairMap) (items : livePairs s = m.items) (pairId : UInt32) :
    m.lookup pairId.toNat = none ∧ (dhDuoDelPairLocked s pairId).2 = some .enoent ∧
        (dhDuoDelPairLocked s pairId).1 = s ∨
      (m.lookup pairId.toNat).isSome ∧ (dhDuoDelPairLocked s pairId).2 = none ∧
        livePairs (dhDuoDelPairLocked s pairId).1 = (m.erase pairId.toNat).items ∧
        (dhDuoDelPairLocked s pairId).1.duo.nextPairId = s.duo.nextPairId ∧
        (dhDuoDelPairLocked s pairId).1.duo.pairCount.toNat ≤ s.duo.pairCount.toNat := by
  have searched := lookup_pairs s m items pairId
  cases found : dhDuoLookupPairLocked s pairId with
  | none =>
      rw [found] at searched
      exact Or.inl ⟨searched.symm, by simp [dhDuoDelPairLocked, found],
        by simp [dhDuoDelPairLocked, found]⟩
  | some i =>
      rw [found] at searched
      obtain ⟨inside, _⟩ := pair_lookup_some s pairId i found
      obtain ⟨item, matched⟩ := found_item s m items pairId i found
      have nonempty := found_nonempty s pairId i found
      refine Or.inr ⟨by simp [← searched], by simp [dhDuoDelPairLocked, found], ?_, ?_, ?_⟩
      · rw [live_pairs_erase s _ i inside (by simp [dhDuoDelPairLocked, found])
          (by simp [dhDuoDelPairLocked, found]), items, eraseIdx_items m i _ item, matched]
      · simp [dhDuoDelPairLocked, found]
      · have shrunk : (dhDuoDelPairLocked s pairId).1.duo.pairCount = s.duo.pairCount - 1 := by
          simp [dhDuoDelPairLocked, found]
        rw [shrunk, UInt32.toNat_sub_of_le _ _ nonempty]
        omega

theorem tabled_deleted (l : Ledger) (m : PairMap) (pairId : UInt32) (tabled : Tabled l m) :
    ∃ m', Tabled (l.step (.duoDel pairId)) m' := by
  have cluster : (l.step (.duoDel pairId)).cluster = (dhDuoDelPairLocked l.cluster pairId).1 := rfl
  rcases del_erases l.cluster m tabled.items pairId with
    ⟨_, failed, same⟩ | ⟨_, deleted, pairs, counter, count⟩
  · refine ⟨m, tabled_kept l _ m tabled (by rw [cluster, same]) ?_⟩
    simp [Ledger.step, tableEvents, failed]
  · have log : (l.step (.duoDel pairId)).log = l.log ++ [.removed pairId] := by
      simp [Ledger.step, tableEvents, deleted]
    refine ⟨m.erase pairId.toNat, ?_⟩
    constructor
    · rw [cluster, pairs]
    · rw [cluster]
      exact count.trans tabled.count
    · intro p member
      rw [cluster, counter]
      exact tabled.below p ((mem_erase m _ p).mp member).1
    · rw [cluster, counter, log, removed_snoc]
      exact tabled.counted
    · rw [cluster, counter, log, removed_snoc]
      exact tabled.issued_below
    · rw [log, removed_snoc]
      exact tabled.distinct
    · intro other
      rw [lookup_erase, log, standing_snoc, ← tabled.standing other]
      by_cases here : other = pairId
      · simp [here]
      · have apart : other.toNat ≠ pairId.toNat := fun equal => here (UInt32.toNat_inj.mp equal)
        simp [apart, Ne.symm here]

/-- A pulse rewrites the pair of that id in place, under the same id, or
leaves the table alone. -/
theorem pulse_adjusts (s : State) (m : PairMap) (items : livePairs s = m.items)
    (pairId value : UInt32) :
    (dhDuoPulseLocked s pairId value).1 = s ∨
      ∃ change keeps, livePairs (dhDuoPulseLocked s pairId value).1 =
          (m.adjust pairId.toNat change keeps).items ∧
        (dhDuoPulseLocked s pairId value).1.duo.nextPairId = s.duo.nextPairId ∧
        (dhDuoPulseLocked s pairId value).1.duo.pairCount = s.duo.pairCount := by
  rcases duo_pulse_cases s pairId value with failed | ⟨i, found, _, _, p, pulsed, duo, _⟩
  · exact Or.inl failed
  · obtain ⟨item, matched⟩ := found_item s m items pairId i found
    obtain ⟨change, changed⟩ : ∃ change : DuoPair → DuoPair, change = fun q =>
        pulsedPair q (s.nodes (s.duo.pairs i).a.toNat) (s.nodes (s.duo.pairs i).b.toNat)
          (dhClampU32 value 0 1000000) := ⟨_, rfl⟩
    have keeps : ∀ q, (change q).pairId.toNat = q.pairId.toNat := fun _ => by rw [changed]; rfl
    refine Or.inr ⟨change, keeps, ?_, ?_, ?_⟩
    · rw [live_pairs_set s _ i p duo, pulsed, items, ← matched,
        ← set_items m i (s.duo.pairs i) change keeps item, changed]
    · rw [duo]
      rfl
    · rw [duo]
      rfl

theorem tabled_pulsed (l : Ledger) (m : PairMap) (pairId value : UInt32) (tabled : Tabled l m) :
    ∃ m', Tabled (l.step (.duoPulse pairId value)) m' := by
  have cluster : (l.step (.duoPulse pairId value)).cluster =
      (dhDuoPulseLocked l.cluster pairId value).1 := rfl
  have log : (l.step (.duoPulse pairId value)).log = l.log := by simp [Ledger.step, tableEvents]
  rcases pulse_adjusts l.cluster m tabled.items pairId value with
    same | ⟨change, keeps, pairs, counter, count⟩
  · exact ⟨m, tabled_kept l _ m tabled (by rw [cluster, same]) log⟩
  · refine ⟨m.adjust pairId.toNat change keeps, ?_⟩
    constructor
    · rw [cluster, pairs]
    · rw [cluster, count]
      exact tabled.count
    · intro p member
      rw [cluster, counter]
      obtain ⟨q, old, rfl⟩ := List.mem_map.mp member
      dsimp only
      split
      · exact (keeps q).le.trans (tabled.below q old)
      · exact tabled.below q old
    · rw [cluster, counter, log]
      exact tabled.counted
    · rw [cluster, counter, log]
      exact tabled.issued_below
    · rw [log]
      exact tabled.distinct
    · intro other
      rw [lookup_adjust, log, ← tabled.standing other, Option.isSome_map]

theorem tabled_step (l : Ledger) (m : PairMap) (command : Command) (tabled : Tabled l m)
    (few : (issuedIds (l.step command).log).length < 2 ^ 32) :
    ∃ m', Tabled (l.step command) m' := by
  cases command with
  | duoAdd a b mode =>
      cases added : (dhDuoAddPairLocked l.cluster a b mode).2 with
      | ok pairId =>
          have log : (l.step (.duoAdd a b mode)).log = l.log ++ [.issued pairId] := by
            simp [Ledger.step, tableEvents, added]
          rw [log, issued_snoc, List.length_append] at few
          exact tabled_added l m a b mode pairId tabled added few
      | error e =>
          refine ⟨m, tabled_kept l _ m tabled ?_ (by simp [Ledger.step, tableEvents, added])⟩
          rw [Ledger.step, step_duo_add, duo_add_failed_same l.cluster e a b mode added]
  | duoDel pairId => exact tabled_deleted l m pairId tabled
  | duoPulse pairId value => exact tabled_pulsed l m pairId value tabled
  | _ =>
      exact ⟨m, tabled_kept l _ m tabled (step_duo l.cluster _)
        (by simp [Ledger.step, tableEvents])⟩

theorem issued_grows (l : Ledger) (command : Command) :
    (issuedIds l.log).length ≤ (issuedIds (l.step command).log).length := by
  simp [Ledger.step, issuedIds, List.filterMap_append]

theorem issued_run (l : Ledger) (commands : List Command) :
    (issuedIds l.log).length ≤ (issuedIds (Trace.run Ledger.step l commands).log).length := by
  induction commands generalizing l with
  | nil => exact Nat.le_refl _
  | cons command rest ih => exact (issued_grows l command).trans (ih (l.step command))

theorem tabled_run (l : Ledger) (m : PairMap) (commands : List Command) (tabled : Tabled l m)
    (few : (issuedIds (Trace.run Ledger.step l commands).log).length < 2 ^ 32) :
    ∃ m', Tabled (Trace.run Ledger.step l commands) m' := by
  induction commands generalizing l m with
  | nil => exact ⟨m, tabled⟩
  | cons command rest ih =>
      have now := (issued_run (l.step command) rest).trans_lt few
      obtain ⟨m', next⟩ := tabled_step l m command tabled now
      exact ih (l.step command) m' next few

/-- The table is the ordered map `m`, and the next operation acts on it as on
a map: lookups search it, the standing ids are its keys, a deletion erases one
key, a pulse adjusts one value, an add appends above all keys. -/
structure TableRefines (l : Ledger) (m : PairMap) : Prop where
  items : livePairs l.cluster = m.items
  count : l.cluster.duo.pairCount.toNat ≤ 128
  below : ∀ p ∈ m.items, p.pairId.toNat ≤ l.cluster.duo.nextPairId.toNat
  lookup : ∀ pairId : UInt32,
    (dhDuoLookupPairLocked l.cluster pairId).map l.cluster.duo.pairs = m.lookup pairId.toNat
  standing : ∀ pairId : UInt32,
    (dhDuoLookupPairLocked l.cluster pairId).isSome ↔ Standing l.log pairId
  distinct : (issuedIds l.log).Nodup
  deletes : ∀ pairId : UInt32, Standing l.log pairId →
    (dhDuoDelPairLocked l.cluster pairId).2 = none ∧
      livePairs (dhDuoDelPairLocked l.cluster pairId).1 = (m.erase pairId.toNat).items
  refuses : ∀ pairId : UInt32, ¬ Standing l.log pairId →
    (dhDuoDelPairLocked l.cluster pairId).2 = some .enoent ∧
      (dhDuoDelPairLocked l.cluster pairId).1 = l.cluster
  pulses : ∀ pairId value : UInt32, (dhDuoPulseLocked l.cluster pairId value).1 = l.cluster ∨
    ∃ change keeps, livePairs (dhDuoPulseLocked l.cluster pairId value).1 =
      (m.adjust pairId.toNat change keeps).items
  full : ∀ a b mode,
    (dhDuoAddPairLocked l.cluster a b mode).2 = .error .enospc ↔ m.items.length = 128
  fails : ∀ a b mode e, (dhDuoAddPairLocked l.cluster a b mode).2 = .error e →
    (dhDuoAddPairLocked l.cluster a b mode).1 = l.cluster
  inserts : ∀ a b mode pairId, (dhDuoAddPairLocked l.cluster a b mode).2 = .ok pairId →
    (issuedIds l.log).length + 1 < 2 ^ 32 →
      ∃ above, livePairs (dhDuoAddPairLocked l.cluster a b mode).1 =
        (m.insertLast (dhDuoRecomputeSimplexLocked (freshPair pairId a b mode)) above).items
  others : ∀ command, (step l.cluster command).duo = l.cluster.duo ∨
    (∃ a b mode, command = .duoAdd a b mode) ∨ (∃ pairId, command = .duoDel pairId) ∨
      ∃ pairId value, command = .duoPulse pairId value

theorem refines_of_tabled (l : Ledger) (m : PairMap) (tabled : Tabled l m) :
    TableRefines l m := by
  have standing : ∀ pairId : UInt32, (m.lookup pairId.toNat).isSome ↔ Standing l.log pairId :=
    tabled.standing
  constructor
  · exact tabled.items
  · exact tabled.count
  · exact tabled.below
  · exact lookup_pairs l.cluster m tabled.items
  · intro pairId
    rw [← standing, ← lookup_pairs l.cluster m tabled.items, Option.isSome_map]
  · exact tabled.distinct
  · intro pairId stands
    rcases del_erases l.cluster m tabled.items pairId with ⟨absent, _⟩ | ⟨_, deleted, pairs, _⟩
    · have found := (standing pairId).mpr stands
      simp [absent] at found
    · exact ⟨deleted, pairs⟩
  · intro pairId falls
    rcases del_erases l.cluster m tabled.items pairId with ⟨_, failed, same⟩ | ⟨found, _⟩
    · exact ⟨failed, same⟩
    · exact absurd ((standing pairId).mp found) falls
  · intro pairId value
    rcases pulse_adjusts l.cluster m tabled.items pairId value with
      same | ⟨change, keeps, pairs, _⟩
    · exact Or.inl same
    · exact Or.inr ⟨change, keeps, pairs⟩
  · intro a b mode
    have length : m.items.length = l.cluster.duo.pairCount.toNat := by
      rw [← tabled.items, live_pairs_length]
    have count := tabled.count
    rw [add_enospc]
    omega
  · exact fun a b mode e => duo_add_failed_same l.cluster e a b mode
  · intro a b mode pairId added few
    obtain ⟨_, above⟩ := next_above l m a b mode pairId tabled added few
    obtain ⟨_, _, _, _, pairs⟩ := add_inserts l.cluster a b mode pairId added
    exact ⟨above, by rw [pairs, tabled.items]; rfl⟩
  · intro command
    cases command with
    | duoAdd a b mode => exact Or.inr (Or.inl ⟨a, b, mode, rfl⟩)
    | duoDel pairId => exact Or.inr (Or.inr (Or.inl ⟨pairId, rfl⟩))
    | duoPulse pairId value => exact Or.inr (Or.inr (Or.inr ⟨pairId, value, rfl⟩))
    | _ => exact Or.inl (step_duo l.cluster _)

/-- Every run in which fewer than 2^32 adds have succeeded ends with a table
that is an ordered finite map of the standing ids. -/
theorem pair_table_is_ordered_map (commands : List Command)
    (few : (issuedIds (Trace.run Ledger.step Ledger.start commands).log).length < 2 ^ 32) :
    ∃ m : PairMap, TableRefines (Trace.run Ledger.step Ledger.start commands) m := by
  obtain ⟨m, tabled⟩ := tabled_run Ledger.start OrderedMap.empty commands tabled_start few
  exact ⟨m, refines_of_tabled _ m tabled⟩

/-- Three adds, a deletion of the first pair and a fourth add: id 1 is gone and not reused. -/
theorem pair_table_after_deletion :
    let l := Trace.run Ledger.step Ledger.start
      (initCommands ++ [.duoAdd 0 1 1, .duoAdd 0 2 2, .duoAdd 1 2 3, .duoDel 1, .duoAdd 0 1 1])
    (dhDuoLookupPairLocked l.cluster 1).isSome = false ∧ ∃ m : PairMap, TableRefines l m := by
  refine ⟨by decide +kernel, pair_table_is_ordered_map _ ?_⟩
  decide +kernel

end RyzenBuild.DawnHex
