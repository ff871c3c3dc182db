import RyzenBuild.Lib.Replica
import RyzenBuild.DawnHex.Notices
import RyzenBuild.DawnHex.Ticks
import RyzenBuild.DawnHex.Readers

/-!
A follower of the cluster that sees nothing but the texts it reads from
`/dev/dawnhex`. It keeps both tables and the settings of its own and changes
them as each notice says. While no event is lost it is behind by exactly the
unread events, so with an empty ring it has the tables of the module.
-/
namespace RyzenBuild.DawnHex

open Kernel Ladder Memory Bitmask RingQueue Replica EventReaders

/-- What the follower keeps. The generation is not told in any notice. -/
structure Mirror where
  nodes : Nat → Node
  pairs : List DuoPair
  nextPairId : UInt32
  tickMs : UInt32
  interactive : Bool

def Mirror.setNode (m : Mirror) (i : Nat) (node : Node) : Mirror :=
  { m with nodes := fun k => if k = i then node else m.nodes k }

def Mirror.mask (m : Mirror) (i : Nat) (change : UInt64 → UInt64) : Mirror :=
  m.setNode i { m.nodes i with linksMask := change (m.nodes i).linksMask }

def Mirror.place (m : Mirror) (pairId : UInt32) : Option Nat :=
  m.pairs.findIdx? fun p => p.pairId = pairId

def Mirror.replay (m : Mirror) : Notice → Mirror
  | .added id name => m.setNode id.toNat ⟨id, name, true, true, 500000, 1000000, 0⟩
  | .deleted id =>
      let scrubbed : Mirror :=
        { m with
          nodes := fun i =>
            if i < dawnhexMaxNodes then
              { m.nodes i with linksMask := (m.nodes i).linksMask &&& ~~~single id }
            else m.nodes i }
      scrubbed.setNode id.toNat Node.zero
  | .linked a b => (m.mask a.toNat (· ||| single b)).mask b.toNat (· ||| single a)
  | .unlinked a b => (m.mask a.toNat (· &&& ~~~single b)).mask b.toNat (· &&& ~~~single a)
  | .onlineSet id value => m.setNode id.toNat { m.nodes id.toNat with online := value }
  | .energySet id value => m.setNode id.toNat { m.nodes id.toNat with energyPpm := value }
  | .healthSet id value => m.setNode id.toNat { m.nodes id.toNat with healthPpm := value }
  | .ticked id energy health _ =>
      m.setNode id.toNat { m.nodes id.toNat with energyPpm := energy, healthPpm := health }
  | .interactiveSet value => { m with interactive := value }
  | .tickMsSet value => { m with tickMs := value }
  | .duoAdded pair a b mode =>
      { m with
        pairs := m.pairs ++ [dhDuoRecomputeSimplexLocked (freshPair pair a b mode)]
        nextPairId := pair }
  | .duoDeleted pair =>
      match m.place pair with
      | none => m
      | some i => { m with pairs := m.pairs.eraseIdx i }
  | .duoPulsed pair value energy pressure =>
      match m.place pair with
      | none => m
      | some i =>
          let p := m.pairs.getD i DuoPair.zero
          let told :=
            { p with
              lastValuePpm := value
              pulses := p.pulses + 1
              energyPpm := energy
              pressurePpm := pressure }
          let m := { m with pairs := m.pairs.set i (dhDuoRecomputeSimplexLocked told) }
          -- The feedback is not in the text, but follows from the energy of the pair.
          let m := m.setNode p.a.toNat (pulsedNode (m.nodes p.a.toNat) energy)
          m.setNode p.b.toNat (pulsedNode (m.nodes p.b.toNat) energy)

/-- A text that is no notice changes nothing. -/
def Mirror.follow (m : Mirror) (line : List UInt8) : Mirror :=
  match decode line with
  | some notice => m.replay notice
  | none => m

/-- The part of the module's state that the follower keeps. -/
def view (s : State) : Mirror := ⟨s.nodes, livePairs s, s.duo.nextPairId, s.tickMs, s.interactive⟩

def emitLines (s : State) (lines : List (List UInt8)) : State := lines.foldl dhEmitEventLocked s

/-- From the first state to the second the module emits these texts, and following
them leads from what a follower keeps of the one to what it keeps of the other. -/
structure Tells (s : State) (lines : List (List UInt8)) (s' : State) : Prop where
  ring : SameRing (emitLines s lines) s'
  view : Behind Mirror.follow (view s) (lines.map stored) (view s')

theorem same_ring_lines (s t : State) (lines : List (List UInt8)) (same : SameRing s t) :
    SameRing (emitLines s lines) (emitLines t lines) := by
  induction lines generalizing s t with
  | nil => exact same
  | cons line rest ih => exact ih _ _ (same_ring_emit s t line same)

theorem tells_trans (s t u : State) (first second : List (List UInt8)) (before : Tells s first t)
    (after : Tells t second u) : Tells s (first ++ second) u where
  ring := by
    rw [emitLines, List.foldl_append]
    exact same_ring_trans _ _ _ (same_ring_lines _ _ second before.ring) after.ring
  view := by
    rw [List.map_append]
    exact behind_write Mirror.follow _ _ _ _ _ before.view after.view

theorem tells_nothing (s t : State) (ring : SameRing s t) (same : view t = view s) :
    Tells s [] t := ⟨ring, same.symm⟩

theorem follow_line (m : Mirror) (notice : Notice) (named : notice.Named) :
    m.follow (stored notice.line) = m.replay notice := by
  rw [Mirror.follow, stored_line notice named, decode_line]

theorem tells_notice (s u : State) (notice : Notice) (named : notice.Named)
    (ring : SameRing (dhEmitEventLocked s notice.line) u)
    (told : view u = (view s).replay notice) : Tells s [notice.line] u where
  ring := ring
  view := by
    simp only [Behind, List.map_cons, List.map_nil, List.foldl_cons, List.foldl_nil]
    rw [follow_line _ notice named, told]

/-- A text that no format reads. -/
theorem tells_remark (s : State) (line : List UInt8) (foreign : decode (stored line) = none) :
    Tells s [line] (dhEmitEventLocked s line) where
  ring := ⟨rfl, rfl, rfl⟩
  view := by
    simp only [Behind, List.map_cons, List.map_nil, List.foldl_cons, List.foldl_nil, Mirror.follow,
      foreign]
    rfl

section Operations

variable (s : State)

theorem name_kept (name : List UInt8) :
    (strscpy dawnhexNameLen name).length ≤ 31 ∧ 0 ∉ strscpy dawnhexNameLen name := by
  constructor
  · exact List.length_take_le _ _
  · intro zero
    have letter := List.mem_takeWhile_imp (List.mem_of_mem_take zero)
    simp at letter

/-- At most so many events, and they tell what the operation did. -/
def ToldBy (count : Nat) (s' : State) : Prop :=
  ∃ lines, Tells s lines s' ∧ lines.length ≤ count

theorem told_unchanged (count : Nat) : ToldBy s count s :=
  ⟨[], tells_nothing s s ⟨rfl, rfl, rfl⟩ rfl, Nat.zero_le count⟩

theorem told_notice (t : State) (message : List UInt8) (notice : Notice) (named : notice.Named)
    (same : message = notice.line) (ring : SameRing s t) (told : view t = (view s).replay notice) :
    ToldBy s 1 (dhEmitEventLocked t message) := by
  refine ⟨_, tells_notice s _ notice named ?_ told, Nat.le_refl 1⟩
  rw [← same]
  exact same_ring_emit s t message ring

theorem told_bump (count : Nat) (t : State) (told : ToldBy s count t) :
    ToldBy s count t.bumpGeneration := by
  obtain ⟨lines, tells, few⟩ := told
  exact ⟨lines, ⟨same_ring_trans _ _ _ tells.ring ⟨rfl, rfl, rfl⟩, tells.view⟩, few⟩

theorem told_remark (line : List UInt8) (foreign : decode (stored line) = none) :
    ToldBy s 1 (dhEmitEventLocked s line) :=
  ⟨_, tells_remark s line foreign, Nat.le_refl 1⟩

theorem add_told (id : UInt32) (name : List UInt8) : ToldBy s 1 (dhAddNodeLocked s id name).1 := by
  unfold dhAddNodeLocked
  split
  · exact told_unchanged s 1
  · split
    · exact told_unchanged s 1
    · apply told_notice s _ _ (.added id (strscpy dawnhexNameLen name)) (name_kept name)
      · simp [Notice.line, Notice.fields, Notice.tail]
      · exact ⟨rfl, rfl, rfl⟩
      · rfl

theorem del_told (id : UInt32) : ToldBy s 1 (dhDelNodeLocked s id).1 := by
  unfold dhDelNodeLocked
  split
  · exact told_unchanged s 1
  · split
    · exact told_unchanged s 1
    · apply told_notice s _ _ (.deleted id) trivial
      · simp [Notice.line, Notice.fields, Notice.tail]
      · exact ⟨rfl, rfl, rfl⟩
      · rfl

theorem link_told (a b : UInt32) (enable : Bool) : ToldBy s 1 (dhLinkLocked s a b enable).1 := by
  unfold dhLinkLocked
  split
  · exact told_unchanged s 1
  · split
    · next na nb foundA foundB =>
        obtain ⟨rfl, _, _⟩ := (lookup_some s a na).mp foundA
        obtain ⟨rfl, _, _⟩ := (lookup_some s b nb).mp foundB
        apply told_bump
        cases enable with
        | true =>
            apply told_notice s _ _ (.linked a b) trivial
            · simp [Notice.line, Notice.fields, Notice.tail]
            · exact ⟨rfl, rfl, rfl⟩
            · rfl
        | false =>
            apply told_notice s _ _ (.unlinked a b) trivial
            · simp [Notice.line, Notice.fields, Notice.tail]
            · exact ⟨rfl, rfl, rfl⟩
            · rfl
    · exact told_unchanged s 1

theorem set_field_told (id : UInt32) (change : Node → Node) (message : Node → List UInt8)
    (notice : Notice) (named : notice.Named)
    (same : message (change (s.nodes id.toNat)) = notice.line)
    (told : (view s).setNode id.toNat (change (s.nodes id.toNat)) = (view s).replay notice) :
    ToldBy s 1 (setNodeField s id change message).1 := by
  unfold setNodeField
  split
  · exact told_unchanged s 1
  · next i found =>
      obtain ⟨rfl, _, _⟩ := (lookup_some s id i).mp found
      exact told_notice s _ _ notice named same ⟨rfl, rfl, rfl⟩ told

theorem duo_add_told (a b mode : UInt32) : ToldBy s 1 (dhDuoAddPairLocked s a b mode).1 := by
  unfold dhDuoAddPairLocked
  split
  · exact told_unchanged s 1
  · next full =>
      split
      · exact told_unchanged s 1
      · split
        · apply told_notice s _ _ (.duoAdded (s.duo.nextPairId + 1) a b mode) trivial
          · simp [Notice.line, Notice.fields, Notice.tail]
          · exact ⟨rfl, rfl, rfl⟩
          · simp only [view, Mirror.replay, Mirror.mk.injEq]
            have room : s.duo.pairCount < dawnhexDuoMaxPairs := by simpa using full
            exact ⟨rfl, live_pairs_append s _ _ room rfl fun _ => rfl, rfl, rfl, rfl⟩
        · exact told_unchanged s 1

/-- The follower's search in its list is the module's in its array. -/
theorem place_view (pairId : UInt32) : (view s).place pairId = dhDuoLookupPairLocked s pairId := by
  apply Option.ext
  intro i
  rw [Mirror.place, view, livePairs, slice, List.findIdx?_map, dhDuoLookupPairLocked,
    List.findIdx?_eq_some_iff_getElem, List.find?_range_eq_some]
  simp [and_left_comm]

theorem duo_del_told (pairId : UInt32) : ToldBy s 1 (dhDuoDelPairLocked s pairId).1 := by
  have placed := place_view s pairId
  unfold dhDuoDelPairLocked
  cases found : dhDuoLookupPairLocked s pairId with
  | none => exact told_unchanged s 1
  | some i =>
      rw [found] at placed
      apply told_notice s _ _ (.duoDeleted pairId) trivial
      · simp [Notice.line, Notice.fields, Notice.tail]
      · exact ⟨rfl, rfl, rfl⟩
      · have inside := (pair_lookup_some s pairId i found).1
        simp only [Mirror.replay, placed]
        exact congrArg (Mirror.mk s.nodes · s.duo.nextPairId s.tickMs s.interactive)
          (live_pairs_erase s _ i inside rfl rfl)

theorem duo_pulse_told (pairId value : UInt32) :
    ToldBy s 1 (dhDuoPulseLocked s pairId value).1 := by
  have placed := place_view s pairId
  unfold dhDuoPulseLocked
  cases found : dhDuoLookupPairLocked s pairId with
  | none => exact told_unchanged s 1
  | some i =>
      rw [found] at placed
      obtain ⟨inside, matched⟩ := pair_lookup_some s pairId i found
      have item : (view s).pairs.getD i DuoPair.zero = s.duo.pairs i := by
        rw [view, List.getD_eq_getElem?_getD, live_pairs_get s i inside, Option.getD_some]
      simp only
      split
      · exact told_unchanged s 1
      · split
        · next na nb foundA foundB =>
            obtain ⟨rfl, _, _⟩ := (lookup_some s _ na).mp foundA
            obtain ⟨rfl, _, _⟩ := (lookup_some s _ nb).mp foundB
            obtain ⟨p, pulsed⟩ : ∃ p, p = pulsedPair (s.duo.pairs i)
                (s.nodes (s.duo.pairs i).a.toNat) (s.nodes (s.duo.pairs i).b.toNat)
                (dhClampU32 value 0 1000000) := ⟨_, rfl⟩
            have same : p.pairId = pairId := by rw [pulsed, ← matched, pulsedPair]; rfl
            rw [← pulsed]
            apply told_notice s _ _
              (.duoPulsed p.pairId p.lastValuePpm p.energyPpm p.pressurePpm) trivial
            · simp [Notice.line, Notice.fields, Notice.tail]
            · exact ⟨rfl, rfl, rfl⟩
            · have told : dhDuoRecomputeSimplexLocked
                  { s.duo.pairs i with
                    lastValuePpm := p.lastValuePpm
                    pulses := (s.duo.pairs i).pulses + 1
                    energyPpm := p.energyPpm
                    pressurePpm := p.pressurePpm } = p := by
                rw [pulsed]
                rfl
              rw [Mirror.replay, same, placed]
              simp only [item, told]
              exact congrArg (Mirror.mk _ · s.duo.nextPairId s.tickMs s.interactive)
                (live_pairs_set s _ i p rfl)
        · exact told_unchanged s 1

end Operations

section Tick

variable (s : State)

/-- A present node has the number of its slot. -/
def Slotted (s : State) : Prop :=
  ∀ i, i < dawnhexMaxNodes → (s.nodes i).present = true → (s.nodes i).id.toNat = i

theorem slotted_set (i : Nat) (n : Node) (slotted : Slotted s)
    (here : i < dawnhexMaxNodes → n.present = true → n.id.toNat = i) : Slotted (s.setNode i n) := by
  intro k inside there
  by_cases same : k = i
  · subst same
    simp only [setNode_nodes, if_true] at there ⊢
    exact here inside there
  · simp only [setNode_nodes, if_neg same] at there ⊢
    exact slotted k inside there

theorem slotted_of_nodes (s' : State) (same : s'.nodes = s.nodes) (slotted : Slotted s) :
    Slotted s' := by
  rw [Slotted, same]
  exact slotted

theorem slotted_tick_node (i : Nat) (slotted : Slotted s) : Slotted (tickNode s i) := by
  rw [tick_node_walk]
  split
  · apply slotted_of_nodes (s.setNode i (tickedNode (s.nodes i))) _ rfl
    apply slotted_set s i _ slotted
    rw [ticked_frame]
    exact slotted i
  · exact slotted

theorem tick_node_told (i : Nat) (inside : i < dawnhexMaxNodes) (slotted : Slotted s) :
    ToldBy s (if awake s i then 1 else 0) (tickNode s i) := by
  rw [tick_node_walk]
  cases here : awake s i with
  | false => exact told_unchanged s _
  | true =>
      have slot : (s.nodes i).id.toNat = i := slotted i inside (by simp_all [awake])
      have frame := ticked_frame (s.nodes i)
      obtain ⟨n, ticked⟩ : ∃ n, n = tickedNode (s.nodes i) := ⟨_, rfl⟩
      rw [← ticked] at frame
      simp only [if_true, ← ticked]
      apply told_notice s _ _
        (.ticked (s.nodes i).id n.energyPpm n.healthPpm (hweight64 n.linksMask)) trivial
      · rw [tickLine, frame]
        simp [Notice.line, Notice.fields, Notice.tail]
      · exact ⟨rfl, rfl, rfl⟩
      · rw [frame, Mirror.replay, slot]
        rfl

theorem told_trans (t u : State) (first second : Nat) (before : ToldBy s first t)
    (after : ToldBy t second u) : ToldBy s (first + second) u := by
  obtain ⟨early, tells, few⟩ := before
  obtain ⟨late, tellsToo, fewToo⟩ := after
  refine ⟨early ++ late, tells_trans s t u early late tells tellsToo, ?_⟩
  rw [List.length_append]
  exact Nat.add_le_add few fewToo

theorem awake_tick_node (i k : Nat) : awake (tickNode s i) k = awake s k := by
  rw [awake, awake, tick_node_nodes]
  split
  · rw [ticked_frame (s.nodes k)]
  · rfl

theorem walk_told (slots : List Nat) (inside : ∀ i ∈ slots, i < dawnhexMaxNodes)
    (slotted : Slotted s) : ToldBy s (slots.countP (awake s)) (slots.foldl tickNode s) := by
  induction slots generalizing s with
  | nil => exact told_unchanged s 0
  | cons i rest ih =>
      have here := tick_node_told s i (inside i List.mem_cons_self) slotted
      have later := ih (tickNode s i) (fun k member => inside k (List.mem_cons_of_mem i member))
        (slotted_tick_node s i slotted)
      have same : awake (tickNode s i) = awake s := funext (awake_tick_node s i)
      rw [same] at later
      rw [List.countP_cons, Nat.add_comm]
      exact told_trans s _ _ _ _ here later

theorem tick_told (slotted : Slotted s) :
    ToldBy s ((List.range dawnhexMaxNodes).countP (awake s)) (dhTickOnceLocked s) := by
  have bumped := told_bump s 0 s (told_unchanged s 0)
  have walked := walk_told s.bumpGeneration (List.range dawnhexMaxNodes)
    (fun i member => List.mem_range.mp member) (slotted_of_nodes s _ rfl slotted)
  have both := told_trans s _ _ _ _ bumped walked
  rwa [Nat.zero_add] at both

end Tick

/-- How many events an operation has at most. -/
def most (s : State) : Command → Nat
  | .tick => (List.range dawnhexMaxNodes).countP (awake s)
  | _ => 1

/-- How many events an operation emits: a tick one for each node it changes, and
of the others none for one that is refused. -/
def burst (s : State) (command : Command) : Nat :=
  if (step s command).evHead = s.evHead ∧ command ≠ .tick then 0 else most s command

/-- Each operation emits what a follower has to know of it. -/
theorem step_told_most (s : State) (command : Command) (slotted : Slotted s) :
    ToldBy s (most s command) (step s command) := by
  cases command with
  | add id name => exact add_told s id name
  | del id => exact del_told s id
  | link a b => exact link_told s a b true
  | unlink a b => exact link_told s a b false
  | online id value =>
      apply set_field_told s id _ _ (.onlineSet id (truth value)) trivial
      · simp [Notice.line, Notice.fields, Notice.tail]
      · rfl
  | energy id value =>
      apply set_field_told s id _ _ (.energySet id (dhClampU32 value 0 1000000)) trivial
      · simp [Notice.line, Notice.fields, Notice.tail]
      · rfl
  | health id value =>
      apply set_field_told s id _ _ (.healthSet id (dhClampU32 value 0 1000000)) trivial
      · simp [Notice.line, Notice.fields, Notice.tail]
      · rfl
  | tick =>
      rw [step_tick]
      exact tick_told s slotted
  | interactive value =>
      apply told_notice s _ _ (.interactiveSet (truth value)) trivial
      · simp [Notice.line, Notice.fields, Notice.tail]
      · exact ⟨rfl, rfl, rfl⟩
      · rfl
  | tickMs value =>
      apply told_notice s _ _ (.tickMsSet (dhClampU32 value 10 60000)) trivial
      · simp [Notice.line, Notice.fields, Notice.tail]
      · exact ⟨rfl, rfl, rfl⟩
      · rfl
  | snapshot =>
      apply told_remark
      rw [field_numeral, List.append_assoc, List.append_assoc]
      obtain ⟨rest, kept⟩ := stored_front (text "snapshot generation=") _ (by decide) (by decide)
      rw [kept]
      exact decode_none _ rfl rfl
  | help => exact told_remark s _ (by decide +kernel)
  | duoAdd a b mode =>
      rw [step_duo_add]
      exact duo_add_told s a b mode
  | duoDel pairId => exact duo_del_told s pairId
  | duoPulse pairId value => exact duo_pulse_told s pairId value
  | duoSnapshot =>
      apply told_remark
      rw [field_numeral]
      obtain ⟨rest, kept⟩ := stored_front (text "duo_snapshot pairs=") _ (by decide) (by decide)
      rw [kept]
      exact decode_none _ rfl rfl

/-- One event moves the head of the ring. -/
theorem emit_moves (s : State) (line : List UInt8) :
    (dhEmitEventLocked s line).evHead ≠ s.evHead := by
  simp only [dhEmitEventLocked, dawnhexEventQ, ne_eq, ← UInt32.toNat_inj, UInt32.toNat_mod,
    UInt32.toNat_add, UInt32.reduceToNat]
  omega

theorem step_told (s : State) (command : Command) (slotted : Slotted s) :
    ToldBy s (burst s command) (step s command) := by
  obtain ⟨lines, tells, few⟩ := step_told_most s command slotted
  refine ⟨lines, tells, ?_⟩
  unfold burst
  split
  · next still =>
      obtain ⟨still, single⟩ := still
      have one : most s command = 1 := by
        cases command with
        | tick => exact absurd rfl single
        | _ => rfl
      rw [one] at few
      match lines, few with
      | [], _ => exact Nat.le_refl 0
      | [line], _ => exact absurd (tells.ring.head.symm.trans still) (emit_moves s line)
  · exact few

section Slots

variable (s : State)

/-- Nodes that are there were there before, under the same number. -/
theorem slotted_alike (s' : State) (slotted : Slotted s)
    (alike : ∀ k, k < dawnhexMaxNodes → (s'.nodes k).present = true →
      (s.nodes k).present = true ∧ (s'.nodes k).id = (s.nodes k).id) : Slotted s' := by
  intro k inside there
  obtain ⟨before, same⟩ := alike k inside there
  rw [same]
  exact slotted k inside before

theorem slotted_del (id : UInt32) (slotted : Slotted s) : Slotted (dhDelNodeLocked s id).1 := by
  rcases del_node_cases s id with ⟨_, failed⟩ | ⟨_, _, _, _, nodes⟩
  · rwa [failed]
  · apply slotted_alike s _ slotted
    intro k inside there
    rw [nodes k inside] at there ⊢
    split at there
    · cases there
    · next other =>
        rw [if_neg other]
        exact ⟨there, rfl⟩

theorem slotted_link (a b : UInt32) (enable : Bool) (slotted : Slotted s) :
    Slotted (dhLinkLocked s a b enable).1 := by
  rcases link_cases s a b enable with failed | ⟨_, _, _, _, nodes⟩
  · rwa [failed]
  · apply slotted_alike s _ slotted
    intro k _ there
    rw [nodes k] at there ⊢
    simp only at there ⊢
    split at there
    · next first =>
        rw [if_pos first]
        exact ⟨there, rfl⟩
    · next first =>
        rw [if_neg first]
        split at there
        · next second =>
            rw [if_pos second]
            exact ⟨there, rfl⟩
        · next second =>
            rw [if_neg second]
            exact ⟨there, rfl⟩

theorem slotted_set_field (id : UInt32) (change : Node → Node) (message : Node → List UInt8)
    (keeps : ∀ n, (change n).present = n.present ∧ (change n).id = n.id) (slotted : Slotted s) :
    Slotted (setNodeField s id change message).1 := by
  unfold setNodeField
  split
  · exact slotted
  · next i _ =>
      apply slotted_of_nodes (s.setNode i (change (s.nodes i))) _ rfl
      apply slotted_set s i _ slotted
      rw [(keeps _).1, (keeps _).2]
      exact slotted i

theorem slotted_pulse (pairId value : UInt32) (slotted : Slotted s) :
    Slotted (dhDuoPulseLocked s pairId value).1 := by
  rcases duo_pulse_cases s pairId value with failed | ⟨i, _, _, _, p, _, _, t, fed, nodes⟩
  · rwa [failed]
  · have first : Slotted t := by
      rw [fed]
      exact slotted_set s _ _ slotted (slotted (s.duo.pairs i).a.toNat)
    exact slotted_of_nodes _ _ nodes
      (slotted_set t _ _ first (first (s.duo.pairs i).b.toNat))

theorem slotted_step (command : Command) (slotted : Slotted s) : Slotted (step s command) := by
  cases command with
  | add id name =>
      rcases add_node_cases s id name with ⟨_, failed⟩ | ⟨_, _, _, _, nodes⟩
      · rw [step, execute, failed]
        exact slotted
      · exact slotted_of_nodes _ _ nodes (slotted_set s id.toNat _ slotted fun _ _ => rfl)
  | del id => exact slotted_del s id slotted
  | link a b => exact slotted_link s a b true slotted
  | unlink a b => exact slotted_link s a b false slotted
  | online id value => exact slotted_set_field s id _ _ (fun _ => ⟨rfl, rfl⟩) slotted
  | energy id value => exact slotted_set_field s id _ _ (fun _ => ⟨rfl, rfl⟩) slotted
  | health id value => exact slotted_set_field s id _ _ (fun _ => ⟨rfl, rfl⟩) slotted
  | tick =>
      rw [step_tick]
      exact Trace.run_invariant tickNode Slotted slotted_tick_node _ _ slotted
  | duoAdd a b mode =>
      rw [step_duo_add]
      rcases duo_add_cases s a b mode with ⟨_, failed⟩ | ⟨_, _, _, _, _, nodes, _⟩
      · rwa [failed]
      · exact slotted_of_nodes s _ nodes slotted
  | duoDel pairId =>
      rcases duo_del_cases s pairId with ⟨_, failed⟩ | ⟨_, _, nodes, _⟩
      · rw [step, execute, failed]
        exact slotted
      · exact slotted_of_nodes s _ nodes slotted
  | duoPulse pairId value => exact slotted_pulse s pairId value slotted
  | interactive | tickMs | snapshot | help | duoSnapshot => exact slotted

end Slots

/-- The module and a follower of it. -/
structure Station where
  cluster : State
  mirror : Mirror

inductive Act where
  | command (command : Command)
  | read (len : Nat) (copied : Bool)
  deriving DecidableEq, Repr

/-- The follower follows what a read returns. -/
def Station.step (x : Station) : Act → Station
  | .command command => { x with cluster := DawnHex.step x.cluster command }
  | .read len copied =>
      { cluster := (dhRead x.cluster len copied).1
        mirror :=
          match (dhRead x.cluster len copied).2 with
          | .ok line => x.mirror.follow line
          | .error _ => x.mirror }

/-- Before any event is read: the follower of an empty cluster. -/
def Station.start : Station := ⟨dawnhexInit, view registered⟩

/-- No event is lost: the ring has room for those an operation emits, and a read
that takes a text has room for it and hands it over. -/
def Lossless (x : Station) : Act → Prop
  | .command command => (unreadSlots x.cluster).length + burst x.cluster command ≤ 127
  | .read len copied => len = 0 ∨
      ∀ oldest ∈ (unreadSlots x.cluster).head?, oldest.length ≤ len ∧ copied = true

instance (x : Station) : ∀ act, Decidable (Lossless x act)
  | .command command =>
      inferInstanceAs (Decidable ((unreadSlots x.cluster).length + burst x.cluster command ≤ 127))
  | .read len copied =>
      inferInstanceAs (Decidable (len = 0 ∨
        ∀ oldest ∈ (unreadSlots x.cluster).head?, oldest.length ≤ len ∧ copied = true))

section Unread

theorem same_ring_fields (s t : State) (ring : Ring 128 (List UInt8)) (same : SameRing s t)
    (rep : RingFields s ring) : RingFields t ring :=
  ⟨same.events.trans rep.slots, same.head ▸ rep.head, same.tail ▸ rep.tail⟩

theorem same_ring_unread (s t : State) (same : SameRing s t) : unreadSlots t = unreadSlots s := by
  rw [unreadSlots, unreadSlots, same.events, same.head, same.tail]

/-- With room for all of them the new texts stand behind the unread ones. -/
theorem emit_lines_unread (s : State) (ring : Ring 128 (List UInt8)) (lines : List (List UInt8))
    (rep : RingFields s ring) (room : (unreadSlots s).length + lines.length ≤ 127) :
    (∃ after : Ring 128 (List UInt8), RingFields (emitLines s lines) after) ∧
      unreadSlots (emitLines s lines) = unreadSlots s ++ lines.map stored := by
  induction lines generalizing s ring with
  | nil => exact ⟨⟨ring, rep⟩, (List.append_nil _).symm⟩
  | cons line rest ih =>
      have put := ring_fields_emit s ring line rep
      rw [List.length_cons] at room
      have spare : ring.fifo.items.length < 127 := by
        rw [← ring_fields_unread s ring rep]
        omega
      have grown : unreadSlots (dhEmitEventLocked s line) = unreadSlots s ++ [stored line] := by
        rw [ring_fields_unread _ _ put, fifo_put, offer_spare _ _ spare, ring_fields_unread s ring rep]
      obtain ⟨fields, unread⟩ := ih _ _ put (by rw [grown, List.length_append]; simp; omega)
      refine ⟨fields, unread.trans ?_⟩
      rw [grown, List.append_assoc]
      rfl

end Unread

/-- What every state of a lossless run is like. -/
structure Station.Sound (x : Station) : Prop where
  ring : ∃ ring : Ring 128 (List UInt8), RingFields x.cluster ring
  texts : ∀ line ∈ unreadSlots x.cluster, ∃ message, line = stored message
  slotted : Slotted x.cluster
  behind : Behind Mirror.follow x.mirror (unreadSlots x.cluster) (view x.cluster)

theorem sound_command (x : Station) (command : Command) (sound : x.Sound)
    (lossless : Lossless x (.command command)) : (x.step (.command command)).Sound := by
  obtain ⟨ring, rep⟩ := sound.ring
  obtain ⟨lines, tells, few⟩ := step_told x.cluster command sound.slotted
  obtain ⟨⟨after, fields⟩, unread⟩ := emit_lines_unread x.cluster ring lines rep
    ((Nat.add_le_add_left few _).trans lossless)
  have now : unreadSlots (step x.cluster command) =
      unreadSlots x.cluster ++ lines.map stored :=
    (same_ring_unread _ _ tells.ring).trans unread
  constructor
  · exact ⟨after, same_ring_fields _ _ after tells.ring fields⟩
  · intro line member
    rw [Station.step, now] at member
    rcases List.mem_append.mp member with old | fresh
    · exact sound.texts line old
    · obtain ⟨message, _, rfl⟩ := List.mem_map.mp fresh
      exact ⟨message, rfl⟩
  · exact slotted_step x.cluster command sound.slotted
  · rw [Station.step, now]
    exact behind_write Mirror.follow _ _ _ _ _ sound.behind tells.view

/-- A read moves `ev_tail` and nothing else. -/
theorem read_view (s : State) (len : Nat) (copied : Bool) :
    view (dhRead s len copied).1 = view s := by
  unfold dhRead
  split
  · rfl
  · split <;> rfl

theorem sound_read (x : Station) (len : Nat) (copied : Bool) (sound : x.Sound)
    (lossless : Lossless x (.read len copied)) : (x.step (.read len copied)).Sound := by
  obtain ⟨ring, rep⟩ := sound.ring
  by_cases empty : x.cluster.evHead = x.cluster.evTail
  · have still : x.step (.read len copied) = x := by
      rw [Station.step, read_empty x.cluster len copied empty]
      rfl
    rwa [still]
  by_cases nothing : len = 0
  · have still : x.step (.read len copied) = x := by
      rw [nothing]
      rfl
    rwa [still]
  · have readable : ring.head ≠ ring.tail := fun same =>
      empty ((ring_fields_poll x.cluster ring rep).mpr same)
    have unread := ring_fields_unread x.cluster ring rep
    rw [ring_skip ring readable] at unread
    obtain ⟨room, rfl⟩ : (ring.slots ring.tail).length ≤ len ∧ copied = true :=
      lossless.resolve_left nothing _ (by rw [unread]; rfl)
    obtain ⟨moved, bytes, _⟩ := ring_fields_read x.cluster ring len true rep
      (Nat.pos_of_ne_zero nothing) readable
    have rest := ring_fields_unread _ _ moved
    obtain ⟨message, oldest⟩ := sound.texts (ring.slots ring.tail) (by rw [unread]; simp)
    have whole : (strscpy dawnhexEventLen (ring.slots ring.tail)).take len =
        ring.slots ring.tail := by
      rw [oldest, stored, strscpy_strscpy, ← stored, ← oldest]
      exact List.take_of_length_le room
    have behind := sound.behind
    rw [unread] at behind
    constructor
    · exact ⟨ring.skip, moved⟩
    · intro line member
      rw [Station.step, rest] at member
      exact sound.texts line (by rw [unread]; exact List.mem_cons_of_mem _ member)
    · exact slotted_of_nodes x.cluster _ (congrArg Mirror.nodes (read_view _ len true))
        sound.slotted
    · simp only [Station.step, bytes, whole, rest, read_view]
      exact behind_read Mirror.follow _ _ _ _ behind

theorem sound_step (x : Station) (act : Act) (sound : x.Sound) (lossless : Lossless x act) :
    (x.step act).Sound := by
  cases act with
  | command command => exact sound_command x command sound lossless
  | read len copied => exact sound_read x len copied sound lossless

theorem sound_registered : Station.Sound ⟨registered, view registered⟩ where
  ring := ⟨⟨fun _ => [], 0, 0, by omega, by omega⟩, rfl, rfl, rfl⟩
  texts := by simp [unreadSlots, registered]
  slotted := by
    intro i _ there
    cases there
  behind := rfl

theorem sound_start : Station.start.Sound :=
  Trace.run_of_steps Station.step Lossless Station.Sound sound_step ⟨registered, view registered⟩
    (initCommands.map .command) sound_registered (by decide +kernel)

/-- The follower is behind by the unread events, and has the tables of the module when
`dh_poll` reports nothing. -/
structure Station.Mirrors (x : Station) : Prop where
  behind : Behind Mirror.follow x.mirror (unreadSlots x.cluster) (view x.cluster)
  caught : dhPoll x.cluster = false → x.mirror = view x.cluster

theorem mirrors_of_sound (x : Station) (sound : x.Sound) : x.Mirrors where
  behind := sound.behind
  caught := by
    intro quiet
    obtain ⟨ring, rep⟩ := sound.ring
    have empty : x.cluster.evHead = x.cluster.evTail := by simpa [dhPoll] using quiet
    have behind := sound.behind
    rw [ring_fields_unread x.cluster ring rep,
      (ring_empty_iff ring).mpr ((ring_fields_poll x.cluster ring rep).mp empty)] at behind
    exact behind_nothing Mirror.follow _ _ behind

/-- Over every lossless run of operations and reads, what the follower makes of the
texts alone differs from the tables of the module by the unread events and no more. -/
theorem follower_mirrors (acts : List Act)
    (lossless : Trace.Steps Station.step Lossless Station.start acts) :
    Trace.Always Station.step Station.Mirrors Station.start acts :=
  Trace.always_mono Station.step Station.Sound Station.Mirrors mirrors_of_sound _ acts
    (Trace.always_of_steps Station.step Lossless Station.Sound sound_step _ acts sound_start
      lossless)

/-- The five events of the initial nodes and links, a pair, a pulse and a tick. -/
def observed : List Act :=
  List.replicate 5 (.read 255 true) ++
    [.command (.duoAdd 0 1 3), .command (.duoPulse 1 900000), .command .tick] ++
    List.replicate 5 (.read 255 true)

theorem follower_of_pulse_and_tick :
    (Trace.run Station.step Station.start observed).mirror =
      view (Trace.run Station.step Station.start observed).cluster := by
  have always := follower_mirrors observed (by decide +kernel)
  have last := Trace.always_final Station.step Station.Mirrors _ _ always
  exact last.caught (by decide +kernel)

end RyzenBuild.DawnHex
