import RyzenBuild.Lib.Footprint
import RyzenBuild.DawnHex.Command

/-!
The order of duo pulses. A pulse is confined to the record of its pair and to
the two nodes at the pair's ends, and it moves neither the ids nor the ends of
any pair, so every later pulse still finds the same three cells.
-/
namespace RyzenBuild.DawnHex

open Ladder Footprint

structure Pulse where
  pairId : UInt32
  valuePpm : UInt32
  deriving DecidableEq, Repr

def runPulses (s : State) (pulses : List Pulse) : State :=
  pulses.foldl (fun s pulse => (dhDuoPulseLocked s pulse.pairId pulse.valuePpm).1) s

/-- The cells of the two tables that pulses touch. -/
inductive Cell where
  | node (slot : Nat)
  | pair (index : Nat)

def Cell.Value : Cell → Type
  | .node _ => Node
  | .pair _ => DuoPair

def State.cells (s : State) : (c : Cell) → c.Value
  | .node slot => s.nodes slot
  | .pair index => s.duo.pairs index

/-- A pulse with the cells its lookups have found. -/
structure Target where
  index : Nat
  a : UInt32
  b : UInt32
  valuePpm : UInt32

def Target.foot (target : Target) : Set Cell :=
  {.pair target.index, .node target.a.toNat, .node target.b.toNat}

/-- Whether the guards of a pulse let it through. -/
def passes (store : (c : Cell) → c.Value) (target : Target) : Prop :=
  (store (.pair target.index) : DuoPair).active = true ∧
    (target.a.toNat < dawnhexMaxNodes ∧ (store (.node target.a.toNat) : Node).present = true) ∧
    (target.b.toNat < dawnhexMaxNodes ∧ (store (.node target.b.toNat) : Node).present = true)

instance (store : (c : Cell) → c.Value) (target : Target) : Decidable (passes store target) :=
  inferInstanceAs (Decidable (_ ∧ _ ∧ _))

def Target.pulsed (target : Target) (store : (c : Cell) → c.Value) : DuoPair :=
  pulsedPair (store (.pair target.index)) (store (.node target.a.toNat))
    (store (.node target.b.toNat)) (dhClampU32 target.valuePpm 0 1000000)

/-- The feedback into slot `k`, the first endpoint's before the second's. -/
def Target.fed (target : Target) (store : (c : Cell) → c.Value) (k : Nat) : Node :=
  let energy := (target.pulsed store).energyPpm
  let first (k : Nat) : Node :=
    if k = target.a.toNat then pulsedNode (store (.node target.a.toNat)) energy
    else store (.node k)
  if k = target.b.toNat then pulsedNode (first target.b.toNat) energy else first k

def Target.recorded (target : Target) (store : (c : Cell) → c.Value) (i : Nat) : DuoPair :=
  if i = target.index then target.pulsed store else store (.pair i)

def Target.written (target : Target) (store : (c : Cell) → c.Value) : (c : Cell) → c.Value
  | .node k => target.fed store k
  | .pair i => target.recorded store i

def pulseCells (target : Target) (store : (c : Cell) → c.Value) : (c : Cell) → c.Value :=
  if passes store target then target.written store else store

theorem pulse_confined (target : Target) : Confined target.foot (pulseCells target) := by
  constructor
  case outside =>
    intro store c outside
    unfold pulseCells
    split
    · cases c with
      | node k =>
          have notA : k ≠ target.a.toNat := fun same => outside (by simp [Target.foot, same])
          have notB : k ≠ target.b.toNat := fun same => outside (by simp [Target.foot, same])
          exact (if_neg notB).trans (if_neg notA)
      | pair i =>
          have different : i ≠ target.index := fun same => outside (by simp [Target.foot, same])
          exact if_neg different
    · rfl
  case inside =>
    intro store other same c member
    have pair : store (.pair target.index) = other (.pair target.index) :=
      same _ (by simp [Target.foot])
    have first : store (.node target.a.toNat) = other (.node target.a.toNat) :=
      same _ (by simp [Target.foot])
    have second : store (.node target.b.toNat) = other (.node target.b.toNat) :=
      same _ (by simp [Target.foot])
    have here := same c member
    have guard : passes store target = passes other target := by
      simp only [passes, pair, first, second]
    have record : target.pulsed store = target.pulsed other := by
      simp only [Target.pulsed, pair, first, second]
    simp only [pulseCells, guard]
    split
    · cases c with
      | node k =>
          have fed : target.fed store k = target.fed other k := by
            simp only [Target.fed, record, first, second, here]
          exact fed
      | pair i =>
          have recorded : target.recorded store i = target.recorded other i := by
            simp only [Target.recorded, record, here]
          exact recorded
    · exact here

def target (s : State) (index : Nat) (valuePpm : UInt32) : Target :=
  ⟨index, (s.duo.pairs index).a, (s.duo.pairs index).b, valuePpm⟩

/-- On the two tables a pulse is the pulse of the cells its lookups find. -/
theorem pulse_cells (s : State) (pairId value : UInt32) (i : Nat)
    (found : dhDuoLookupPairLocked s pairId = some i) :
    (dhDuoPulseLocked s pairId value).1.cells = pulseCells (target s i value) s.cells := by
  have lookup := lookup_some s
  by_cases guard : passes s.cells (target s i value)
  · obtain ⟨active, first, second⟩ := guard
    have active : (s.duo.pairs i).active = true := active
    have foundA := (lookup (s.duo.pairs i).a _).mpr ⟨rfl, first⟩
    have foundB := (lookup (s.duo.pairs i).b _).mpr ⟨rfl, second⟩
    have guard : passes s.cells (target s i value) := ⟨active, first, second⟩
    rw [pulseCells, if_pos guard]
    funext c
    cases c with
    | node k =>
        simp [dhDuoPulseLocked, found, active, foundA, foundB, State.cells, Target.written,
          Target.fed, Target.pulsed, target]
        rfl
    | pair j =>
        simp [dhDuoPulseLocked, found, active, foundA, foundB, State.cells, State.setPair,
          Target.written, Target.recorded, Target.pulsed, target]
        rfl
  · have unchanged : (dhDuoPulseLocked s pairId value).1 = s := by
      rcases duo_pulse_cases s pairId value with unchanged | ⟨j, foundJ, first, second, _⟩
      · exact unchanged
      · obtain rfl : i = j := Option.some.inj (found.symm.trans foundJ)
        cases active : (s.duo.pairs i).active with
        | false => simp [dhDuoPulseLocked, found, active]
        | true =>
            exact absurd ⟨active, ((lookup _ _).mp first).2, ((lookup _ _).mp second).2⟩ guard
    rw [unchanged, pulseCells, if_neg guard]

/-- What no pulse changes: the size of the pair table, and of every record the
id, the ends and all that is not measured anew. -/
structure SameShape (s t : State) : Prop where
  count : t.duo.pairCount = s.duo.pairCount
  next : t.duo.nextPairId = s.duo.nextPairId
  ids : ∀ i, (t.duo.pairs i).pairId = (s.duo.pairs i).pairId
  firsts : ∀ i, (t.duo.pairs i).a = (s.duo.pairs i).a
  seconds : ∀ i, (t.duo.pairs i).b = (s.duo.pairs i).b

theorem pulse_shape (s : State) (pairId value : UInt32) :
    SameShape s (dhDuoPulseLocked s pairId value).1 := by
  rcases duo_pulse_cases s pairId value with unchanged | ⟨i, _, _, _, p, pulsed, duo, _⟩
  · rw [unchanged]
    exact ⟨rfl, rfl, fun _ => rfl, fun _ => rfl, fun _ => rfl⟩
  · have same : ∀ j, ((dhDuoPulseLocked s pairId value).1.duo.pairs j) =
        if j = i then p else s.duo.pairs j := by
      rw [duo]
      exact fun j => rfl
    constructor
    case count => rw [duo]; rfl
    case next => rw [duo]; rfl
    all_goals
      intro j
      rw [same]
      split
      · next here => rw [pulsed, here]; rfl
      · rfl

theorem shape_lookup (s t : State) (shape : SameShape s t) (pairId : UInt32) :
    dhDuoLookupPairLocked t pairId = dhDuoLookupPairLocked s pairId := by
  simp only [dhDuoLookupPairLocked, shape.count, shape.ids]

theorem shape_target (s t : State) (shape : SameShape s t) (i : Nat) (value : UInt32) :
    target t i value = target s i value := by
  simp only [target, shape.firsts, shape.seconds]

theorem shape_trans (s t u : State) (first : SameShape s t) (second : SameShape t u) :
    SameShape s u where
  count := second.count.trans first.count
  next := second.next.trans first.next
  ids i := (second.ids i).trans (first.ids i)
  firsts i := (second.firsts i).trans (first.firsts i)
  seconds i := (second.seconds i).trans (first.seconds i)

/-- The ids at the two ends of the pair a pulse is for. -/
def endpoints (s : State) (pulse : Pulse) : List UInt32 :=
  match dhDuoLookupPairLocked s pulse.pairId with
  | some i => [(s.duo.pairs i).a, (s.duo.pairs i).b]
  | none => []

def Live (s : State) (pulse : Pulse) : Prop := (dhDuoLookupPairLocked s pulse.pairId).isSome

/-- The cells of a pulse, looked up in a state before the run. -/
def resolve (s : State) (pulse : Pulse) : Target :=
  target s ((dhDuoLookupPairLocked s pulse.pairId).getD 0) pulse.valuePpm

theorem resolve_disjoint (s : State) (first second : Pulse) (liveFirst : Live s first)
    (liveSecond : Live s second)
    (apart : List.Disjoint (endpoints s first) (endpoints s second)) :
    Disjoint (resolve s first).foot (resolve s second).foot := by
  obtain ⟨i, foundI⟩ := Option.isSome_iff_exists.mp liveFirst
  obtain ⟨j, foundJ⟩ := Option.isSome_iff_exists.mp liveSecond
  simp only [endpoints, foundI, foundJ] at apart
  have ends : ∀ x ∈ [(s.duo.pairs i).a, (s.duo.pairs i).b],
      ∀ y ∈ [(s.duo.pairs j).a, (s.duo.pairs j).b], x.toNat ≠ y.toNat := by
    intro x here y there same
    rw [UInt32.toNat_inj.mp same] at here
    exact apart here there
  have records : i ≠ j := by
    rintro rfl
    exact apart List.mem_cons_self List.mem_cons_self
  have aa := ends _ List.mem_cons_self _ List.mem_cons_self
  have ab := ends _ List.mem_cons_self _ (List.mem_cons_of_mem _ List.mem_cons_self)
  have ba := ends _ (List.mem_cons_of_mem _ List.mem_cons_self) _ List.mem_cons_self
  have bb := ends _ (List.mem_cons_of_mem _ List.mem_cons_self) _
    (List.mem_cons_of_mem _ List.mem_cons_self)
  rw [Set.disjoint_left]
  simp [Target.foot, resolve, target, foundI, foundJ, records, aa, ab, ba, bb]

/-- A run of pulses is a run of the pulses of the cells found at its start. -/
theorem run_pulses_cells (s t : State) (shape : SameShape s t) (pulses : List Pulse)
    (live : ∀ pulse ∈ pulses, Live s pulse) :
    (runPulses t pulses).cells = perform pulseCells (pulses.map (resolve s)) t.cells ∧
      SameShape s (runPulses t pulses) := by
  induction pulses generalizing t with
  | nil => exact ⟨rfl, shape⟩
  | cons pulse rest ih =>
      obtain ⟨i, found⟩ := Option.isSome_iff_exists.mp (live pulse List.mem_cons_self)
      have foundT := (shape_lookup s t shape pulse.pairId).trans found
      have resolved : target t i pulse.valuePpm = resolve s pulse := by
        rw [shape_target s t shape, resolve, found]
        rfl
      have here := pulse_cells t pulse.pairId pulse.valuePpm i foundT
      obtain ⟨cells, kept⟩ := ih (dhDuoPulseLocked t pulse.pairId pulse.valuePpm).1
        (shape_trans s t _ shape (pulse_shape t pulse.pairId pulse.valuePpm))
        (fun later member => live later (List.mem_cons_of_mem pulse member))
      rw [here, resolved] at cells
      exact ⟨cells, kept⟩

/-- What a pulse leaves alone: every other record, every node that is not at
one of the ends, and there every field but the energy. -/
structure PulseFrame (s t : State) (pulse : Pulse) : Prop where
  pairs : ∀ i, dhDuoLookupPairLocked s pulse.pairId ≠ some i → t.duo.pairs i = s.duo.pairs i
  nodes : ∀ k, (∀ id ∈ endpoints s pulse, id.toNat ≠ k) → t.nodes k = s.nodes k
  fields : ∀ k, t.nodes k = { s.nodes k with energyPpm := (t.nodes k).energyPpm }
  count : t.duo.pairCount = s.duo.pairCount
  next : t.duo.nextPairId = s.duo.nextPairId

theorem fed_fields (target : Target) (s : State) (k : Nat) :
    target.fed s.cells k = { s.nodes k with energyPpm := (target.fed s.cells k).energyPpm } := by
  by_cases second : k = target.b.toNat
  · by_cases same : target.b.toNat = target.a.toNat
    · simp [Target.fed, second, same, pulsedNode, State.cells]
    · simp [Target.fed, second, same, pulsedNode, State.cells]
  · by_cases first : k = target.a.toNat
    · rw [first] at second
      simp [Target.fed, second, first, pulsedNode, State.cells]
    · simp [Target.fed, second, first, State.cells]

theorem pulse_frame (s : State) (pulse : Pulse) :
    PulseFrame s (dhDuoPulseLocked s pulse.pairId pulse.valuePpm).1 pulse := by
  have shape := pulse_shape s pulse.pairId pulse.valuePpm
  cases found : dhDuoLookupPairLocked s pulse.pairId with
  | none =>
      have unchanged : (dhDuoPulseLocked s pulse.pairId pulse.valuePpm).1 = s := by
        simp [dhDuoPulseLocked, found]
      rw [unchanged]
      exact ⟨fun _ _ => rfl, fun _ _ => rfl, fun _ => rfl, rfl, rfl⟩
  | some i =>
      have cells := pulse_cells s pulse.pairId pulse.valuePpm i found
      have confined := pulse_confined (target s i pulse.valuePpm)
      have record : ∀ j, (dhDuoPulseLocked s pulse.pairId pulse.valuePpm).1.duo.pairs j =
          pulseCells (target s i pulse.valuePpm) s.cells (.pair j) :=
        fun j => congrFun cells (.pair j)
      have node : ∀ k, (dhDuoPulseLocked s pulse.pairId pulse.valuePpm).1.nodes k =
          pulseCells (target s i pulse.valuePpm) s.cells (.node k) :=
        fun k => congrFun cells (.node k)
      constructor
      case pairs =>
        intro j other
        have different : j ≠ i := fun same => other (by rw [found, same])
        rw [record]
        exact confined.outside s.cells (.pair j) (by simp [Target.foot, target, different])
      case nodes =>
        intro k apart
        simp only [endpoints, found] at apart
        have notA := (apart _ List.mem_cons_self).symm
        have notB := (apart _ (List.mem_cons_of_mem _ List.mem_cons_self)).symm
        rw [node]
        exact confined.outside s.cells (.node k) (by simp [Target.foot, target, notA, notB])
      case fields =>
        intro k
        rw [node]
        by_cases guard : passes s.cells (target s i pulse.valuePpm)
        · rw [pulseCells, if_pos guard]
          exact fed_fields _ s k
        · rw [pulseCells, if_neg guard]
          rfl
      case count => exact shape.count
      case next => exact shape.next

/-- Pulses on live pairs without a common end give the same nodes and pairs in
every order, and each of them reaches its own record and the energies of its
own two nodes only. -/
theorem independent_pulses_commute (s : State) (pulses reordered : List Pulse)
    (live : ∀ pulse ∈ pulses, Live s pulse)
    (apart : pulses.Pairwise fun first second =>
      List.Disjoint (endpoints s first) (endpoints s second))
    (same : pulses.Perm reordered) :
    (runPulses s pulses).nodes = (runPulses s reordered).nodes ∧
      (runPulses s pulses).duo = (runPulses s reordered).duo ∧
      ∀ before pulse, PulseFrame (runPulses s before) (runPulses s (before ++ [pulse])) pulse := by
  have start : SameShape s s := ⟨rfl, rfl, fun _ => rfl, fun _ => rfl, fun _ => rfl⟩
  obtain ⟨cells, shape⟩ := run_pulses_cells s s start pulses live
  obtain ⟨cells', shape'⟩ := run_pulses_cells s s start reordered
    fun pulse member => live pulse (same.mem_iff.mpr member)
  have order : perform pulseCells (pulses.map (resolve s)) s.cells =
      perform pulseCells (reordered.map (resolve s)) s.cells := by
    apply perform_perm pulseCells Target.foot
    · exact fun target _ => pulse_confined target
    · rw [List.pairwise_map]
      apply apart.imp_of_mem
      intro first second firstMember secondMember disjoint
      exact resolve_disjoint s first second (live first firstMember) (live second secondMember)
        disjoint
    · exact same.map (resolve s)
  have agree : (runPulses s pulses).cells = (runPulses s reordered).cells := by
    rw [cells, cells', order]
  have pairs : (runPulses s pulses).duo.pairs = (runPulses s reordered).duo.pairs :=
    funext fun i => congrFun agree (.pair i)
  refine ⟨funext fun k => congrFun agree (.node k), ?_, ?_⟩
  · calc (runPulses s pulses).duo
      _ = ⟨(runPulses s pulses).duo.pairs, s.duo.pairCount, s.duo.nextPairId⟩ := by
        rw [← shape.count, ← shape.next]
      _ = ⟨(runPulses s reordered).duo.pairs, s.duo.pairCount, s.duo.nextPairId⟩ := by rw [pairs]
      _ = (runPulses s reordered).duo := by rw [← shape'.count, ← shape'.next]
  · intro before pulse
    have last : runPulses s (before ++ [pulse]) =
        (dhDuoPulseLocked (runPulses s before) pulse.pairId pulse.valuePpm).1 := by
      simp [runPulses, List.foldl_append]
    rw [last]
    exact pulse_frame (runPulses s before) pulse

/-- Two pairs on four nodes. -/
def twoPairs : State :=
  Trace.run step dawnhexInit [.add 3 [], .duoAdd 0 1 1, .duoAdd 2 3 3]

theorem two_pulses_commute :
    (runPulses twoPairs [⟨1, 700000⟩, ⟨2, 100000⟩]).nodes =
        (runPulses twoPairs [⟨2, 100000⟩, ⟨1, 700000⟩]).nodes ∧
      (runPulses twoPairs [⟨1, 700000⟩, ⟨2, 100000⟩]).duo =
        (runPulses twoPairs [⟨2, 100000⟩, ⟨1, 700000⟩]).duo := by
  have first : endpoints twoPairs ⟨1, 700000⟩ = [0, 1] := by decide +kernel
  have second : endpoints twoPairs ⟨2, 100000⟩ = [2, 3] := by decide +kernel
  have live : ∀ pulse ∈ [⟨1, 700000⟩, ⟨2, 100000⟩], Live twoPairs pulse := by
    simp only [Live]
    decide +kernel
  have commute := independent_pulses_commute twoPairs [⟨1, 700000⟩, ⟨2, 100000⟩]
    [⟨2, 100000⟩, ⟨1, 700000⟩] live (by simp [first, second]) (List.Perm.swap _ _ _)
  exact ⟨commute.1, commute.2.1⟩

end RyzenBuild.DawnHex
