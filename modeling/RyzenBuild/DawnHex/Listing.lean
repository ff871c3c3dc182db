import RyzenBuild.Lib.Digits
import RyzenBuild.Lib.Writer
import RyzenBuild.DawnHex.Ioctl

/-!
The listings under sysfs, `topology` and `duo`. Each is printed on one page; what
goes past its end is cut off without a word.
-/
namespace RyzenBuild.DawnHex

open Kernel Ladder Memory Digits Writer

def pageSize : Nat := 4096

/-- What `label=%u` conversions write, one behind another. -/
def labelled (fields : List (String × Nat)) : List UInt8 :=
  fields.flatMap fun (label, value) => text label ++ numeral value

def nodeLine (n : Node) : List UInt8 :=
  labelled [("id=", n.id.toNat)] ++ text " name=" ++ n.name ++
    labelled [(" online=", n.online.toNat), (" energy=", n.energyPpm.toNat),
      (" health=", n.healthPpm.toNat)] ++
    text " links=0x" ++ hex 16 n.linksMask.toNat ++ [10]

def topologyShow (s : State) : List UInt8 :=
  printAll pageSize
    (fun i => if !(s.nodes i).present then none else some (nodeLine (s.nodes i)))
    (List.range dawnhexMaxNodes) []

def pairFields (p : DuoPair) : List (String × Nat) :=
  [("pair=", p.pairId.toNat), (" a=", p.a.toNat), (" b=", p.b.toNat), (" mode=", p.mode.toNat),
    (" active=", p.active.toNat), (" quotient=", p.quotientPpm.toNat),
    (" refraction=", p.refractionPpm.toNat), (" energy=", p.energyPpm.toNat),
    (" pressure=", p.pressurePpm.toNat), (" pulses=", p.pulses.toNat),
    (" last=", p.lastValuePpm.toNat)]

def pairLine (p : DuoPair) : List UInt8 := labelled (pairFields p) ++ [10]

def duoHeader (s : State) : List UInt8 :=
  labelled [("pair_count=", s.duo.pairCount.toNat)] ++ [10]

def duoShow (s : State) : List UInt8 :=
  printAll pageSize (fun i => some (pairLine (s.duo.pairs i)))
    (List.range s.duo.pairCount.toNat) (scnprintf pageSize (duoHeader s))

/-- One line for each present node. -/
def topologyLines (s : State) : List (List UInt8) :=
  ((List.range dawnhexMaxNodes).filter (present s)).map fun i => nodeLine (s.nodes i)

/-- The header and one line for each live pair. -/
def duoLines (s : State) : List (List UInt8) := duoHeader s :: (livePairs s).map pairLine

def ListsCompletely (s : State) : Prop :=
  topologyShow s = (topologyLines s).flatten ∧ duoShow s = (duoLines s).flatten

theorem topology_show_take (s : State) :
    topologyShow s = (topologyLines s).flatten.take (pageSize - 1) := by
  have lines : (List.range dawnhexMaxNodes).filterMap
      (fun i => if !(s.nodes i).present then none else some (nodeLine (s.nodes i))) =
        topologyLines s := by
    rw [topologyLines, ← List.filterMap_eq_map, List.filterMap_filter]
    congr 1
    funext i
    cases here : (s.nodes i).present <;> simp [present, here]
  have printed := printAll_take pageSize (by decide)
    (fun i => if !(s.nodes i).present then none else some (nodeLine (s.nodes i)))
    (List.range dawnhexMaxNodes) []
  rwa [lines, List.take_nil, List.nil_append] at printed

theorem duo_show_take (s : State) :
    duoShow s = (duoLines s).flatten.take (pageSize - 1) := by
  have lines : (List.range s.duo.pairCount.toNat).filterMap
      (fun i => some (pairLine (s.duo.pairs i))) = (livePairs s).map pairLine := by
    rw [List.filterMap_eq_map', livePairs, slice, List.map_map]
    congr 1
    funext i
    rw [Function.comp_apply, Nat.zero_add]
  rw [duoShow, scnprintf, printAll_take pageSize (by decide), lines]
  rfl

/-- A listing is complete exactly if its lines leave the last byte of the page free. -/
theorem listings_complete_iff (s : State) :
    ListsCompletely s ↔
      (topologyLines s).flatten.length < 4096 ∧ (duoLines s).flatten.length < 4096 := by
  rw [ListsCompletely, topology_show_take, duo_show_take]
  exact and_congr (take_whole_iff pageSize (by decide) _) (take_whole_iff pageSize (by decide) _)

/-- Every number has a digit. -/
theorem labelled_length (fields : List (String × Nat)) :
    (fields.map fun f => (text f.1).length + 1).sum ≤ (labelled fields).length := by
  induction fields with
  | nil => exact Nat.le_refl 0
  | cons f rest ih =>
      have digits := List.length_pos_iff.mpr (numeral_ne_nil f.2)
      rw [labelled, List.flatMap_cons, List.map_cons, List.sum_cons, List.length_append,
        List.length_append]
      exact Nat.add_le_add (Nat.add_le_add_left digits _) ih

theorem pair_line_length (p : DuoPair) : 91 ≤ (pairLine p).length := by
  have fields := labelled_length (pairFields p)
  have labels : ((pairFields p).map fun f => (text f.1).length + 1).sum = 90 := by
    simp [pairFields, text]
  rw [labels] at fields
  rw [pairLine, List.length_append]
  exact Nat.succ_le_succ fields

/-- 45 pairs are too many, whatever they are. -/
theorem many_pairs_clipped (s : State) (many : 45 ≤ s.duo.pairCount.toNat) :
    ¬ListsCompletely s := by
  rw [listings_complete_iff, duoLines, List.flatten_cons, List.length_append]
  have header : 13 ≤ (duoHeader s).length := by
    have count := labelled_length [("pair_count=", s.duo.pairCount.toNat)]
    rw [duoHeader, List.length_append]
    exact Nat.succ_le_succ (Nat.le_trans (by simp [text]) count)
  have lines : (livePairs s).length * 91 ≤ ((livePairs s).map pairLine).flatten.length := by
    induction livePairs s with
    | nil => exact Nat.le_refl 0
    | cons p rest ih =>
        have line := pair_line_length p
        rw [List.map_cons, List.flatten_cons, List.length_append, List.length_cons]
        omega
  rw [live_pairs_length] at lines
  omega

/-- A cluster with 45 pairs on its first link. -/
def crowded : State := Trace.run step dawnhexInit (List.replicate 45 (.duoAdd 0 1 1))

theorem crowded_listing_clipped : Reachable crowded ∧ ¬ListsCompletely crowded := by
  refine ⟨⟨_, rfl⟩, many_pairs_clipped crowded ?_⟩
  decide +kernel

end RyzenBuild.DawnHex
