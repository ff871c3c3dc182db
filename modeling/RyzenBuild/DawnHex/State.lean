import RyzenBuild.Kernel
import RyzenBuild.Lib.Memory
import RyzenBuild.Lib.Bitmask
import RyzenBuild.Lib.Trace
import RyzenBuild.Ladder.Duo

/-!
The state of `dawnhex_kmod.c` and the operations that run under its lock.
Arrays are memories from their index; every 32-bit field keeps its width, and
an operation returns the new state with `none` for 0 or the error it reports.
Locking, wakeups and the scheduling of the tick work are outside this module.
-/
namespace RyzenBuild.DawnHex

open Kernel Ladder Memory Bitmask

def dawnhexMaxNodes : Nat := 64
def dawnhexNameLen : Nat := 32
def dawnhexEventQ : UInt32 := 128
def dawnhexEventLen : Nat := 160
def dawnhexDefaultTickMs : UInt32 := 500
def dawnhexDuoMaxPairs : UInt32 := 128

structure Node where
  id : UInt32
  name : List UInt8
  present : Bool
  online : Bool
  energyPpm : UInt32
  healthPpm : UInt32
  linksMask : UInt64
  deriving DecidableEq, Repr

def Node.zero : Node := ⟨0, [], false, false, 0, 0, 0⟩

structure DuoHookCtx where
  pairId : UInt32
  a : UInt32
  b : UInt32
  mode : UInt32
  valuePpm : UInt32
  quotientPpm : UInt32
  refractionPpm : UInt32
  energyPpm : UInt32
  pressurePpm : UInt32
  simplexBaseRetainedPpm : UInt32
  simplexRecursiveRetainedPpm : UInt32
  simplexRecursiveReductionPpm : UInt32
  simplexRecursiveEnergyPpm : UInt32
  deriving DecidableEq, Repr

structure DuoState where
  pairs : Nat → DuoPair
  pairCount : UInt32
  nextPairId : UInt32

/-- `hookCalls` records the contexts handed to the registered hooks, oldest
first; the hooks themselves are code of other modules. -/
structure State where
  events : Nat → List UInt8
  evHead : UInt32
  evTail : UInt32
  tickMs : UInt32
  interactive : Bool
  generation : UInt32
  nodes : Nat → Node
  duo : DuoState
  hookCalls : List DuoHookCtx

def State.setNode (s : State) (i : Nat) (node : Node) : State :=
  { s with nodes := fun k => if k = i then node else s.nodes k }

def State.setPair (s : State) (i : Nat) (pair : DuoPair) : State :=
  { s with duo := { s.duo with pairs := fun k => if k = i then pair else s.duo.pairs k } }

def State.bumpGeneration (s : State) : State := { s with generation := s.generation + 1 }

def dhEmitEventLocked (s : State) (message : List UInt8) : State :=
  let tmp := message.take (dawnhexEventLen - 1)
  let next := (s.evHead + 1) % dawnhexEventQ
  { s with
    -- A full ring gives up its oldest message.
    evTail := if next = s.evTail then (s.evTail + 1) % dawnhexEventQ else s.evTail
    events := fun k => if k = s.evHead.toNat then strscpy dawnhexEventLen tmp else s.events k
    evHead := next }

def field (label : String) (value : Nat) : List UInt8 := text label ++ decimal value

/-- The slot of a present node, for a node pointer. -/
def dhLookupNodeLocked (s : State) (id : UInt32) : Option Nat :=
  if id.toNat ≥ dawnhexMaxNodes then none
  else if !(s.nodes id.toNat).present then none
  else some id.toNat

def dhCountNodesLocked (s : State) : UInt32 :=
  (List.range dawnhexMaxNodes).foldl
    (fun count i => if (s.nodes i).present then count + 1 else count) 0

/-- The accumulator of `dh_count_links_locked`, before it is halved. -/
def dhSumLinksLocked (s : State) : UInt32 :=
  (List.range dawnhexMaxNodes).foldl
    (fun links i =>
      if (s.nodes i).present then links + hweight64 (s.nodes i).linksMask else links) 0

def dhCountLinksLocked (s : State) : UInt32 := dhSumLinksLocked s / 2

def dhAddNodeLocked (s : State) (id : UInt32) (name : List UInt8) : State × Option Errno :=
  if id.toNat ≥ dawnhexMaxNodes then (s, some .einval)
  else if (s.nodes id.toNat).present then (s, some .eexist)
  else
    let n : Node :=
      { Node.zero with
        id := id
        present := true
        online := true
        energyPpm := 500000
        healthPpm := 1000000
        name := strscpy dawnhexNameLen name }
    let s := (s.setNode id.toNat n).bumpGeneration
    (dhEmitEventLocked s (field "add id=" id.toNat ++ text " name=" ++ n.name), none)

def dhDelNodeLocked (s : State) (id : UInt32) : State × Option Errno :=
  if id.toNat ≥ dawnhexMaxNodes then (s, some .einval)
  else if !(s.nodes id.toNat).present then (s, some .enoent)
  else
    -- The link masks are scrubbed of the id; the duo table also holds ids and is not.
    let scrubbed : State :=
      { s with
        nodes := fun i =>
          if i < dawnhexMaxNodes then
            { s.nodes i with linksMask := (s.nodes i).linksMask &&& ~~~single id }
          else s.nodes i }
    let s := (scrubbed.setNode id.toNat Node.zero).bumpGeneration
    (dhEmitEventLocked s (field "del id=" id.toNat), none)

def dhLinkLocked (s : State) (a b : UInt32) (enable : Bool) : State × Option Errno :=
  if a = b then (s, some .einval)
  else
    match dhLookupNodeLocked s a, dhLookupNodeLocked s b with
    | some na, some nb =>
        let update (mask : UInt64) (id : UInt32) : UInt64 :=
          if enable then mask ||| single id else mask &&& ~~~single id
        let s := s.setNode na { s.nodes na with linksMask := update (s.nodes na).linksMask b }
        let s := s.setNode nb { s.nodes nb with linksMask := update (s.nodes nb).linksMask a }
        let s := dhEmitEventLocked s
          (field (if enable then "link a=" else "unlink a=") a.toNat ++ field " b=" b.toNat)
        (s.bumpGeneration, none)
    | _, _ => (s, some .enoent)

/-- One turn of the tick loop. -/
def tickNode (s : State) (i : Nat) : State :=
  let n := s.nodes i
  if !n.present || !n.online then s
  else
    let linkFactor := hweight64 n.linksMask * 5000
    -- The sum is taken in 32 bits before it is clamped.
    let n := { n with energyPpm := dhClampU32 (n.energyPpm + 1000 + linkFactor) 10000 1000000 }
    let n := if n.healthPpm > 250000 then { n with healthPpm := n.healthPpm - 250 } else n
    dhEmitEventLocked (s.setNode i n)
      (field "tick id=" n.id.toNat ++ field " energy=" n.energyPpm.toNat ++
        field " health=" n.healthPpm.toNat ++ field " links=" (hweight64 n.linksMask).toNat)

def dhTickOnceLocked (s : State) : State :=
  (List.range dawnhexMaxNodes).foldl tickNode s.bumpGeneration

/-- The index of the first live pair with the id, for a pair pointer. -/
def dhDuoLookupPairLocked (s : State) (pairId : UInt32) : Option Nat :=
  (List.range s.duo.pairCount.toNat).find? fun i => (s.duo.pairs i).pairId = pairId

def dhDuoDefaultQuotientPpm (mode : UInt32) : UInt32 :=
  if mode = dawnhexDuoInoutInoutOut then 1000000
  else if mode = dawnhexDuoInoutInoutIn then 1000000
  else if mode = dawnhexDuoCrossed then 1250000
  else 0

def dhDuoDefaultRefractionPpm (mode : UInt32) : UInt32 :=
  if mode = dawnhexDuoInoutInoutOut then 1010200
  else if mode = dawnhexDuoInoutInoutIn then 1020300
  else if mode = dawnhexDuoCrossed then 1044400
  else 1000000

def dhDuoEmitHooksLocked (s : State) (ctx : DuoHookCtx) : State :=
  { s with hookCalls := s.hookCalls ++ [ctx] }

/-- The record a successful add writes, before the ladder is computed. -/
def freshPair (pairId a b mode : UInt32) : DuoPair :=
  { DuoPair.zero with
    pairId := pairId
    a := a
    b := b
    mode := mode
    active := true
    quotientPpm := dhDuoDefaultQuotientPpm mode
    refractionPpm := dhDuoDefaultRefractionPpm mode
    energyPpm := 500000
    pressurePpm := 500000 }

def dhDuoAddPairLocked (s : State) (a b mode : UInt32) : State × Except Errno UInt32 :=
  if s.duo.pairCount ≥ dawnhexDuoMaxPairs then (s, .error .enospc)
  else if a = b then (s, .error .einval)
  else
    match dhLookupNodeLocked s a, dhLookupNodeLocked s b with
    | some _, some _ =>
        let index := s.duo.pairCount.toNat
        let pairId := s.duo.nextPairId + 1
        let p := dhDuoRecomputeSimplexLocked (freshPair pairId a b mode)
        let s := { s with
          duo := { s.duo with pairCount := s.duo.pairCount + 1, nextPairId := pairId } }
        let s := s.setPair index p
        (dhEmitEventLocked s
          (field "duo_add pair=" pairId.toNat ++ field " a=" a.toNat ++ field " b=" b.toNat ++
            field " mode=" mode.toNat), .ok pairId)
    | _, _ => (s, .error .enoent)

def dhDuoDelPairLocked (s : State) (pairId : UInt32) : State × Option Errno :=
  match dhDuoLookupPairLocked s pairId with
  | some i =>
      -- The record behind the last live pair stays where it was.
      let moved := memmove s.duo.pairs i (i + 1) (s.duo.pairCount.toNat - i - 1)
      let s := { s with
        duo := { s.duo with pairs := moved, pairCount := s.duo.pairCount - 1 } }
      (dhEmitEventLocked s (field "duo_del pair=" pairId.toNat), none)
  | none => (s, some .enoent)

def duoHookCtx (p : DuoPair) : DuoHookCtx :=
  { pairId := p.pairId
    a := p.a
    b := p.b
    mode := p.mode
    valuePpm := p.lastValuePpm
    quotientPpm := p.quotientPpm
    refractionPpm := p.refractionPpm
    energyPpm := p.energyPpm
    pressurePpm := p.pressurePpm
    simplexBaseRetainedPpm := p.simplex.baseRetainedPpm
    simplexRecursiveRetainedPpm := p.simplex.recursiveRetainedPpm
    simplexRecursiveReductionPpm := p.simplex.recursiveReductionPpm
    simplexRecursiveEnergyPpm := p.simplex.recursiveEnergyPpm }

/-- The pair after a pulse, from its endpoints as the pulse finds them. -/
def pulsedPair (p : DuoPair) (na nb : Node) (valuePpm : UInt32) : DuoPair :=
  let baseEnergy := (na.energyPpm + nb.energyPpm) / 2
  let basePressure := (na.healthPpm + nb.healthPpm) / 2
  dhDuoRecomputeSimplexLocked
    { p with
      lastValuePpm := valuePpm
      pulses := p.pulses + 1
      energyPpm := dhClampU32 ((baseEnergy + valuePpm) / 2) 0 1000000
      pressurePpm := dhClampU32 ((basePressure + (1000000 - valuePpm)) / 2) 0 1000000 }

/-- The feedback of a pulse into one endpoint. -/
def pulsedNode (n : Node) (pairEnergyPpm : UInt32) : Node :=
  { n with energyPpm := dhClampU32 ((n.energyPpm + pairEnergyPpm) / 2) 0 1000000 }

def dhDuoPulseLocked (s : State) (pairId valuePpm : UInt32) : State × Option Errno :=
  match dhDuoLookupPairLocked s pairId with
  | none => (s, some .enoent)
  | some i =>
      let p := s.duo.pairs i
      if !p.active then (s, some .enoent)
      else
        match dhLookupNodeLocked s p.a, dhLookupNodeLocked s p.b with
        | some na, some nb =>
            let valuePpm := dhClampU32 valuePpm 0 1000000
            let p := pulsedPair p (s.nodes na) (s.nodes nb) valuePpm
            let s := s.setNode na (pulsedNode (s.nodes na) p.energyPpm)
            let s := s.setNode nb (pulsedNode (s.nodes nb) p.energyPpm)
            let s := dhDuoEmitHooksLocked (s.setPair i p) (duoHookCtx p)
            (dhEmitEventLocked s
              (field "duo_pulse pair=" p.pairId.toNat ++ field " value=" p.lastValuePpm.toNat ++
                field " energy=" p.energyPpm.toNat ++ field " pressure=" p.pressurePpm.toNat), none)
        -- An endpoint was deleted under the pair; the pair itself stays live.
        | _, _ => (s, some .enoent)

end RyzenBuild.DawnHex
