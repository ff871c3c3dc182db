import RyzenBuild.Xem.Policy
import Mathlib.Data.Nat.Fib.Basic

/-!
`xem_fib_recursion.py`: the decision on a page, spread over a ladder of levels with
Fibonacci weights and a number of nodes on each.
-/
namespace RyzenBuild.Xem

open Rounding

/-- One turn of the loop of `fib_sequence`: the sum of the last two goes behind them. -/
def fibExtend (seq : List Nat) : List Nat :=
  seq ++ [seq.getD (seq.length - 1) 0 + seq.getD (seq.length - 2) 0]

def fibSequence (count : Nat) : List Nat :=
  if count = 0 then []
  else if count = 1 then [1]
  else (fibExtend^[count - 2] [1, 1]).take count

structure FibRecursiveNode where
  level : Nat
  nodeIndex : Nat
  fibValue : Nat
  fibWeight : ℚ
  lane : Nat
  slot : Nat
  phase : ℚ
  curvature : ℚ
  inheritedRetainedRatio : ℚ
  retainedRatio : ℚ
  reductionRatio : ℚ
  crosshatchScore : ℚ
  coldnessScore : ℚ
  mipRetained : List ℚ
  signature : String

structure FibRecursiveLevel where
  level : Nat
  fibValue : Nat
  fibWeight : ℚ
  nodeCount : Nat
  levelRetainedRatio : ℚ
  levelReductionRatio : ℚ
  levelCrosshatchScore : ℚ
  levelColdnessScore : ℚ
  levelMipRetained : List ℚ
  nodes : List FibRecursiveNode

structure XemFibRecursor where
  recursionLevels : Nat
  nodesPerLevel : Nat
  minRetainedRatio : ℚ
  maxRetainedRatio : ℚ
  levelGain : ℚ
  nodeGain : ℚ
  phaseGain : ℚ
  curvatureGain : ℚ

variable (f : Floats)

/-- The defaults of the constructor. -/
def XemFibRecursor.default : XemFibRecursor :=
  { recursionLevels := 22, nodesPerLevel := 12, minRetainedRatio := f.fl 0.0102
    maxRetainedRatio := f.fl 0.12, levelGain := f.fl 0.144, nodeGain := f.fl 0.021
    phaseGain := f.fl 0.0102, curvatureGain := f.fl 0.03125 }

def XemFibRecursor.policy (r : XemFibRecursor) : XemZramColdMet :=
  ⟨r.minRetainedRatio, r.maxRetainedRatio⟩

section Node

variable (r : XemFibRecursor) (base : XemColdDecision) (levelIndex fibValue : Nat) (fibWeight : ℚ)
  (nodeIndex : Nat)

def XemFibRecursor.phase : ℚ :=
  f.add (f.add (f.mul levelIndex r.phaseGain) (f.mul (f.mul nodeIndex r.phaseGain) (f.fl 0.5)))
    (f.mul fibWeight (f.fl 0.144))

def XemFibRecursor.curvature : ℚ :=
  f.mul (f.mul (f.mul levelIndex r.curvatureGain)
    (f.add 1 (f.mul (nodeIndex % 4 : Nat) (f.fl 0.25))))
    (f.add 1 (f.mul (nodeIndex % 3 : Nat) (f.fl 0.125)))

def XemFibRecursor.retained : ℚ :=
  let levelScalar := f.sub 1 (f.mul fibWeight r.levelGain)
  let nodeScalar :=
    f.sub 1 (f.mul (f.div nodeIndex (max 1 ((r.nodesPerLevel : ℚ) - 1))) r.nodeGain)
  let phaseScalar := f.sub 1 (f.mul (r.phase f levelIndex fibWeight nodeIndex) (f.fl 0.01))
  clamp (f.mul (f.mul (f.mul base.retainedRatio levelScalar) nodeScalar) phaseScalar)
    r.minRetainedRatio r.maxRetainedRatio

def nodeCrosshatch : ℚ :=
  clamp (f.mul (f.mul base.crosshatchScore (f.add 1 (f.mul fibWeight (f.fl 0.12))))
    (f.sub 1 (f.mul (nodeIndex % 4 : Nat) (f.fl 0.015)))) 0 1

def nodeColdness : ℚ :=
  clamp (f.mul (f.mul base.coldnessScore (f.add 1 (f.mul fibWeight (f.fl 0.18))))
    (f.add 1 (f.mul (nodeIndex % 3 : Nat) (f.fl 0.01)))) 0 1

def nodeSignature : String :=
  base.finalSignature ++ ":fib" ++ toString levelIndex ++ ":f" ++ toString fibValue ++ ":n" ++
    toString nodeIndex ++ ":l" ++ toString (nodeIndex % 3) ++ ":s" ++ toString (nodeIndex % 4)

def XemFibRecursor.buildNode : FibRecursiveNode :=
  let retained := r.retained f base levelIndex fibWeight nodeIndex
  { level := levelIndex
    nodeIndex := nodeIndex
    fibValue := fibValue
    fibWeight := f.round fibWeight 8
    lane := nodeIndex % 3
    slot := nodeIndex % 4
    phase := f.round (r.phase f levelIndex fibWeight nodeIndex) 6
    curvature := f.round (r.curvature f levelIndex nodeIndex) 6
    inheritedRetainedRatio := f.round base.retainedRatio 6
    retainedRatio := f.round retained 6
    reductionRatio := f.round (f.sub 1 retained) 6
    crosshatchScore := f.round (nodeCrosshatch f base fibWeight nodeIndex) 6
    coldnessScore := f.round (nodeColdness f base fibWeight nodeIndex) 6
    mipRetained := (build9MipProfile f retained).map fun v => f.round v 6
    signature := nodeSignature base levelIndex fibValue nodeIndex }

end Node

/-- The four averages of a level before they are rounded. -/
structure LevelMeans where
  retained : ℚ
  reduction : ℚ
  crosshatch : ℚ
  coldness : ℚ

def levelMeans (nodes : List FibRecursiveNode) : LevelMeans :=
  { retained := avg f (nodes.map (·.retainedRatio))
    reduction := avg f (nodes.map (·.reductionRatio))
    crosshatch := avg f (nodes.map (·.crosshatchScore))
    coldness := avg f (nodes.map (·.coldnessScore)) }

def XemFibRecursor.buildLevelNodes (r : XemFibRecursor) (base : XemColdDecision)
    (levelIndex fibValue : Nat) (fibWeight : ℚ) : List FibRecursiveNode :=
  (List.range r.nodesPerLevel).map (r.buildNode f base levelIndex fibValue fibWeight)

def XemFibRecursor.buildLevel (r : XemFibRecursor) (base : XemColdDecision) (fibTotal : Nat)
    (levelIndex fibValue : Nat) : LevelMeans × FibRecursiveLevel :=
  let fibWeight := f.div fibValue fibTotal
  let nodes := r.buildLevelNodes f base levelIndex fibValue fibWeight
  let means := levelMeans f nodes
  (means,
    { level := levelIndex
      fibValue := fibValue
      fibWeight := f.round fibWeight 8
      nodeCount := nodes.length
      levelRetainedRatio := f.round means.retained 6
      levelReductionRatio := f.round means.reduction 6
      levelCrosshatchScore := f.round means.crosshatch 6
      levelColdnessScore := f.round means.coldness 6
      levelMipRetained := (build9MipProfile f means.retained).map fun v => f.round v 6
      nodes := nodes })

structure RecursionSummary where
  averageRetainedRatio : ℚ
  averageReductionRatio : ℚ
  averageCrosshatchScore : ℚ
  averageColdnessScore : ℚ
  recursiveCompressionFactor : ℚ

structure RecursionReport where
  sourceKey : String
  base : XemColdDecision
  fibonacci : List Nat
  summary : RecursionSummary
  levels : List FibRecursiveLevel

/-- The loop over the levels: with each level its averages before they are rounded. -/
def XemFibRecursor.built (r : XemFibRecursor) (base : XemColdDecision) :
    List (LevelMeans × FibRecursiveLevel) :=
  let fib := fibSequence r.recursionLevels
  let fibTotal := if fib.sum = 0 then 1 else fib.sum
  fib.mapIdx fun i fibValue => r.buildLevel f base fibTotal (i + 1) fibValue

/-- The report on a page that the policy has decided on. -/
def XemFibRecursor.recurseFrom (r : XemFibRecursor) (key : String) (base : XemColdDecision) :
    RecursionReport :=
  let means := (r.built f base).map (·.1)
  let retained := avg f (means.map (·.retained))
  { sourceKey := key
    base := base
    fibonacci := fibSequence r.recursionLevels
    summary :=
      { averageRetainedRatio := f.round retained 6
        averageReductionRatio := f.round (avg f (means.map (·.reduction))) 6
        averageCrosshatchScore := f.round (avg f (means.map (·.crosshatch))) 6
        averageColdnessScore := f.round (avg f (means.map (·.coldness))) 6
        recursiveCompressionFactor := f.round (f.div 1 (max retained (f.fl 0.000001))) 4 }
    levels := (r.built f base).map (·.2) }

def XemFibRecursor.recurse (r : XemFibRecursor) (key : String) (report : EngineReport) :
    Option RecursionReport := do
  let base ← r.policy.classify f key report
  pure (r.recurseFrom f key base)

end RyzenBuild.Xem
