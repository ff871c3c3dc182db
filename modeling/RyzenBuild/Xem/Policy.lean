import RyzenBuild.Lib.Floats

/-!
`xem_zcold_policy.py`: from the report of the engine on a page to the decision how
much of the page is retained. A float is an exact rational here, and the engine,
which is not part of the repository, may report what it likes.
-/
namespace RyzenBuild.Xem

open Rounding

variable (f : Floats)

def clamp (value lo hi : ℚ) : ℚ := max lo (min hi value)

def avg (values : List ℚ) : ℚ :=
  if values = [] then 0 else f.div (f.sum values) values.length

/-- Lists of lists of numbers, as deep as the engine nests them. -/
inductive Nested where
  | number (value : ℚ)
  | list (items : List Nested)

mutual

def flattenItem : Nested → List ℚ
  | .number value => [value]
  | .list items => flatten items

def flatten : List Nested → List ℚ
  | [] => []
  | item :: rest => flattenItem item ++ flatten rest

end

/-- What the engine says of one character. -/
structure SummaryItem where
  finalBase : ℤ
  finalSignature : String
  finalVertical : List ℚ
  finalHorizontal : List ℚ
  offbranchCount : ℚ

/-- The summary, and the dimensions of the first result of the last pass. -/
structure EngineReport where
  summary : List SummaryItem
  lateral : List Nested
  parallel : List Nested
  offbranch : List Nested

/-- From the coldest on. -/
inductive Tier where
  | deepCold
  | cold
  | warm
  | hot
  deriving DecidableEq, Repr

structure XemColdDecision where
  key : String
  finalSignature : String
  finalBase : ℤ
  verticalMean : ℚ
  horizontalMean : ℚ
  lateralMean : ℚ
  parallelMean : ℚ
  offbranchMean : ℚ
  crosshatchScore : ℚ
  coldnessScore : ℚ
  retainedRatio : ℚ
  reductionRatio : ℚ
  compressionFactor : ℚ
  mipRetained : List ℚ
  tier : Tier

/-- The limits of `XemZramColdMet`; the rest of its arguments go to the engine. -/
structure XemZramColdMet where
  minRetainedRatio : ℚ
  maxRetainedRatio : ℚ

/-- The mean of each place over all characters; the first one says how many there are. -/
def foldColumn (column : SummaryItem → List ℚ) (summary : List SummaryItem) (first : SummaryItem) :
    Option (List ℚ) :=
  (List.range (column first).length).mapM fun i => do
    pure (f.round (avg f (← summary.mapM fun item => (column item)[i]?)) 6)

def foldSummary (summary : List SummaryItem) : Option SummaryItem := do
  let first ← summary.head?
  pure
    { finalBase := (summary.map (·.finalBase)).sum % 2 ^ 32
      finalSignature := String.intercalate "|" (summary.map (·.finalSignature))
      finalVertical := ← foldColumn f (·.finalVertical) summary first
      finalHorizontal := ← foldColumn f (·.finalHorizontal) summary first
      offbranchCount := avg f (summary.map (·.offbranchCount)) }

def theItem (report : EngineReport) : Option SummaryItem :=
  match report.summary with
  | [item] => some item
  | summary => foldSummary f summary

def crosshatchScore (verticalMean horizontalMean lateralMean parallelMean offbranchMean : ℚ) : ℚ :=
  let vhBalance := f.sub 1 |f.sub verticalMean horizontalMean|
  let diagMix := f.add (f.mul lateralMean (f.fl 0.55)) (f.mul parallelMean (f.fl 0.45))
  let score := f.mul vhBalance (f.fl 0.32)
  let score := f.add score (f.mul verticalMean (f.fl 0.14))
  let score := f.add score (f.mul horizontalMean (f.fl 0.14))
  let score := f.add score (f.mul diagMix (f.fl 0.22))
  let score := f.add score (f.mul offbranchMean (f.fl 0.18))
  clamp score 0 1

def coldnessScore (finalBase : ℤ) (crosshatchScore offbranchCount verticalMean horizontalMean : ℚ) :
    ℚ :=
  let baseMod := f.div (finalBase % 1440 : ℤ) 1440
  let symmetry := f.sub 1 |f.sub verticalMean horizontalMean|
  let score := f.mul crosshatchScore (f.fl 0.42)
  let score := f.add score (f.mul symmetry (f.fl 0.20))
  let score := f.add score (f.mul baseMod (f.fl 0.18))
  let score := f.add score (f.mul (clamp (f.div offbranchCount 3) 0 1) (f.fl 0.20))
  clamp score 0 1

def XemZramColdMet.retainedRatioFromColdness (policy : XemZramColdMet) (coldnessScore : ℚ) : ℚ :=
  let retained := f.sub policy.maxRetainedRatio
    (f.mul (f.sub policy.maxRetainedRatio policy.minRetainedRatio) coldnessScore)
  clamp retained policy.minRetainedRatio policy.maxRetainedRatio

def mipWeights : List ℚ := [2.40, 1.85, 1.40, 1.05, 0.80, 0.60, 0.45, 0.30, 0.20]

def build9MipProfile (baseRetained : ℚ) : List ℚ :=
  mipWeights.map fun w => clamp (f.mul baseRetained (f.fl w)) (f.fl 0.001) 1

def tierName (coldnessScore : ℚ) : Tier :=
  if f.fl 0.86 ≤ coldnessScore then .deepCold
  else if f.fl 0.68 ≤ coldnessScore then .cold
  else if f.fl 0.45 ≤ coldnessScore then .warm
  else .hot

/-- The three means of the dimensions: lateral, parallel, off the branch. -/
def EngineReport.means (report : EngineReport) : ℚ × ℚ × ℚ :=
  (avg f ((flatten report.lateral).map f.fl), avg f ((flatten report.parallel).map f.fl),
    avg f ((flatten report.offbranch).map f.fl))

/-- The two scores of a page before they are rounded. -/
def scores (report : EngineReport) (item : SummaryItem) : ℚ × ℚ :=
  let verticalMean := avg f item.finalVertical
  let horizontalMean := avg f item.finalHorizontal
  let (lateralMean, parallelMean, offbranchMean) := report.means f
  let crosshatch := crosshatchScore f verticalMean horizontalMean lateralMean parallelMean
    offbranchMean
  (crosshatch,
    coldnessScore f item.finalBase crosshatch item.offbranchCount verticalMean horizontalMean)

/-- No decision where the original raises an exception: an empty summary, rows of
different lengths, a retained ratio of zero. -/
def XemZramColdMet.classify (policy : XemZramColdMet) (key : String) (report : EngineReport) :
    Option XemColdDecision := do
  let item ← theItem f report
  let (lateralMean, parallelMean, offbranchMean) := report.means f
  let (crosshatch, coldness) := scores f report item
  let retained := policy.retainedRatioFromColdness f coldness
  if retained = 0 then none
  else
    pure
      { key := key
        finalSignature := item.finalSignature
        finalBase := item.finalBase
        verticalMean := f.round (avg f item.finalVertical) 6
        horizontalMean := f.round (avg f item.finalHorizontal) 6
        lateralMean := f.round lateralMean 6
        parallelMean := f.round parallelMean 6
        offbranchMean := f.round offbranchMean 6
        crosshatchScore := f.round crosshatch 6
        coldnessScore := f.round coldness 6
        retainedRatio := f.round retained 6
        reductionRatio := f.round (f.sub 1 retained) 6
        compressionFactor := f.round (f.div 1 retained) 4
        mipRetained := (build9MipProfile f retained).map fun v => f.round v 6
        tier := tierName f coldness }

end RyzenBuild.Xem
