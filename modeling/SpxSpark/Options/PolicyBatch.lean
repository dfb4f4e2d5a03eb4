import SpxSpark.Lib.Arrays
import SpxSpark.Options.ManagementPolicy

/-!
# PolicyBatch — many paths replayed over one timetable of marks

The paths are the rows of an array whose columns are the marks of one timetable. The loop over the
marks is replaced by array operations: where each exit would first fire, which of them comes first,
and the running extremes up to that place.
-/

namespace SpxSpark.Options

open Arrays

/-- A two-dimensional array. -/
structure PathArray where
  columns : ℕ
  rows : List (List ℚ)
  width : ∀ row ∈ rows, row.length = columns

/-- What the paths share: the arguments, the hard exit and the kept times. -/
structure Timetable where
  arguments : PolicyArguments
  hardExit : Instant
  times : List Instant

namespace Timetable

variable (t : Timetable)

def markCount : ℕ := t.times.length

def offsets : List ℚ := t.times.map (secondsBetween · t.arguments.entryAt)

def gapCumulative : List ℚ := accumulate max (differences 0 t.offsets)

def hardIndex : ℕ :=
  searchsortedLeft t.offsets (secondsBetween t.hardExit t.arguments.entryAt)

def gapIndex : ℕ :=
  match t.arguments.maxQuoteGapSeconds with
  | none => t.markCount
  | some longest => firstHit (t.gapCumulative.map (longest < ·))

/-- The exit before any rule of the entry side is looked at. -/
def sessionExit : ℕ × ExitReason :=
  let exitIndex := min t.gapIndex t.hardIndex
  (exitIndex,
    if exitIndex = t.markCount then .marksExhausted
    else if t.gapIndex ≤ t.hardIndex then .quoteGap
    else .hardClose)

/-! ## The exits of one path -/

variable (values : List ℚ)

def creditExit (taken : ℕ × ExitReason) : ℕ × ExitReason :=
  let taken := takeWhen taken t.arguments.takeProfitLevel
    (fun level => firstHit (values.map (-· ≤ level))) .profitTake
  takeWhen taken t.arguments.stopLossLevel
    (fun level => firstHit (values.map (level ≤ -·))) .stopLoss

def armIndex : ℕ :=
  match t.arguments.armLevel with
  | some level => firstHit (values.map (level - policyPriceEpsilon ≤ ·))
  | none => t.markCount

/-- The highest value since the path was armed, and `-inf` before. -/
def peaks : List (WithBot ℚ) :=
  accumulate max (values.zipIdx.map fun (value, i) => if t.armIndex values ≤ i then value else ⊥)

def trails : List (WithBot ℚ) :=
  (t.peaks values).map fun peak =>
    let trail := peak.map (· * t.arguments.policy.trailAfterArmFraction)
    if t.arguments.policy.trailFloorIsEntryDebit then max trail t.arguments.entryPrice else trail

/-- Where the path is armed and its value is under the trail. -/
def trailMask : List Bool :=
  List.zipWith
    (fun (value, i) (trail : WithBot ℚ) =>
      t.armIndex values < i && (value : WithBot ℚ) < trail.map (· - policyPriceEpsilon))
    values.zipIdx (t.trails values)

def debitExit (taken : ℕ × ExitReason) : ℕ × ExitReason :=
  let taken := takeWhen taken t.arguments.timeStopAt
    (fun at' => searchsortedLeft t.offsets (secondsBetween at' t.arguments.entryAt)) .timeStop
  let taken := takeWhen taken t.arguments.stopLevel
    (fun level => firstHit (values.map (· ≤ level + policyPriceEpsilon))) .premiumStop
  if 0 < t.arguments.policy.trailAfterArmFraction then
    takeWhen taken t.arguments.armLevel (fun _ => firstHit (t.trailMask values)) .trail
  else taken

def pathExit : ℕ × ExitReason :=
  match t.arguments.policy.entrySide with
  | .credit => t.creditExit values t.sessionExit
  | .debit => t.debitExit values t.sessionExit

/-- Whether the path was armed before its exit, and the offset of the mark that armed it. -/
def armedAt (exit : ℕ × ExitReason) (safeIndex : ℕ) : Bool × ℚ :=
  match t.arguments.policy.entrySide with
  | .credit => (decide (exit.2 = .profitTake), t.offsets.getD safeIndex 0)
  | .debit =>
    (decide (t.armIndex values < exit.1),
      t.offsets.getD (min (t.armIndex values) (t.markCount - 1)) 0)

def pathLabel : PolicyLabel :=
  let exit := t.pathExit values
  let exitIndex := exit.1
  let hasExit := decide (exitIndex < t.markCount)
  let gapExit := decide (exit.2 = .quoteGap)
  let hasValue := hasExit && !gapExit
  let safeIndex := if hasExit then exitIndex else t.markCount - 1
  let valueIndex := if gapExit then max (exitIndex - 1) 0 else safeIndex
  let pnlMarks := values.map (t.arguments.entryCashflow + ·)
  -- A gap before the first accepted mark contributes no observed excursion.
  let unobserved := gapExit && decide (exitIndex = 0)
  let mfe := if unobserved then 0 else max 0 ((accumulate max pnlMarks).getD valueIndex 0)
  let mae := if unobserved then 0 else min 0 ((accumulate min pnlMarks).getD valueIndex 0)
  let gapTotal :=
    t.gapCumulative.getD (if gapExit then min exitIndex (t.markCount - 1) else valueIndex) 0
  let exitValue := values.getD safeIndex 0
  let armed := t.armedAt values exit safeIndex
  { tpArmed := armed.1
    tpBeforeStop := armed.1 && exit.2.beforeStop
    timeToArmSeconds := if armed.1 then some (roundTo 6 armed.2) else none
    mfePoints := roundTo 6 mfe
    maePoints := roundTo 6 mae
    policyPnlPoints :=
      if hasValue then
        some (roundTo 6 (t.arguments.entryCashflow + exitValue - t.arguments.feesPoints))
      else none
    exitReason := exit.2
    exitAt := if hasValue then some (t.times.getD safeIndex 0) else none
    exitLiquidationValue := if hasValue then some (roundTo 6 exitValue) else none
    quoteGapSecondsMax := roundTo 3 gapTotal
    policyVersion := t.arguments.policy.policyVersion
    feesPoints := roundTo 6 t.arguments.feesPoints }

end Timetable

def emptyPolicyLabel (arguments : PolicyArguments) (reason : ExitReason) : PolicyLabel where
  tpArmed := false
  tpBeforeStop := false
  timeToArmSeconds := none
  mfePoints := 0
  maePoints := 0
  policyPnlPoints := none
  exitReason := reason
  exitAt := none
  exitLiquidationValue := none
  quoteGapSecondsMax := 0
  policyVersion := arguments.policy.policyVersion
  feesPoints := roundTo 6 arguments.feesPoints

/-- The order of the marks in time, equal times in the order given. -/
def markOrder (markTimes : List Instant) : List ℕ :=
  (List.range markTimes.length).insertionSort fun i j =>
    markTimes.getD i 0 ≤ markTimes.getD j 0

/-- The columns in time order, and of these the ones from the entry on: `row[order][keep]`. -/
def keptColumns {V : Type} (entryAt : Instant) (markTimes : List Instant) (default : V)
    (row : List V) : List V :=
  let order := markOrder markTimes
  let times := order.map (markTimes.getD · 0)
  let keep := (List.range times.length).filter fun i => entryAt ≤ times.getD i 0
  keep.map ((order.map (row.getD · default)).getD · default)

def simulateManagementPolicyBatch (arguments : PolicyArguments) (hardExitAt : HardExitAt)
    (liquidationValues : PathArray) (markTimes : List Instant) :
    Except String (List PolicyLabel) := do
  arguments.check
  if markTimes.length ≠ liquidationValues.columns then
    throw "mark_times must match liquidation_values columns"
  let times := keptColumns arguments.entryAt markTimes 0 markTimes
  let rows := liquidationValues.rows.map (keptColumns arguments.entryAt markTimes 0)
  let hardExit ← arguments.hardExit hardExitAt
  if times.length = 0 ∨ hardExit ≤ arguments.entryAt then
    let reason := if hardExit ≤ arguments.entryAt then .sessionError else .marksExhausted
    return rows.map fun _ => emptyPolicyLabel arguments reason
  else
    let timetable : Timetable := { arguments, hardExit, times }
    return rows.map timetable.pathLabel

end SpxSpark.Options
