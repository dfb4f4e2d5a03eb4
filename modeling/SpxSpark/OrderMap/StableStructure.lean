import Mathlib.Data.List.DropRight
import SpxSpark.Ibkr.AtmReference
import SpxSpark.OrderMap.LevelDecision

/-!
# StableStructure — the hysteresis of the published walls

The stable structure is what decisions look at. A live structure that lies elsewhere starts a
candidate, which collects one sample in each time bucket, and replaces the stable one when it has
enough of them; it is dropped when it waits too long, when a live structure comes back to the stable
one, and it starts anew when a live structure leaves its band.
-/

namespace SpxSpark.OrderMap

open Lib

namespace StableStructure

/-! ## Settings and structures -/

structure StabilitySettings where
  intervalSeconds : ℤ := 300
  requiredConfirmations : ℕ := 2
  bandHalfWidthPoints : ℚ := 5
  switchMinPoints : ℚ := 5
  interval_pos : 0 < intervalSeconds := by decide
  required_pos : 0 < requiredConfirmations := by decide

def candidateTtlGraceSeconds : ℚ := 60

variable (settings : StabilitySettings)

def StabilitySettings.candidateTtlSeconds : ℚ :=
  settings.intervalSeconds * (max (settings.requiredConfirmations - 1) 1 : ℕ) +
    candidateTtlGraceSeconds

/-- A live structure: the levels that are numbers, `str(expiry or "")` and the count it brings. -/
structure LiveStructure where
  levels : Levels
  expiry : String := ""
  confirmationCount : Option ℤ := none

structure Stable where
  levels : Levels
  expiry : String
  promotedAt : Option Instant
  lastConfirmedAt : Option Instant
  confirmationCount : Option ℤ
  durationSeconds : ℚ
  previousLevels : Option Levels

structure Sample where
  bucket : ℤ
  levels : Levels
  at' : Instant

structure Candidate where
  levels : Levels
  expiry : String
  samples : List Sample
  confirmationCount : ℕ
  requiredConfirmations : ℕ
  firstSeenAt : Option Instant
  lastSeenAt : Option Instant

inductive PromotionReason
  | bootstrapFirstUsableStructure
  | expiryRollover
  | multiBucketConfirmation
  deriving DecidableEq

def PromotionReason.text : PromotionReason → String
  | .bootstrapFirstUsableStructure => "bootstrap_first_usable_structure"
  | .expiryRollover => "expiry_rollover"
  | .multiBucketConfirmation => "multi_bucket_confirmation"

structure StabilityState where
  stable : Option Stable := none
  candidate : Option Candidate := none
  lastBucket : Option ℤ := none
  promotionReason : Option PromotionReason := none
  candidateExpiredAt : Option Instant := none

/-- One call: when, and what the live chain shows. -/
structure Tick where
  now : Instant
  live : Option LiveStructure

/-! ## Levels -/

/-- `if not live or not _levels(live)`: a structure without a level is no structure. -/
def usable (live : Option LiveStructure) : Option LiveStructure :=
  live.filter fun row => LevelKind.all.any fun kind => (row.levels kind).isSome

def materiallyDifferent (left right : Levels) (threshold : ℚ) : Bool :=
  let common := LevelKind.all.filter fun kind => (left kind).isSome && (right kind).isSome
  if common.isEmpty || LevelKind.all.any fun kind => (left kind).isSome != (right kind).isSome then
    true
  else common.any fun kind => threshold ≤ |(left kind).getD 0 - (right kind).getD 0|

def medianLevels (samples : List Sample) : Levels := fun kind =>
  let values := samples.filterMap fun sample => sample.levels kind
  if values.isEmpty then none else some (Ibkr.median values)

/-- `int(value or 1)`. -/
def countOr1 (value : Option ℤ) : ℤ :=
  match value with
  | none => 1
  | some count => if count = 0 then 1 else count

/-- `int(now.timestamp()) // interval_seconds`. -/
def bucketOf (now : Instant) : ℤ :=
  now.tdiv 1000000 / settings.intervalSeconds

/-! ## Promotion and the candidate -/

def promoted (levels : Levels) (expiry : String) (confirmationCount : Option ℤ) (now : Instant)
    (previousLevels : Option Levels) : Stable where
  levels
  expiry
  promotedAt := some now
  lastConfirmedAt := some now
  confirmationCount := some (countOr1 confirmationCount)
  durationSeconds := 0
  previousLevels := previousLevels.filter fun levels =>
    LevelKind.all.any fun kind => (levels kind).isSome

/-- A structure kept from before this module carried no promotion time. -/
def adopt (now : Instant) (stable : Stable) : Stable :=
  if stable.promotedAt.isSome then stable
  else promoted stable.levels stable.expiry stable.confirmationCount now none

def candidateExpired (candidate : Candidate) (now : Instant) : Bool :=
  match candidate.lastSeenAt.or (candidate.samples.getLast?.map (·.at')) with
  | none => true
  | some lastSeen => settings.candidateTtlSeconds < secondsBetween now lastSeen

/-- The stable structure and the candidate a call starts with. -/
def refresh (now : Instant) (state : StabilityState) : StabilityState :=
  let state := { state with stable := state.stable.map (adopt now) }
  match state.candidate with
  | none => state
  | some candidate =>
    if candidateExpired settings candidate now then
      { state with candidate := none, candidateExpiredAt := some now }
    else state

/-- The published state tells how long the stable structure has stood. -/
def publicState (now : Instant) (state : StabilityState) : StabilityState :=
  { state with
    stable := state.stable.map fun stable =>
      { stable with
        durationSeconds := max (secondsBetween now (stable.promotedAt.getD now)) 0 } }

def confirmStable (bucket : ℤ) (now : Instant) (lastBucket : Option ℤ) (stable : Stable) :
    Stable :=
  { stable with
    lastConfirmedAt := some now
    durationSeconds := max (secondsBetween now (stable.promotedAt.getD now)) 0
    confirmationCount := some (countOr1 stable.confirmationCount +
      if lastBucket ≠ some bucket then 1 else 0) }

/-- The bucket of the last sample, read as `int(samples[-1].get("bucket") or -1)`. -/
def lastSampleBucket (samples : List Sample) : Option ℤ :=
  samples.getLast?.map fun sample => if sample.bucket = 0 then -1 else sample.bucket

/-- The samples of the candidate, with the live structure's own. -/
def nextSamples (candidate : Option Candidate) (bucket : ℤ) (now : Instant) (levels : Levels) :
    List Sample :=
  let samples :=
    match candidate with
    | none => []
    | some candidate =>
      if materiallyDifferent candidate.levels levels settings.bandHalfWidthPoints then []
      else candidate.samples
  let samples :=
    if lastSampleBucket samples ≠ some bucket then samples ++ [⟨bucket, levels, now⟩]
    else samples
  samples.rtake settings.requiredConfirmations

def nextCandidate (live : LiveStructure) (samples : List Sample) : Candidate where
  levels := medianLevels samples
  expiry := live.expiry
  samples
  confirmationCount := samples.length
  requiredConfirmations := settings.requiredConfirmations
  firstSeenAt := samples.head?.map (·.at')
  lastSeenAt := samples.getLast?.map (·.at')

/-- A live structure that lies elsewhere than the stable one. -/
def observeCandidate (state : StabilityState) (stable : Stable) (live : LiveStructure)
    (now : Instant) : StabilityState :=
  let bucket := bucketOf settings now
  let samples := nextSamples settings state.candidate bucket now live.levels
  let candidate := nextCandidate settings live samples
  if settings.requiredConfirmations ≤ samples.length then
    { state with
      stable := some (promoted candidate.levels candidate.expiry
        (some candidate.confirmationCount) now (some stable.levels))
      candidate := none
      lastBucket := some bucket
      promotionReason := some .multiBucketConfirmation }
  else { state with candidate := some candidate, lastBucket := some bucket }

def observeLive (state : StabilityState) (live : LiveStructure) (now : Instant) : StabilityState :=
  let bucket := bucketOf settings now
  match state.stable with
  | none =>
    { stable := some (promoted live.levels live.expiry live.confirmationCount now none)
      lastBucket := some bucket
      promotionReason := some .bootstrapFirstUsableStructure }
  | some stable =>
    if live.expiry ≠ "" ∧ stable.expiry ≠ "" ∧ live.expiry ≠ stable.expiry then
      { stable := some (promoted live.levels live.expiry live.confirmationCount now
          (some stable.levels))
        lastBucket := some bucket
        promotionReason := some .expiryRollover }
    else if !materiallyDifferent stable.levels live.levels settings.switchMinPoints then
      { state with
        stable := some (confirmStable bucket now state.lastBucket stable)
        candidate := none
        lastBucket := some bucket }
    else observeCandidate settings state stable live now

/-- The durable state and the stable structure a call leaves. -/
def advanceStableStructure (previous : StabilityState) (tick : Tick) :
    Option Stable × StabilityState :=
  let state := refresh settings tick.now previous
  let state :=
    match usable tick.live with
    | none => state
    | some live => observeLive settings state live tick.now
  (state.stable, publicState tick.now state)

end StableStructure

end SpxSpark.OrderMap
