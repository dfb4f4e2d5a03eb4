import SpxSpark.Lib.Clock
import SpxSpark.Lib.Run
import SpxSpark.Lib.Text

/-!
# OptionReplan — when the option window is planned anew

The controller is shown the reference strike once in a while. The first plan and a new expiry are
proposed at once; a move of the strike only after enough observations of the same strike and source,
and not too soon after the last plan that was applied.
-/

namespace SpxSpark.Ibkr

open Lib

namespace Replan

/-! ## Settings and answers -/

structure ReplanSettings where
  triggerPoints : ℚ := 20
  rearmPoints : ℚ := 10
  confirmationCount : ℕ := 3
  confirmationSpanSeconds : ℚ := 15
  cooldownSeconds : ℚ := 120
  emergencyPoints : ℚ := 40
  emergencyConfirmationCount : ℕ := 2
  emergencySpanSeconds : ℚ := 5
  hardMinimumSeconds : ℚ := 30
  sourceGraceSeconds : ℚ := 30
  failureBackoffSeconds : ℚ := 30
  hard_le_cooldown : hardMinimumSeconds ≤ cooldownSeconds := by decide +kernel

inductive ReplanReason
  | failureBackoff
  | initialReferenceMissing
  | initialPlan
  | expiryRollover
  | sourceGrace
  | referenceMissing
  | insideRearmBand
  | insideTriggerBand
  | cooldownActive
  | awaitingConfirmations
  | emergencyMove
  | confirmedMove
  deriving DecidableEq

def ReplanReason.text : ReplanReason → String
  | .failureBackoff => "failure_backoff"
  | .initialReferenceMissing => "initial_reference_missing"
  | .initialPlan => "initial_plan"
  | .expiryRollover => "expiry_rollover"
  | .sourceGrace => "source_grace"
  | .referenceMissing => "reference_missing"
  | .insideRearmBand => "inside_rearm_band"
  | .insideTriggerBand => "inside_trigger_band"
  | .cooldownActive => "cooldown_active"
  | .awaitingConfirmations => "awaiting_confirmations"
  | .emergencyMove => "emergency_move"
  | .confirmedMove => "confirmed_move"

inductive ReplanState
  | steady
  | pending
  | cooldown
  deriving DecidableEq

structure ReplanProposal where
  atmStrike : Int
  source : Text
  expiry : Text
  observedAt : Instant
  reason : ReplanReason
  confirmationCount : ℕ
  deriving DecidableEq

structure ReplanDecision where
  proposal : Option ReplanProposal
  state : ReplanState
  reason : ReplanReason
  confirmationCount : ℕ := 0
  deriving DecidableEq

structure OptionReplanController where
  acceptedAtm : Option Int := none
  acceptedSource : Option Text := none
  acceptedExpiry : Option Text := none
  lastAppliedAt : Option Instant := none
  lastCandidateAt : Option Instant := none
  pendingAtm : Option Int := none
  pendingSource : Option Text := none
  pendingFirstAt : Option Instant := none
  pendingLastAt : Option Instant := none
  pendingCount : ℕ := 0
  failedUntil : Option Instant := none
  failedExpiry : Option Text := none

/-- One call of `observe`, and what becomes of a plan it proposes: whether it is applied, and when
its result is recorded, which is not before the decision. -/
structure Tick where
  atmStrike : Option Int
  source : Option Text
  observedAt : Instant
  expiry : Text
  decisionAt : Instant
  success : Bool := true
  appliedAt : Instant
  after_decision : decisionAt ≤ appliedAt
  deriving DecidableEq

/-- `source or other`. -/
def sourceOr (source : Option Text) (other : Text) : Text :=
  match source with
  | none => other
  | some text => if text = [] then other else text

def unknownSource : Text := "unknown".toList

/-- `source or "unknown"`. -/
def Tick.sourceName (tick : Tick) : Text := sourceOr tick.source unknownSource

namespace OptionReplanController

def clearPending (c : OptionReplanController) : OptionReplanController :=
  { c with
    pendingAtm := none
    pendingSource := none
    pendingFirstAt := none
    pendingLastAt := none
    pendingCount := 0 }

variable (settings : ReplanSettings) (c : OptionReplanController)

def stateAt (at' : Instant) : ReplanState :=
  match c.lastAppliedAt with
  | none => .steady
  | some applied =>
    if secondsBetween at' applied < settings.cooldownSeconds then .cooldown else .steady

/-- An observation of the accepted source keeps its grace alive. -/
def noteCandidate (c : OptionReplanController) (tick : Tick) : OptionReplanController :=
  if tick.atmStrike.isSome ∧ tick.source = c.acceptedSource ∧
      (∀ last ∈ c.lastCandidateAt, last < tick.observedAt) then
    { c with lastCandidateAt := some tick.observedAt }
  else c

/-- The failed expiry is still backing off. -/
def backingOff (c : OptionReplanController) (tick : Tick) : Prop :=
  ∃ until', c.failedUntil = some until' ∧ tick.decisionAt < until' ∧
    c.failedExpiry = some tick.expiry

instance (c : OptionReplanController) (tick : Tick) : Decidable (c.backingOff tick) :=
  decidable_of_iff
    ((c.failedUntil.any fun until' => tick.decisionAt < until') ∧
      c.failedExpiry = some tick.expiry) (by
    unfold backingOff
    cases c.failedUntil <;> simp)

/-- Seconds since the last candidate of the accepted source are within the grace. -/
def withinGrace (at' : Instant) : Bool :=
  c.lastCandidateAt.any fun last => secondsBetween at' last ≤ settings.sourceGraceSeconds

/-- The pending strike and source with one more observation. -/
def countPending (c : OptionReplanController) (tick : Tick) (atm : Int) : OptionReplanController :=
  if c.pendingAtm ≠ some atm ∨ c.pendingSource ≠ some tick.sourceName then
    { c with
      pendingAtm := some atm
      pendingSource := some tick.sourceName
      pendingFirstAt := some tick.observedAt
      pendingLastAt := some tick.observedAt
      pendingCount := 1 }
  else if ∀ last ∈ c.pendingLastAt, last < tick.observedAt then
    { c with pendingLastAt := some tick.observedAt, pendingCount := c.pendingCount + 1 }
  else c

def pendingSpan (c : OptionReplanController) : ℚ :=
  match c.pendingFirstAt, c.pendingLastAt with
  | some first, some last => secondsBetween last first
  | _, _ => 0

/-- A strike outside the bands, in the expiry that is planned. -/
def observeMove (tick : Tick) (accepted atm : Int) : ReplanDecision × OptionReplanController :=
  let drift : ℚ := |(atm - accepted : Int)|
  let sinceAtLeast (seconds : ℚ) : Prop :=
    ∀ applied ∈ c.lastAppliedAt, seconds ≤ secondsBetween tick.decisionAt applied
  let emergency := settings.emergencyPoints ≤ drift ∧ sinceAtLeast settings.hardMinimumSeconds
  if ¬emergency ∧ ¬sinceAtLeast settings.cooldownSeconds then
    (⟨none, .cooldown, .cooldownActive, 0⟩, c.clearPending)
  else
    let c := c.countPending tick atm
    let count :=
      if emergency then settings.emergencyConfirmationCount else settings.confirmationCount
    let span :=
      if emergency then settings.emergencySpanSeconds else settings.confirmationSpanSeconds
    if c.pendingCount < count ∨ c.pendingSpan < span then
      (⟨none, .pending, .awaitingConfirmations, c.pendingCount⟩, c)
    else
      let reason : ReplanReason := if emergency then .emergencyMove else .confirmedMove
      (⟨some
          { atmStrike := atm
            source := tick.sourceName
            expiry := tick.expiry
            observedAt := tick.observedAt
            reason
            confirmationCount := c.pendingCount }, .pending, reason, c.pendingCount⟩, c)

/-- The expiry that is planned. -/
def observeAccepted (tick : Tick) (accepted : Int) : ReplanDecision × OptionReplanController :=
  match tick.atmStrike with
  | none =>
    if c.withinGrace settings tick.observedAt then
      (⟨none, c.stateAt settings tick.decisionAt, .sourceGrace, c.pendingCount⟩, c)
    else (⟨none, c.stateAt settings tick.decisionAt, .referenceMissing, 0⟩, c.clearPending)
  | some atm =>
    if tick.source ≠ c.acceptedSource ∧ c.withinGrace settings tick.decisionAt then
      (⟨none, c.stateAt settings tick.decisionAt, .sourceGrace, 0⟩, c.clearPending)
    else
      let drift : ℚ := |(atm - accepted : Int)|
      if drift ≤ settings.rearmPoints then
        (⟨none, c.stateAt settings tick.decisionAt, .insideRearmBand, 0⟩, c.clearPending)
      else if drift < settings.triggerPoints then
        (⟨none, c.stateAt settings tick.decisionAt, .insideTriggerBand, 0⟩, c.clearPending)
      else observeMove settings c tick accepted atm

/-- A proposal at once. -/
def proposeNow (c : OptionReplanController) (tick : Tick) (atm : Int) (source : Text)
    (reason : ReplanReason) : ReplanDecision × OptionReplanController :=
  (⟨some
      { atmStrike := atm
        source
        expiry := tick.expiry
        observedAt := tick.observedAt
        reason
        confirmationCount := 1 }, .pending, reason, 1⟩, c)

def observe (tick : Tick) : ReplanDecision × OptionReplanController :=
  let c := c.noteCandidate tick
  if c.backingOff tick then (⟨none, .cooldown, .failureBackoff, 0⟩, c)
  else
    match c.acceptedAtm, c.acceptedExpiry with
    | some accepted, some expiry =>
      if tick.expiry ≠ expiry then
        proposeNow c tick (tick.atmStrike.getD accepted)
          (sourceOr tick.source (sourceOr c.acceptedSource "stable_atm".toList)) .expiryRollover
      else observeAccepted settings c tick accepted
    | _, _ =>
      match tick.atmStrike with
      | none => (⟨none, .steady, .initialReferenceMissing, 0⟩, c)
      | some atm => proposeNow c tick atm tick.sourceName .initialPlan

def recordResult (proposal : ReplanProposal) (success : Bool) (appliedAt : Instant) :
    OptionReplanController :=
  clearPending
    (if success then
      { c with
        acceptedAtm := some proposal.atmStrike
        acceptedSource := some proposal.source
        acceptedExpiry := some proposal.expiry
        lastAppliedAt := some appliedAt
        lastCandidateAt := some proposal.observedAt
        failedUntil := none
        failedExpiry := none }
    else
      { c with
        failedUntil := some (appliedAt + timedelta (max settings.failureBackoffSeconds 0))
        failedExpiry := some proposal.expiry })

/-- One observation, and the result of the plan it proposes. -/
def step (tick : Tick) : ReplanDecision × OptionReplanController :=
  let observed := c.observe settings tick
  match observed.1.proposal with
  | none => observed
  | some proposal =>
    (observed.1, observed.2.recordResult settings proposal tick.success tick.appliedAt)

end OptionReplanController

end Replan

end SpxSpark.Ibkr
