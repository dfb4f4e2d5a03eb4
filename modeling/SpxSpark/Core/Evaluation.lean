import SpxSpark.Core.Readiness
import SpxSpark.Core.Snapshot
import SpxSpark.Domain.Delivery
import SpxSpark.Lib.Calendar
import SpxSpark.Lib.Clock

/-!
# Evaluation — from an evaluation request to a decision and its notification

`evaluate` takes a snapshot of the requested session, assesses it, adds the gates of the engine and
builds the decision, and for a manual candidate its notification.
-/

namespace SpxSpark.Core

open Domain Lib Lib.Calendar List
open TimeDelta (seconds)
open Token (new new_ok)

structure NotificationTargetConfig where
  key : Token
  channel : DeliveryChannel

/-- What of the configuration an evaluation reads. -/
structure CoreConfig where
  deliveryMaxAttempts : Nat
  notificationTargets : List NotificationTargetConfig
  decisionMaxTtlSeconds : Nat
  evaluationMaxDelaySeconds : Rat
  readiness : ReadinessConfig

inductive ConfigError
  | invalid (what : String)
  deriving DecidableEq

/-- The checks of `CoreConfig::validate` on these fields. -/
def CoreConfig.validate (config : CoreConfig) : Except ConfigError Unit := do
  require (1 ≤ config.deliveryMaxAttempts ∧ config.deliveryMaxAttempts ≤ 10)
    (.invalid "delivery_max_attempts must be within 1..=10")
  require (config.notificationTargets ≠ []) (.invalid "notification_targets must be non-empty")
  require ((config.notificationTargets.map (·.key)).dedup.length =
      config.notificationTargets.length)
    (.invalid "notification target keys must be unique")
  require (1 ≤ config.decisionMaxTtlSeconds ∧ config.decisionMaxTtlSeconds ≤ 900)
    (.invalid "decision_max_ttl_seconds must be within 1..=900")
  require (0 < config.evaluationMaxDelaySeconds ∧ config.evaluationMaxDelaySeconds ≤ 30)
    (.invalid "evaluation_max_delay_seconds must be > 0 and <= 30")
  require (0 < config.readiness.quoteMaxAgeSeconds ∧ config.readiness.quoteMaxAgeSeconds ≤ 60)
    (.invalid "quote_max_age_seconds must be > 0 and <= 60")
  require (0 < config.readiness.maxSideSkewSeconds ∧
      config.readiness.maxSideSkewSeconds ≤ config.readiness.quoteMaxAgeSeconds)
    (.invalid "max_side_skew_seconds must be positive and no greater than quote age")

/-- `canonical_json_hash` on what an evaluation hashes; `D` are the digests of snapshots. -/
class EvaluationHash (D : Type) where
  evidence : D → Token → List StrategyBlockReason → Option ExactLegEvidenceV1 → Sha256Hex
  decision : Token → Token → Token → Sha256Hex
  intent : Token → List NotificationTargetV1 → Sha256Hex

inductive CoreError
  | domain (error : DomainError)
  | quoteBook (error : QuoteBookError)
  | panic (panic : Panic)

/-! ## The gates of the engine -/

section
variable (request : EvaluationRequestV1) (processingAt : DateTime) (config : CoreConfig)

def targetUnavailable : Bool :=
  request.notificationTargets.any fun target =>
    !config.notificationTargets.any fun configured => configured.key == target

/-- The reasons of `add_hard_gate_reasons`, in the order they are given. -/
def hardGateReasons : List StrategyBlockReason :=
  List.flatten [
    if request.calendar = .closed then [.calendarClosed] else [],
    if request.macroPermission = .blocked then [.macroEventBlocked] else [],
    if request.planState = .conflict then [.activePlanConflict] else [],
    if targetUnavailable request config = true then [.notificationTargetUnavailable] else [],
    if request.validUntil ≤ processingAt then [.ttlExpired] else [],
    if config.evaluationMaxDelaySeconds < secondsBetween processingAt request.decisionAt then
      [.evaluationDelayed] else [],
    if (config.decisionMaxTtlSeconds : Rat) <
      secondsBetween request.validUntil request.decisionAt then [.decisionTtlInvalid] else []]

def addHardGateReasons (assessment : ReadinessAssessment) : ReadinessAssessment :=
  (hardGateReasons request processingAt config).foldl ReadinessAssessment.block assessment

/-- What a request has to bring for the gates to stay silent. -/
structure GatesOpen : Prop where
  calendar : request.calendar = .open
  macroPermission : request.macroPermission = .allowed
  planState : request.planState = .clear
  targets : ∀ target ∈ request.notificationTargets,
    ∃ configured ∈ config.notificationTargets, configured.key = target
  unexpired : processingAt < request.validUntil
  delay : secondsBetween processingAt request.decisionAt ≤ config.evaluationMaxDelaySeconds
  ttl : secondsBetween request.validUntil request.decisionAt ≤ config.decisionMaxTtlSeconds

variable {request processingAt config} in
theorem hardGateReasons_eq_nil :
    hardGateReasons request processingAt config = [] ↔ GatesOpen request processingAt config := by
  have hcalendar : request.calendar ≠ .closed ↔ request.calendar = .open := by
    cases request.calendar <;> simp
  have hmacro : request.macroPermission ≠ .blocked ↔ request.macroPermission = .allowed := by
    cases request.macroPermission <;> simp
  have hplan : request.planState ≠ .conflict ↔ request.planState = .clear := by
    cases request.planState <;> simp
  have htargets : targetUnavailable request config ≠ true ↔
      ∀ target ∈ request.notificationTargets,
        ∃ configured ∈ config.notificationTargets, configured.key = target := by
    simp [targetUnavailable]
  rw [hardGateReasons, flatten_eq_nil_iff]
  simp only [forall_mem_cons, not_mem_nil, false_imp_iff, implies_true, and_true,
    ite_singleton_eq_nil, not_le, not_lt, hcalendar, hmacro, hplan, htargets]
  constructor
  · rintro ⟨h1, h2, h3, h4, h5, h6, h7⟩
    exact ⟨h1, h2, h3, h4, h5, h6, h7⟩
  · rintro ⟨h1, h2, h3, h4, h5, h6, h7⟩
    exact ⟨h1, h2, h3, h4, h5, h6, h7⟩

end

/-- Blocking for a list of reasons leaves the evidence only when the list is empty. -/
theorem exactLegs_foldl_block {legs : ExactLegEvidenceV1} :
    ∀ {reasons : List StrategyBlockReason} {assessment : ReadinessAssessment},
      (reasons.foldl ReadinessAssessment.block assessment).exactLegs = some legs →
        reasons = [] ∧ assessment.exactLegs = some legs
  | [], _, h => ⟨rfl, h⟩
  | reason :: rest, assessment, h => by
      have hrest : (assessment.block reason).exactLegs = some legs :=
        (exactLegs_foldl_block (by exact h)).2
      rw [ReadinessAssessment.exactLegs_block] at hrest
      cases hrest

theorem settled_foldl_block : ∀ {reasons : List StrategyBlockReason}
    {assessment : ReadinessAssessment}, assessment.Settled →
      (reasons.foldl ReadinessAssessment.block assessment).Settled
  | [], _, h => h
  | reason :: rest, assessment, _ => by
      rw [foldl_cons]
      exact settled_foldl_block (ReadinessAssessment.settled_block assessment reason)

/-! ## The decision -/

section
variable {D : Type} [EvaluationHash D]
variable (request : EvaluationRequestV1) (snapshot : AnalyticalOptionSnapshotV1 D)

/-- The decision an assessment amounts to, before its validation. -/
def decisionOf (assessment : ReadinessAssessment) : Except DomainError StrategyDecisionV1 := do
  let evidenceHash := EvaluationHash.evidence snapshot.provenanceHash request.requestId
    assessment.blockReasons assessment.exactLegs
  let decisionHash :=
    EvaluationHash.decision D request.requestId request.policyVersion snapshot.snapshotId
  let action := if assessment.ready = true then StrategyAction.manualCandidate else .noTrade
  let decisionId ← new ("decision:" ++ decisionHash.short) "decision_id"
  let evidenceHash ← new evidenceHash.value "evidence_hash"
  pure {
    schemaVersion := decisionSchemaVersion
    decisionId
    requestId := request.requestId
    strategyId := request.strategyId
    policyVersion := request.policyVersion
    snapshotId := snapshot.snapshotId
    action
    direction := if action = .manualCandidate then some request.direction else none
    evaluatedAt := request.decisionAt
    validUntil := request.validUntil
    blockReasons := assessment.blockReasons
    exactLegs := assessment.exactLegs
    evidenceHash
    automaticOrdering := false }

end

/-! ## The notification of a manual candidate -/

/-- `{:.places}` of a number: rounded half to even. -/
def formatFixed (places : Nat) (value : Rat) : String :=
  let scaled := (roundHalfEven (|value| * 10 ^ places)).toNat
  (if value < 0 then "-" else "") ++ Nat.repr (scaled / 10 ^ places) ++
    (if places = 0 then "" else "." ++ String.ofList (fixedDigits places scaled))

/-- `{:?}` of a provider. -/
def providerName : Provider → String
  | .schwab => "Schwab"
  | .ibkr => "Ibkr"

def semanticText (request : EvaluationRequestV1) : String :=
  request.strategyId.value ++ ":" ++ request.requestId.value

def directionText : CandidateDirection → String
  | .callVertical10 => "Call vertical 10"
  | .putVertical10 => "Put vertical 10"

def executionText (legs : ExactLegEvidenceV1) : String :=
  legs.longContractId.value ++ " / " ++ legs.shortContractId.value ++ "; executable debit " ++
    formatFixed 2 (legs.longAsk.val - legs.shortBid.val)

def targetsText (legs : ExactLegEvidenceV1) : String :=
  "long " ++ formatFixed 0 legs.longStrike.val ++ ", short " ++ formatFixed 0 legs.shortStrike.val

def dataQualityText (legs : ExactLegEvidenceV1) : String :=
  providerName legs.provider ++ " exact live NBBO; max age " ++
    formatFixed 3 legs.maxAgeSeconds.val ++ "s; max skew " ++
    formatFixed 3 legs.maxSkewSeconds.val ++ "s"

def deskMessage (request : EvaluationRequestV1) (legs : ExactLegEvidenceV1) :
    Except DomainError DeskMessageV1 := do
  let title ← new "SPX Manual Candidate" "title"
  let deskView ← new (directionText request.direction) "desk_view"
  let execution ← new (executionText legs) "execution"
  let risk ← new "Manual review only; automatic ordering disabled" "risk"
  let targets ← new (targetsText legs) "targets"
  let dataQuality ← new (dataQualityText legs) "data_quality"
  pure { title, deskView, execution, risk, targets, dataQuality }

/-- The configured target under a requested key. -/
def notificationTarget (config : CoreConfig) (key : Token) :
    Except DomainError NotificationTargetV1 :=
  match config.notificationTargets.find? (·.key == key) with
  | some configured => .ok { key, channel := configured.channel }
  | none => .error (.invalid "notification_targets" "target is not configured")

def notificationIntent (decision : StrategyDecisionV1) (maxAttempts : Nat)
    (targets : List NotificationTargetV1) (intentId semanticId : Token) (message : DeskMessageV1) :
    NotificationIntentV1 where
  schemaVersion := notificationIntentSchemaVersion
  intentId
  semanticId
  decisionId := decision.decisionId
  createdAt := decision.evaluatedAt
  expiresAt := decision.validUntil
  message
  targets
  maxAttempts

section
variable (D : Type) [EvaluationHash D]

def buildNotification (request : EvaluationRequestV1) (decision : StrategyDecisionV1)
    (maxAttempts : Nat) (config : CoreConfig) : Except DomainError NotificationIntentV1 :=
  match decision.exactLegs with
  | none => .error (.invalid "exact_legs" "manual candidate requires exact legs")
  | some legs => do
    let targets ← request.notificationTargets.mapM (notificationTarget config)
    let intentHash := EvaluationHash.intent D decision.decisionId targets
    let intentId ← new ("intent:" ++ intentHash.short) "intent_id"
    let semanticId ← new (semanticText request) "semantic_id"
    let message ← deskMessage request legs
    let intent := notificationIntent decision maxAttempts targets intentId semanticId message
    intent.validate
    pure intent

end

/-! ## The evaluation -/

section
variable {D : Type} [EvaluationHash D] (config : CoreConfig)

/-- `evaluate` from the snapshot on, up to the decision and the intent it persists. -/
def evaluateSnapshot (request : EvaluationRequestV1) (snapshot : AnalyticalOptionSnapshotV1 D)
    (processingAt : DateTime) :
    Except CoreError (StrategyDecisionV1 × Option NotificationIntentV1) := do
  let assessment ←
    (assessReadiness request snapshot processingAt config.readiness).mapError .panic
  let decision ← (decisionOf request snapshot
    (addHardGateReasons request processingAt config assessment)).mapError .domain
  decision.validate.mapError .domain
  if decision.action = .manualCandidate then
    let intent ←
      (buildNotification D request decision config.deliveryMaxAttempts config).mapError .domain
    pure (decision, some intent)
  else pure (decision, none)

def evaluate [BookHash D] (book : QuoteBook D) (request : EvaluationRequestV1)
    (processingAt : DateTime) :
    Except CoreError (StrategyDecisionV1 × Option NotificationIntentV1) := do
  require (request.decisionAt ≤ processingAt)
    (.domain (.timeOrder "decision_at is after processing_at"))
  let snapshot ← (book.snapshot request.session processingAt).mapError .quoteBook
  evaluateSnapshot config request snapshot processingAt

end

/-! ## Every decision is valid -/

section
variable {D : Type} [EvaluationHash D] {request : EvaluationRequestV1}
variable {snapshot : AnalyticalOptionSnapshotV1 D} {processingAt : DateTime} {config : CoreConfig}

/-- The decision answers the request, as the assessment has it, and orders nothing. -/
structure DecisionFor (request : EvaluationRequestV1) (assessment : ReadinessAssessment)
    (decision : StrategyDecisionV1) : Prop where
  schemaVersion : decision.schemaVersion = decisionSchemaVersion
  action : decision.action = if assessment.ready = true then .manualCandidate else .noTrade
  direction : decision.direction =
    if decision.action = .manualCandidate then some request.direction else none
  evaluatedAt : decision.evaluatedAt = request.decisionAt
  validUntil : decision.validUntil = request.validUntil
  blockReasons : decision.blockReasons = assessment.blockReasons
  exactLegs : decision.exactLegs = assessment.exactLegs
  automaticOrdering : decision.automaticOrdering = false

theorem sha256_token (hash : Sha256Hex) (field : String) :
    ∃ t, new hash.value field = .ok t := by
  have hdigit : ∀ c ∈ hash.value.toList, isHexDigit c = true := all_eq_true.mp hash.digits
  have hblank : isBlank hash.value = false := by
    refine all_eq_false.mpr ?_
    obtain ⟨c, hc⟩ : ∃ c, c ∈ hash.value.toList := by
      refine exists_mem_of_length_pos ?_
      rw [String.length_toList, hash.length]
      decide
    refine ⟨c, hc, fun hspace => ?_⟩
    have hvisible : ∀ c : Char, isHexDigit c = true → isWhitespace c = true → False := by
      intro c hhex hspace
      simp only [isHexDigit, isWhitespace, Bool.or_eq_true, Bool.and_eq_true, decide_eq_true_eq,
        beq_iff_eq, Char.le_def, UInt32.le_iff_toNat_le] at hhex hspace
      simp only [Char.toNat] at hspace
      have h0 : '0'.val.toNat = 48 := rfl
      have h9 : '9'.val.toNat = 57 := rfl
      have ha : 'a'.val.toNat = 97 := rfl
      have hf : 'f'.val.toNat = 102 := rfl
      omega
    exact hvisible c (hdigit c hc) hspace
  have hnul : containsNul hash.value = false := by
    refine any_eq_false.mpr fun c hc hzero => ?_
    have hhex := hdigit c hc
    rw [beq_iff_eq.mp hzero] at hhex
    exact absurd hhex (by decide)
  obtain ⟨t, ht, -⟩ := new_ok field hblank hnul (by rw [hash.length]; decide)
  exact ⟨t, ht⟩

theorem decisionOf_spec (assessment : ReadinessAssessment) :
    ∃ decision, decisionOf request snapshot assessment = .ok decision ∧
      DecisionFor request assessment decision := by
  obtain ⟨evidenceHash, hevidence⟩ := sha256_token (EvaluationHash.evidence snapshot.provenanceHash
    request.requestId assessment.blockReasons assessment.exactLegs) "evidence_hash"
  obtain ⟨decisionId, hdecision, -⟩ := (EvaluationHash.decision D request.requestId
    request.policyVersion snapshot.snapshotId).token_ok "decision:" "decision_id" (by decide)
      (by decide) (by decide)
  unfold decisionOf
  dsimp only
  rw [hdecision, hevidence]
  refine ⟨_, rfl, ?_⟩
  constructor <;> rfl

/-- The tolerance of the readiness check lies within that of the decision. -/
theorem f64Epsilon_le : f64Epsilon ≤ 1 / 1000000000 := by
  rw [f64Epsilon]
  norm_num

variable {decision : StrategyDecisionV1}

omit [EvaluationHash D] in
theorem legs_valid {legs : ExactLegEvidenceV1} {long short : LegBook} {config : ReadinessConfig}
    (hids : request.longContractId ≠ request.shortContractId)
    (hsupported : Supported request snapshot processingAt config legs long short)
    (hreasons : decision.blockReasons = [])
    (hevaluated : decision.evaluatedAt = request.decisionAt) :
    decision.validateLegs request.direction legs = .ok () := by
  have hwidth := abs_le.mp (hsupported.width.trans f64Epsilon_le)
  have hpoints : StrategyDecisionV1.width request.direction legs =
      contractWidth request long.contract short.contract := by
    rw [hsupported.evidence]
    unfold StrategyDecisionV1.width contractWidth
    cases request.direction <;> rfl
  have hdebit : StrategyDecisionV1.executableDebit legs =
      long.ask.price.val - short.bid.price.val := by
    rw [hsupported.evidence]
    rfl
  have hlegs : legs.validate = .ok () := by
    rw [hsupported.evidence, ExactLegEvidenceV1.validate]
    exact require_bind_ok.mpr ⟨hids, require_ok.mpr
      ⟨hsupported.long_ready.two_sided, hsupported.short_ready.two_sided⟩⟩
  have hright : legs.right = request.direction.optionRight := by
    rw [hsupported.evidence]
    rfl
  have hobserved : legs.observedAt ≤ decision.evaluatedAt := by
    rw [hsupported.evidence, hevaluated]
    exact le_refl _
  rw [StrategyDecisionV1.validateLegs]
  simp only [check_bind_ok, require_ok, hpoints, hdebit]
  exact ⟨hreasons, hlegs, hright, hwidth, hsupported.debit, hobserved⟩

/-- What `add_hard_gate_reasons` leaves of a settled, supported assessment. -/
structure Assessed (request : EvaluationRequestV1) (snapshot : AnalyticalOptionSnapshotV1 D)
    (processingAt : DateTime) (config : CoreConfig) (assessment : ReadinessAssessment) : Prop where
  settled : assessment.Settled
  supported : ∀ legs, assessment.exactLegs = some legs →
    GatesOpen request processingAt config ∧
      ∃ long short, Supported request snapshot processingAt config.readiness legs long short

omit [EvaluationHash D] in
theorem assessed : ∃ assessment,
    assessReadiness request snapshot processingAt config.readiness = .ok assessment ∧
      Assessed request snapshot processingAt config
        (addHardGateReasons request processingAt config assessment) := by
  obtain ⟨assessment, hok, hsettled, hsupported⟩ := assessReadiness_spec
  refine ⟨assessment, hok, settled_foldl_block hsettled, fun legs hlegs => ?_⟩
  obtain ⟨hnil, hlegs⟩ := exactLegs_foldl_block hlegs
  exact ⟨hardGateReasons_eq_nil.mp hnil, hsupported legs hlegs⟩

omit [EvaluationHash D] in
/-- **Self-consistency.** The decision of an assessment passes its own validation. -/
theorem decision_valid {assessment : ReadinessAssessment} (hrequest : request.validate = .ok ())
    (hassessed : Assessed request snapshot processingAt config assessment)
    (hdecision : DecisionFor request assessment decision) : decision.validate = .ok () := by
  simp only [EvaluationRequestV1.validate, check_bind_ok, require_ok] at hrequest
  obtain ⟨-, htime, hids, -⟩ := hrequest
  have hsorted : decision.blockReasons.Pairwise fun a b => a.ctorIdx < b.ctorIdx := by
    rw [hdecision.blockReasons]
    exact assessment.sorted
  have hwindow : decision.evaluatedAt < decision.validUntil := by
    rw [hdecision.evaluatedAt, hdecision.validUntil]
    exact htime
  rw [StrategyDecisionV1.validate, requireSchema]
  simp only [require_bind_ok]
  refine ⟨hdecision.schemaVersion, hwindow, hsorted, hdecision.automaticOrdering, ?_⟩
  by_cases hready : assessment.ready = true
  · have haction := hdecision.action
    rw [if_pos hready] at haction
    have hdirection := hdecision.direction
    rw [if_pos haction] at hdirection
    obtain ⟨legs, hlegs⟩ := ReadinessAssessment.ready_iff.mp hready
    obtain ⟨-, long, short, hsupported⟩ := hassessed.supported legs hlegs
    have hreasons : decision.blockReasons = [] := by
      rw [hdecision.blockReasons]
      by_contra hne
      rw [assessment.blocked hne] at hlegs
      cases hlegs
    rw [haction]
    show decision.validateManualCandidate = .ok ()
    rw [StrategyDecisionV1.validateManualCandidate, hdirection, hdecision.exactLegs, hlegs]
    exact legs_valid hids hsupported hreasons hdecision.evaluatedAt
  · have haction := hdecision.action
    rw [if_neg hready] at haction
    have hdirection := hdecision.direction
    rw [if_neg (by rw [haction]; decide)] at hdirection
    have hnone : assessment.exactLegs = none := by
      by_contra hsome
      exact hready (ReadinessAssessment.ready_iff.mpr (Option.ne_none_iff_exists'.mp hsome))
    have hreasons : decision.blockReasons ≠ [] := by
      rw [hdecision.blockReasons]
      refine hassessed.settled.resolve_right ?_
      rintro ⟨legs, hlegs⟩
      rw [hnone] at hlegs
      cases hlegs
    rw [haction]
    show decision.validateNoTrade = .ok ()
    rw [StrategyDecisionV1.validateNoTrade, require_bind_ok, require_ok]
    exact ⟨⟨hdirection, hdecision.exactLegs.trans hnone⟩, hreasons⟩

end

/-! ## When a notification can be written -/

/-- A text with something visible in it and no NUL. -/
structure Written (text : String) : Prop where
  visible : isBlank text = false
  nulFree : containsNul text = false

theorem containsNul_append {a b : String} (ha : containsNul a = false)
    (hb : containsNul b = false) : containsNul (a ++ b) = false := by
  rw [containsNul] at ha hb ⊢
  rw [String.toList_append, any_append, ha, hb, Bool.or_false]

theorem Written.append {a b : String} (ha : Written a) (hb : containsNul b = false) :
    Written (a ++ b) where
  visible := by
    have hvisible := ha.visible
    rw [isBlank] at hvisible ⊢
    rw [String.toList_append, all_append, hvisible, Bool.false_and]
  nulFree := containsNul_append ha.nulFree hb

theorem Written.token (t : Token) : Written t.value := ⟨t.nonBlank, t.nulFree⟩

/-- What `Token::new` says of a text that is too long. -/
def tooLong (field : String) : DomainError := .invalid field "must not exceed 4096 UTF-8 bytes"

theorem Written.new {text : String} (h : Written text) (field : String) :
    (text.utf8ByteSize ≤ 4096 ∧ ∃ t, Token.new text field = .ok t) ∨
      (¬ text.utf8ByteSize ≤ 4096 ∧ Token.new text field = .error (tooLong field)) := by
  by_cases hsize : text.utf8ByteSize ≤ 4096
  · exact .inl ⟨hsize, ⟨text, h.visible, h.nulFree, hsize⟩, by
      simp [Token.new, h.visible, h.nulFree, hsize]⟩
  · refine .inr ⟨hsize, ?_⟩
    simp [Token.new, tooLong, h.visible, h.nulFree, hsize]

theorem containsNul_digits {digits : List Char} (h : ∀ c ∈ digits, c.isDigit = true) :
    containsNul (String.ofList digits) = false := by
  rw [containsNul, String.toList_ofList]
  refine any_eq_false.mpr fun c hc hzero => ?_
  have hdigit := h c hc
  rw [beq_iff_eq.mp hzero] at hdigit
  exact absurd hdigit (by decide)

theorem containsNul_formatFixed (places : Nat) (value : Rat) :
    containsNul (formatFixed places value) = false := by
  rw [formatFixed]
  refine containsNul_append (containsNul_append ?_ ?_) ?_
  · split <;> decide
  · rw [Nat.repr_eq_ofList_toDigits]
    exact containsNul_digits fun c hc => Nat.isDigit_of_mem_toDigits (by decide) (by decide) hc
  · split
    · decide
    · refine containsNul_append (by decide) (containsNul_digits ?_)
      exact all_eq_true.mp (isDigit_fixedDigits places _)

theorem written_semanticText (request : EvaluationRequestV1) : Written (semanticText request) :=
  ((Written.token _).append (by decide)).append (Written.token _).nulFree

theorem written_executionText (legs : ExactLegEvidenceV1) : Written (executionText legs) :=
  ((((Written.token _).append (by decide)).append (Written.token _).nulFree).append
    (by decide)).append (containsNul_formatFixed _ _)

theorem written_targetsText (legs : ExactLegEvidenceV1) : Written (targetsText legs) := by
  have hlong : Written "long " := ⟨by decide, by decide⟩
  exact ((hlong.append (containsNul_formatFixed _ _)).append (by decide)).append
    (containsNul_formatFixed _ _)

theorem written_dataQualityText (legs : ExactLegEvidenceV1) : Written (dataQualityText legs) := by
  have hprovider : Written (providerName legs.provider) := by
    constructor <;> cases legs.provider <;> decide
  exact ((((hprovider.append (by decide)).append (containsNul_formatFixed _ _)).append
    (by decide)).append (containsNul_formatFixed _ _)).append (by decide)

/-- The texts of a notification are within the bound of a token. -/
structure TextsFit (request : EvaluationRequestV1) (legs : ExactLegEvidenceV1) : Prop where
  semanticId : (semanticText request).utf8ByteSize ≤ 4096
  execution : (executionText legs).utf8ByteSize ≤ 4096
  targets : (targetsText legs).utf8ByteSize ≤ 4096
  dataQuality : (dataQualityText legs).utf8ByteSize ≤ 4096

/-- What writing a notification answers: it is written when its texts fit, and else one of them is
too long. -/
inductive Writing (request : EvaluationRequestV1) (legs : ExactLegEvidenceV1) {α : Type} :
    Except DomainError α → Prop
  | written {a : α} (fits : TextsFit request legs) : Writing request legs (.ok a)
  | tooLong {field : String} (long : ¬ TextsFit request legs) :
      Writing request legs (.error (tooLong field))

section
variable {request : EvaluationRequestV1} {legs : ExactLegEvidenceV1}

theorem token_of_short {text field : String} (hblank : isBlank text = false)
    (hnul : containsNul text = false) (hlen : text.length ≤ 1024) :
    ∃ t, new text field = .ok t := by
  obtain ⟨t, ht, -⟩ := new_ok field hblank hnul hlen
  exact ⟨t, ht⟩

theorem deskMessage_spec (hsemantic : (semanticText request).utf8ByteSize ≤ 4096) :
    Writing request legs (deskMessage request legs) := by
  obtain ⟨title, htitle⟩ : ∃ t, new "SPX Manual Candidate" "title" = .ok t :=
    token_of_short (by decide) (by decide) (by decide)
  obtain ⟨view, hview⟩ : ∃ t, new (directionText request.direction) "desk_view" = .ok t := by
    cases request.direction <;>
      exact token_of_short (by decide) (by decide) (by decide)
  obtain ⟨risk, hrisk⟩ : ∃ t,
      new "Manual review only; automatic ordering disabled" "risk" = .ok t :=
    token_of_short (by decide) (by decide) (by decide)
  unfold deskMessage
  rw [htitle, hview, hrisk]
  obtain ⟨hfit, execution, hexecution⟩ | ⟨hlong, hexecution⟩ :=
    (written_executionText legs).new "execution"
  · rw [hexecution]
    obtain ⟨hfit', targets, htargets⟩ | ⟨hlong, htargets⟩ :=
      (written_targetsText legs).new "targets"
    · rw [htargets]
      obtain ⟨hfit'', quality, hquality⟩ | ⟨hlong, hquality⟩ :=
        (written_dataQualityText legs).new "data_quality"
      · rw [hquality]
        exact .written ⟨hsemantic, hfit, hfit', hfit''⟩
      · rw [hquality]
        exact .tooLong fun h => hlong h.dataQuality
    · rw [htargets]
      exact .tooLong fun h => hlong h.targets
  · rw [hexecution]
    exact .tooLong fun h => hlong h.execution

theorem notificationTargets_ok {config : CoreConfig} : ∀ {keys : List Token},
    (∀ key ∈ keys, ∃ configured ∈ config.notificationTargets, configured.key = key) →
      ∃ targets, keys.mapM (notificationTarget config) = .ok targets ∧ targets.map (·.key) = keys
  | [], _ => ⟨[], rfl, rfl⟩
  | key :: rest, h => by
      obtain ⟨targets, hrest, hkeys⟩ :=
        notificationTargets_ok fun key hkey => h key (mem_cons_of_mem _ hkey)
      obtain ⟨configured, hmem, hkey⟩ := h key (mem_cons_self ..)
      have hsome : (config.notificationTargets.find? (·.key == key)).isSome = true :=
        find?_isSome.mpr ⟨configured, hmem, beq_iff_eq.mpr hkey⟩
      obtain ⟨found, hfound⟩ := Option.isSome_iff_exists.mp hsome
      refine ⟨{ key, channel := found.channel } :: targets, ?_, by rw [map_cons, hkeys]⟩
      rw [mapM_cons, notificationTarget, hfound, hrest]
      rfl

variable (D : Type) [EvaluationHash D] {processingAt : DateTime} {config : CoreConfig}

theorem buildNotification_spec (hrequest : request.validate = .ok ())
    (hconfig : config.validate = .ok ()) (hgates : GatesOpen request processingAt config)
    (hlegs : decision.exactLegs = some legs)
    (hevaluated : decision.evaluatedAt = request.decisionAt)
    (hvalid : decision.validUntil = request.validUntil) : Writing request legs
      (buildNotification D request decision config.deliveryMaxAttempts config) := by
  simp only [EvaluationRequestV1.validate, check_bind_ok, require_ok, uniqueTokens_ok] at hrequest
  obtain ⟨-, htime, -, hunique, hnonempty, -⟩ := hrequest
  simp only [CoreConfig.validate, check_bind_ok, require_ok] at hconfig
  obtain ⟨hattempts, -⟩ := hconfig
  obtain ⟨targets, htargets, hkeys⟩ := notificationTargets_ok hgates.targets
  unfold buildNotification
  rw [hlegs]
  dsimp only
  obtain ⟨intentId, hintent, -⟩ := (EvaluationHash.intent D decision.decisionId targets).token_ok
    "intent:" "intent_id" (by decide) (by decide) (by decide)
  rw [ok_bind htargets, ok_bind hintent]
  obtain ⟨hfit, semanticId, hsemantic⟩ | ⟨hlong, hsemantic⟩ :=
    (written_semanticText request).new "semantic_id"
  · rw [ok_bind hsemantic]
    have hmessage : Writing request legs _ := deskMessage_spec hfit
    generalize deskMessage request legs = answer at hmessage
    cases hmessage with
    | tooLong hlong => exact .tooLong hlong
    | @written message hfits =>
      have hintent : (notificationIntent decision config.deliveryMaxAttempts targets intentId
          semanticId message).validate = .ok () := by
        rw [NotificationIntentV1.validate, requireSchema, require_bind_ok]
        refine ⟨rfl, validateIntentCommon_ok.mpr ⟨?_, ?_, ?_, hattempts⟩⟩
        · exact hevaluated.trans_lt (htime.trans_eq hvalid.symm)
        · rintro rfl
          exact hnonempty hkeys.symm
        · exact hkeys ▸ hunique
      rw [ok_bind (x := Except.ok message) rfl]
      rw [ok_bind hintent]
      exact .written hfits
  · rw [hsemantic]
    exact .tooLong fun h => hlong h.semanticId

end

/-! ## What an evaluation answers -/

section
variable {D : Type} [EvaluationHash D]

/-- What a manual candidate rests on. -/
structure Backed (request : EvaluationRequestV1) (snapshot : AnalyticalOptionSnapshotV1 D)
    (processingAt : DateTime) (config : CoreConfig) (decision : StrategyDecisionV1)
    (legs : ExactLegEvidenceV1) : Prop where
  exactLegs : decision.exactLegs = some legs
  gates : GatesOpen request processingAt config
  supported : ∃ long short,
    Supported request snapshot processingAt config.readiness legs long short

/-- A valid refusal, or a valid and backed candidate that is notified unless its texts are too
long. -/
inductive Outcome (request : EvaluationRequestV1) (snapshot : AnalyticalOptionSnapshotV1 D)
    (processingAt : DateTime) (config : CoreConfig) :
    Except CoreError (StrategyDecisionV1 × Option NotificationIntentV1) → Prop
  | noTrade {decision : StrategyDecisionV1} (valid : decision.validate = .ok ())
      (action : decision.action = .noTrade)
      (unready : ∃ assessment,
        assessReadiness request snapshot processingAt config.readiness = .ok assessment ∧
          (addHardGateReasons request processingAt config assessment).ready = false) :
      Outcome request snapshot processingAt config (.ok (decision, none))
  | candidate {decision : StrategyDecisionV1} {legs : ExactLegEvidenceV1}
      {intent : NotificationIntentV1} (valid : decision.validate = .ok ())
      (action : decision.action = .manualCandidate)
      (backed : Backed request snapshot processingAt config decision legs)
      (fits : TextsFit request legs) :
      Outcome request snapshot processingAt config (.ok (decision, some intent))
  | tooLong {decision : StrategyDecisionV1} {legs : ExactLegEvidenceV1} {field : String}
      (valid : decision.validate = .ok ()) (action : decision.action = .manualCandidate)
      (backed : Backed request snapshot processingAt config decision legs)
      (long : ¬ TextsFit request legs) :
      Outcome request snapshot processingAt config (.error (.domain (tooLong field)))

variable {request : EvaluationRequestV1} {config : CoreConfig}

theorem evaluateSnapshot_outcome (hconfig : config.validate = .ok ())
    (hrequest : request.validate = .ok ()) (snapshot : AnalyticalOptionSnapshotV1 D)
    (processingAt : DateTime) : Outcome request snapshot processingAt config
      (evaluateSnapshot config request snapshot processingAt) := by
  obtain ⟨assessment, hok, hassessed⟩ := assessed
  obtain ⟨decision, hdecision, hfor⟩ : ∃ decision, decisionOf request snapshot
      (addHardGateReasons request processingAt config assessment) = .ok decision ∧ _ :=
    decisionOf_spec (addHardGateReasons request processingAt config assessment)
  have hvalid := decision_valid hrequest hassessed hfor
  unfold evaluateSnapshot
  rw [ok_bind (mapError_ok.mpr hok), ok_bind (mapError_ok.mpr hdecision),
    ok_bind (mapError_ok.mpr hvalid)]
  by_cases haction : decision.action = .manualCandidate
  · rw [if_pos haction]
    have hready : (addHardGateReasons request processingAt config assessment).ready = true := by
      by_contra hready
      have hno := hfor.action
      rw [if_neg hready, haction] at hno
      cases hno
    obtain ⟨legs, hlegs⟩ := ReadinessAssessment.ready_iff.mp hready
    obtain ⟨hgates, hsupported⟩ := hassessed.supported legs hlegs
    have hbacked : Backed request snapshot processingAt config decision legs :=
      ⟨hfor.exactLegs.trans hlegs, hgates, hsupported⟩
    have hwriting := buildNotification_spec D hrequest hconfig hgates hbacked.exactLegs
      hfor.evaluatedAt hfor.validUntil
    generalize buildNotification D request decision config.deliveryMaxAttempts config = answer
      at hwriting
    cases hwriting with
    | written hfits => exact .candidate hvalid haction hbacked hfits
    | tooLong hlong => exact .tooLong hvalid haction hbacked hlong
  · rw [if_neg haction]
    have hready : (addHardGateReasons request processingAt config assessment).ready = false := by
      by_contra hready
      have hyes := hfor.action
      rw [if_pos (Bool.not_eq_false _ ▸ hready)] at hyes
      exact haction hyes
    have hno := hfor.action
    rw [hready] at hno
    exact .noTrade hvalid hno ⟨assessment, hok, hready⟩

/-- **Evaluation.** An evaluation before its decision time, or without a snapshot, is refused as
such. Any other, on any snapshot, ends in a decision that passes its own validation, a manual
candidate only with everything it rests on in order; and it fails only over the length of the
texts of a candidate's notification. -/
theorem evaluation_fail_closed [BookHash D] (hconfig : config.validate = .ok ())
    (hrequest : request.validate = .ok ()) (processingAt : DateTime) :
    (∀ snapshot : AnalyticalOptionSnapshotV1 D, Outcome request snapshot processingAt config
      (evaluateSnapshot config request snapshot processingAt)) ∧
    ∀ book : QuoteBook D,
      (processingAt < request.decisionAt ∧ evaluate config book request processingAt =
        .error (.domain (.timeOrder "decision_at is after processing_at"))) ∨
      (∃ e, book.snapshot request.session processingAt = .error e ∧
        evaluate config book request processingAt = .error (.quoteBook e)) ∨
      request.decisionAt ≤ processingAt ∧ ∃ snapshot,
        book.snapshot request.session processingAt = .ok snapshot ∧
          snapshot.builtAt = processingAt ∧
          evaluate config book request processingAt =
            evaluateSnapshot config request snapshot processingAt := by
  refine ⟨fun snapshot => evaluateSnapshot_outcome hconfig hrequest snapshot processingAt, ?_⟩
  intro book
  by_cases hdecided : request.decisionAt ≤ processingAt
  · refine .inr ?_
    unfold evaluate
    rw [require, if_pos hdecided]
    cases hsnapshot : book.snapshot request.session processingAt with
    | error e => exact .inl ⟨e, rfl, rfl⟩
    | ok snapshot =>
      refine .inr ⟨hdecided, snapshot, rfl, ?_, rfl⟩
      obtain ⟨-, id, rfl, -⟩ := QuoteBook.snapshot_ok.mp hsnapshot
      rfl
  · refine .inl ⟨not_le.mp hdecided, ?_⟩
    unfold evaluate
    rw [require, if_neg hdecided]
    rfl

end

/-! ## A ready vertical, with short and with long ids -/

/-- Digests that only tell the instants of snapshots apart. -/
instance : EvaluationHash BookDocument where
  evidence document _ _ _ := .ofNat document.at.toNat
  decision _ policyVersion _ := .ofNat policyVersion.value.length
  intent _ targets := .ofNat targets.length

def deskTarget : Token := ⟨"desk-bark", by decide, by decide, by decide⟩

def readyConfig : CoreConfig where
  deliveryMaxAttempts := 3
  notificationTargets := [⟨deskTarget, .bark⟩]
  decisionMaxTtlSeconds := 120
  evaluationMaxDelaySeconds := 2
  readiness := { quoteMaxAgeSeconds := 5, maxSideSkewSeconds := 2, allowRthIbkrFallback := false }

def longLegId : Token := ⟨"SPXW-20260731-C-6350", by decide, by decide, by decide⟩
def shortLegId : Token := ⟨"SPXW-20260731-C-6360", by decide, by decide, by decide⟩

/-- Quoted at second 999 and received half a second later. -/
def sideAt (price : Rat) (h : 0 < price) : BookSideV1 where
  price := ⟨price, h⟩
  sourceAt := seconds 999
  receivedAt := seconds 999 + 500000000

def callQuote (contractId : Token) (strike bid ask : Rat) (hstrike : 0 < strike) (hbid : 0 < bid)
    (hask : 0 < ask) : QuoteV1 where
  quoteId := contractId
  provider := .schwab
  instrumentId := contractId
  instrumentKind := .option
  marketSession := .rth
  quality := .live
  option := some
    { contractId
      underlier := ⟨"SPX", by decide, by decide, by decide⟩
      tradingClass := ⟨"SPXW", by decide, by decide, by decide⟩
      expiry := 20665
      strike := ⟨strike, hstrike⟩
      right := .call
      multiplier := 100 }
  bid := some (sideAt bid hbid)
  ask := some (sideAt ask hask)
  last := none

def readySnapshot : AnalyticalOptionSnapshotV1 BookDocument where
  schemaVersion := analyticalSnapshotSchemaVersion
  snapshotId := ⟨"snapshot:1", by decide, by decide, by decide⟩
  session := .rth
  builtAt := seconds 1001
  sourceBatchIds := [⟨"batch:1", by decide, by decide, by decide⟩]
  providerStates := [
    { schemaVersion := providerStateSchemaVersion
      provider := .schwab
      observedAt := seconds 999
      operational := .live
      transport := .connected
      authentication := .authenticated
      entitlement := .live
      reasonCodes := [.healthy]
      latencyMs := none
      connectionGeneration := 1 }]
  quotes := [callQuote longLegId 6350 12 13 (by decide) (by decide) (by decide),
    callQuote shortLegId 6360 7 9 (by decide) (by decide) (by decide)]
  provenanceHash := .provenance .rth (seconds 1001) [] [] []

/-- A request for the two quoted legs, made at second 1000. -/
def requestNamed (strategyId requestId : Token) : EvaluationRequestV1 where
  schemaVersion := evaluationSchemaVersion
  requestId
  strategyId
  policyVersion := ⟨"policy-2026-08-01", by decide, by decide, by decide⟩
  session := .rth
  sessionDate := 20665
  decisionAt := seconds 1000
  validUntil := seconds 1060
  direction := .callVertical10
  longContractId := longLegId
  shortContractId := shortLegId
  calendar := .open
  macroPermission := .allowed
  planState := .clear
  notificationTargets := [deskTarget]
  automaticOrdering := false

def readyRequest : EvaluationRequestV1 :=
  requestNamed ⟨"manual-vertical-v1", by decide, by decide, by decide⟩
    ⟨"request:1", by decide, by decide, by decide⟩

theorem evaluation_fail_closed_ready :
    Outcome readyRequest readySnapshot (seconds 1001) readyConfig
      (evaluateSnapshot readyConfig readyRequest readySnapshot (seconds 1001)) := by
  have hconfig : readyConfig.validate = .ok () := by decide +kernel
  have hrequest : readyRequest.validate = .ok () := by decide +kernel
  exact (evaluation_fail_closed (D := BookDocument) hconfig hrequest
    (seconds 1001)).1 readySnapshot

theorem size_replicate (n : Nat) : (String.ofList (List.replicate n 'n')).utf8ByteSize = n := by
  induction n with
  | zero => rfl
  | succ n ih =>
    have hsplit : (String.ofList (List.replicate (n + 1) 'n')).utf8ByteSize =
        (String.singleton 'n').utf8ByteSize +
          (String.ofList (List.replicate n 'n')).utf8ByteSize := by
      rw [← String.utf8ByteSize_append, String.singleton_eq_ofList, ← String.ofList_append]
      rfl
    rw [hsplit, ih, String.utf8ByteSize_singleton, Nat.add_comm]
    rfl

theorem written_replicate {n : Nat} (hn : n ≠ 0) :
    Written (String.ofList (List.replicate n 'n')) where
  visible := by
    rw [isBlank, String.toList_ofList]
    exact all_eq_false.mpr ⟨'n', mem_replicate.mpr ⟨hn, rfl⟩, by decide⟩
  nulFree := by
    rw [containsNul, String.toList_ofList]
    refine any_eq_false.mpr fun c hc => ?_
    rw [eq_of_mem_replicate hc]
    decide

/-- A name of `n` letters. -/
def nameOf (n : Nat) (hn : n ≠ 0) (hle : n ≤ 4096) : Token where
  value := String.ofList (List.replicate n 'n')
  nonBlank := (written_replicate hn).visible
  nulFree := (written_replicate hn).nulFree
  bounded := (size_replicate n).trans_le hle

theorem nameOf_size (n : Nat) (hn : n ≠ 0) (hle : n ≤ 4096) :
    (nameOf n hn hle).value.utf8ByteSize = n :=
  size_replicate n

def longName : Token := nameOf 2100 (by decide) (by decide)

theorem longName_size : longName.value.utf8ByteSize = 2100 := nameOf_size 2100 _ _

theorem semanticText_size (strategyId requestId : Token) :
    (semanticText (requestNamed strategyId requestId)).utf8ByteSize =
      strategyId.value.utf8ByteSize + 1 + requestId.value.utf8ByteSize := by
  rw [semanticText, String.utf8ByteSize_append, String.utf8ByteSize_append]
  rfl

/-- Two acceptable ids of 2100 bytes each make a semantic id that is not one. -/
theorem evaluation_ends_in_error : ¬ ∀ (config : CoreConfig) (request : EvaluationRequestV1)
      (snapshot : AnalyticalOptionSnapshotV1 BookDocument) (processingAt : DateTime),
      config.validate = .ok () → request.validate = .ok () → snapshot.validate = .ok () →
        request.decisionAt ≤ processingAt →
          ∃ result, evaluateSnapshot config request snapshot processingAt = .ok result := by
  intro h
  have hconfig : readyConfig.validate = .ok () := by decide +kernel
  have hrequest : (requestNamed longName longName).validate = .ok () := by
    decide +kernel
  have hsnapshot : readySnapshot.validate = .ok () := by decide +kernel
  obtain ⟨result, hresult⟩ := h readyConfig (requestNamed longName longName)
    readySnapshot (seconds 1001) hconfig hrequest hsnapshot (by decide)
  have hready : (assessReadiness (requestNamed longName longName) readySnapshot
      (seconds 1001) readyConfig.readiness).toOption.any (fun assessment =>
        (addHardGateReasons (requestNamed longName longName) (seconds 1001)
          readyConfig assessment).ready) = true := by decide +kernel
  have houtcome := evaluateSnapshot_outcome hconfig hrequest readySnapshot
    (seconds 1001)
  rw [hresult] at houtcome
  cases houtcome with
  | noTrade _ _ hunready =>
    obtain ⟨assessment, hok, hno⟩ := hunready
    rw [hok] at hready
    exact absurd (hno.symm.trans hready) (by decide)
  | candidate _ _ _ hfits =>
    have hsize := hfits.semanticId
    rw [semanticText_size, longName_size] at hsize
    exact absurd hsize (by decide)

end SpxSpark.Core
