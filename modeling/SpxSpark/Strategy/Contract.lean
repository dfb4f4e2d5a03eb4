import SpxSpark.Lib.Float64
import SpxSpark.Lib.IsoTime
import SpxSpark.Lib.JsonValue
import SpxSpark.Lib.Results
import SpxSpark.Lib.Text

/-!
# Contract — the envelope that every strategy decision carries

A decision names the schema and the policy it was made under, how long it is valid, the coordinate
that triggered it and what blocks it.
-/

namespace SpxSpark.Strategy

open Lib
open JsonValue (array? get isNull object? truthy)

/-- The members of a `dict` that was read from a document. -/
abbrev Members := List (Text × JsonValue)

/-! ## Python -/

inductive PyError
  | typeError | valueError | overflowError
  deriving DecidableEq

/-- `datetime.fromisoformat`, and then `astimezone(utc)`. -/
inductive IsoRead
  | invalid
  | naive
  /-- The instant is out of range in UTC. -/
  | overflows
  | instant (time : Instant)

/-- `text.replace("Z", "+00:00")`. -/
def replaceZ (text : Text) : Text :=
  text.flatMap fun c => if c = 'Z' then "+00:00".toList else [c]

theorem replaceZ_eq_self {text : Text} (h : ∀ c ∈ text, c ≠ 'Z') : replaceZ text = text := by
  induction text with
  | nil => rfl
  | cons c rest ih =>
    unfold replaceZ at ih ⊢
    rw [List.flatMap_cons, if_neg (h c List.mem_cons_self),
      ih fun other hother => h other (List.mem_cons_of_mem _ hother)]
    rfl

/-- `fromisoformat` of the instants that are written in UTC. -/
def readIso (text : Text) : IsoRead :=
  match IsoTime.fromisoformat text with
  | some time => .instant time
  | none => .invalid

theorem readIso_isoformat (time : Instant) :
    readIso (replaceZ (IsoTime.isoformat time)) = .instant time := by
  have hplain : ∀ c ∈ IsoTime.isoformat time, c ≠ 'Z' := by
    rintro c hc rfl
    rcases IsoTime.mem_isoformat hc with h | h
    · revert h
      decide
    · revert h
      decide
  unfold readIso
  rw [replaceZ_eq_self hplain, IsoTime.fromisoformat_isoformat]

structure PyTools where
  /-- `str(value)`. -/
  str : JsonValue → Text
  str_string : ∀ text, str (.string text) = text
  /-- `isoformat` of an instant in UTC. -/
  isoformat : Instant → Text
  fromisoformat : Text → IsoRead
  fromisoformat_isoformat : ∀ time, fromisoformat (replaceZ (isoformat time)) = .instant time
  /-- `float(text)`, of a text that is a finite number. -/
  float : Text → Option ℚ
  /-- `hashlib.sha256(text.encode()).hexdigest()`. -/
  sha256 : Text → Text
  /-- A digest is written in hexadecimal digits. -/
  sha256_hex : ∀ text, ∀ c ∈ sha256 text, isSpace c = false

/-- `value == number`, as Python compares a value with an integer. -/
def equalsInt (value : Option JsonValue) (number : Int) : Bool :=
  match value with
  | some (.int other) => other = number
  | some (.float other) => other = number
  | some (.bool other) => (if other then 1 else 0) = number
  | _ => false

/-- `value == text`. -/
def equalsText (value : Option JsonValue) (text : Text) : Bool :=
  match value with
  | some (.string other) => other = text
  | _ => false

/-- `value is True`. -/
def isTrue : Option JsonValue → Bool
  | some (.bool value) => value
  | _ => false

/-- `value is False`. -/
def isFalse : Option JsonValue → Bool
  | some (.bool value) => !value
  | _ => false

/-- `[dict(item) for item in value or [] if isinstance(item, Mapping)]`. -/
def mappings : Option JsonValue → Except PyError (List Members)
  | some (.array items) => .ok (items.filterMap object?)
  | some (.bool true) | some (.infinity _) => .error .typeError
  | some (.int value) => if value ≠ 0 then .error .typeError else .ok []
  | some (.float value) => if value ≠ 0 then .error .typeError else .ok []
  | _ => .ok []

/-- `value or fallback`. -/
def orValue (value fallback : Option JsonValue) : Option JsonValue :=
  if value.any truthy then value else fallback

/-- `{**base, **changes}`. -/
def override (base changes : Members) : Members := changes ++ base

variable (py : PyTools)

/-- `str(value or fallback)`. -/
def strOr (value : Option JsonValue) (fallback : Text) : Text :=
  match value with
  | some found => if found.truthy then py.str found else fallback
  | none => fallback

/-- `policy_version`, of a policy that is encoded to that text. -/
def policyVersion (name encoded : String) : Text :=
  name.toList ++ "+sha256:".toList ++ (py.sha256 encoded.toList).take 16

/-! ## Times and numbers -/

/-- What `valid_until` is: a `datetime`, or whatever the document has. -/
inductive TimeValue
  | time (at_ : Instant)
  | json (value : Option JsonValue)

def TimeValue.isNone : TimeValue → Bool
  | .time _ => false
  | .json value => value.isNone || value.any isNull

/-- The time of a text, and none where there is none. -/
def aware : IsoRead → Except PyError (Option Instant)
  | .invalid => .ok none
  | .naive => .ok none
  | .overflows => .error .overflowError
  | .instant time => .ok (some time)

/-- `parse_aware_time`. -/
def parseAwareTime : TimeValue → Except PyError (Option Instant)
  | .time at_ => .ok (some at_)
  | .json (some (.string text)) => aware (py.fromisoformat (replaceZ text))
  | .json _ => .ok none

/-- `_canonical_time`. -/
def canonicalTime (value : TimeValue) : Except PyError JsonValue :=
  if value.isNone then .ok .null
  else do
    match ← parseAwareTime py value with
    | some time => .ok (.string (py.isoformat time))
    | none => .error .valueError

/-- `_finite_number`. -/
def finiteNumber : Option JsonValue → Except PyError JsonValue
  | some (.int value) =>
    match Float64.ofInt value with
    | some value => .ok (.float value)
    | none => .error .overflowError
  | some (.float value) => .ok (.float value)
  | _ => .ok .null

/-! ## The coordinate -/

def unavailable : Text := "unavailable".toList

/-- A text that is not empty, as a value. -/
def textOrNull (text : Text) : JsonValue := if text = [] then .null else .string text

/-- `normalize_coordinate`. -/
def normalizeCoordinate (raw : Members) : Except PyError Members := do
  let kind := stripChars (strOr py (get "kind".toList raw) unavailable)
  let instrument := stripChars (strOr py (get "instrument_id".toList raw) [])
  let observed ← finiteNumber (get "observed_value".toList raw)
  let target ← finiteNumber (get "target_value".toList raw)
  let spx ← finiteNumber (get "spx_observed_value".toList raw)
  let basis ← finiteNumber (get "basis_points".toList raw)
  let asOf ← canonicalTime py (.json (orValue (get "as_of".toList raw)
    (get "source_at".toList raw)))
  .ok (override raw
    [("kind".toList, .string (if kind = [] then unavailable else kind)),
      ("instrument_id".toList, textOrNull instrument),
      ("observed_value".toList, observed), ("target_value".toList, target),
      ("spx_observed_value".toList, spx), ("basis_points".toList, basis),
      ("as_of".toList, asOf)])

/-- `_COORDINATE_INSTRUMENTS`. -/
def coordinateInstruments (kind : Text) : Option Text :=
  if kind = "official_spx".toList then some "index:SPX".toList
  else if kind = "chain_implied_spx".toList then some "synthetic:SPXW_PARITY".toList
  else if kind = "es_equivalent".toList then some "future:ES".toList
  else if kind = "raw_es".toList then some "future:ES".toList
  else none

/-! ## Block reasons -/

/-- The values to go through: those of a list, or the one value that is none. -/
def reasonValues : Option JsonValue → List JsonValue
  | some (.array items) => items
  | some value => [value]
  | none => [.null]

/-- `normalize_block_reasons`. -/
def normalizeBlockReasons (values : Option JsonValue) : List Text :=
  (((reasonValues values).filterMap JsonValue.text?).map stripChars).filter (· ≠ [])
    |>.eraseDups

/-- Two lists of a document are equal if they are so item by item. -/
def equalsTexts (items : List JsonValue) (texts : List Text) : Bool :=
  items.map JsonValue.text? == texts.map some

/-! ## The envelope -/

def strategyEventSchemaVersion : Int := 3

/-- The members that are checked. -/
structure Envelope where
  schemaVersion : Option JsonValue
  policyVersion : Option JsonValue
  validUntil : TimeValue
  coordinate : Option JsonValue
  blockReasons : Option JsonValue

def envelopeOf (payload : Members) : Envelope where
  schemaVersion := get "schema_version".toList payload
  policyVersion := get "policy_version".toList payload
  validUntil := .json (get "valid_until".toList payload)
  coordinate := get "coordinate".toList payload
  blockReasons := get "block_reasons".toList payload

/-- `strategy_event_fields`. -/
def strategyEventFields (policyVersionValue : Text) (validUntil : TimeValue)
    (coordinate : Option Members) (blockReasons : List JsonValue) : Except PyError Members :=
  if stripChars policyVersionValue = [] then .error .valueError
  else do
    let validUntil ← canonicalTime py validUntil
    let coordinate ← normalizeCoordinate py (coordinate.getD [])
    .ok
      [("schema_version".toList, .int strategyEventSchemaVersion),
        ("policy_version".toList, .string (stripChars policyVersionValue)),
        ("valid_until".toList, validUntil), ("coordinate".toList, .object coordinate),
        ("block_reasons".toList,
          .array ((normalizeBlockReasons (some (.array blockReasons))).map .string))]

inductive ContractIssue
  | strategySchemaUnsupported
  | policyVersionUnavailable
  | validUntilInvalid
  | validUntilUnavailable
  | coordinateUnavailable
  | coordinateInstrumentMismatch
  | coordinateKindUnsupported
  | blockReasonsInvalid
  | blockReasonsNotNormalized
  | strategyEventExpired
  | strategyEventBlocked
  deriving DecidableEq

def ContractIssue.code : ContractIssue → String
  | .strategySchemaUnsupported => "strategy_schema_unsupported"
  | .policyVersionUnavailable => "policy_version_unavailable"
  | .validUntilInvalid => "valid_until_invalid"
  | .validUntilUnavailable => "valid_until_unavailable"
  | .coordinateUnavailable => "coordinate_unavailable"
  | .coordinateInstrumentMismatch => "coordinate_instrument_mismatch"
  | .coordinateKindUnsupported => "coordinate_kind_unsupported"
  | .blockReasonsInvalid => "block_reasons_invalid"
  | .blockReasonsNotNormalized => "block_reasons_not_normalized"
  | .strategyEventExpired => "strategy_event_expired"
  | .strategyEventBlocked => "strategy_event_blocked"

def issueIf (condition : Bool) (issue : ContractIssue) : List ContractIssue :=
  if condition then [issue] else []

def coordinateIssues (coordinate : Option JsonValue) (requireActionable : Bool) :
    Except PyError (List ContractIssue) :=
  match coordinate.bind object? with
  | none => .ok [.coordinateUnavailable]
  | some raw => do
      let normalized ← normalizeCoordinate py raw
      let kind := strOr py (get "kind".toList normalized) unavailable
      let instrument := get "instrument_id".toList normalized
      let expected := coordinateInstruments kind
      if requireActionable && kind = unavailable then .ok [.coordinateUnavailable]
      else if expected.any fun name => !equalsText instrument name then
        .ok [.coordinateInstrumentMismatch]
      else .ok (issueIf (requireActionable && expected.isNone) .coordinateKindUnsupported)

def blockReasonIssues (reasons : Option JsonValue) : List ContractIssue :=
  match reasons.bind array? with
  | none => [.blockReasonsInvalid]
  | some items =>
    if items.any fun item => (item.text?.map stripChars).getD [] = [] then [.blockReasonsInvalid]
    else issueIf (!equalsTexts items (normalizeBlockReasons reasons)) .blockReasonsNotNormalized

/-- `strategy_contract_issues`. -/
def strategyContractIssues (envelope : Envelope) (requireValidUntil requireActionable : Bool) :
    Except PyError (List ContractIssue) := do
  let validUntil ← parseAwareTime py envelope.validUntil
  let coordinate ← coordinateIssues py envelope.coordinate requireActionable
  .ok (issueIf (!equalsInt envelope.schemaVersion strategyEventSchemaVersion)
      .strategySchemaUnsupported ++
    issueIf (stripChars (strOr py envelope.policyVersion []) = []) .policyVersionUnavailable ++
    issueIf (!envelope.validUntil.isNone && validUntil.isNone) .validUntilInvalid ++
    issueIf (requireValidUntil && validUntil.isNone) .validUntilUnavailable ++
    coordinate ++ blockReasonIssues envelope.blockReasons).eraseDups

/-- `actionable_strategy_contract_issues`. -/
def actionableStrategyContractIssues (payload : Members) (now : Instant) :
    Except PyError (List ContractIssue) := do
  let envelope := envelopeOf payload
  let issues ← strategyContractIssues py envelope true true
  let validUntil ← parseAwareTime py envelope.validUntil
  .ok (issues ++
    issueIf (validUntil.any fun time => time ≤ now) .strategyEventExpired ++
    issueIf (envelope.blockReasons.bind array? |>.any fun items => !items.isEmpty)
      .strategyEventBlocked).eraseDups

end SpxSpark.Strategy
