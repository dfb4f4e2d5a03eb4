import SpxSpark.Strategy.Contract

/-!
# QuoteDemandWire — the document by which two option legs are pinned

The writer builds a demand from the state of a strategy and encodes it; the owner of the quote
stream parses the document. Both run the same check on the demand.
-/

namespace SpxSpark.Ibkr.QuoteDemand

open Lib Strategy
open JsonValue (array? get hasNames int? object? text? without)

variable (py : PyTools)

/-! ## Values that are required -/

variable (value : Option JsonValue)

/-- `required_string`. -/
def requiredString : Except PyError Text :=
  match value.bind text? with
  | none => .error .valueError
  | some text => if stripChars text = [] then .error .valueError else .ok (stripChars text)

/-- `required_int`. -/
def requiredInt : Except PyError Int :=
  match value.bind int? with
  | none => .error .valueError
  | some number => .ok number

/-- `required_mapping`. -/
def requiredMapping : Except PyError Members :=
  match value.bind object? with
  | none => .error .valueError
  | some members => .ok members

/-- `_required_bool`. -/
def requiredBool : Except PyError Bool :=
  match value with
  | some (.bool value) => .ok value
  | _ => .error .valueError

/-- `_required_block_reasons`. -/
def requiredBlockReasons : Except PyError (List Text) :=
  match value.bind array? with
  | none => .error .valueError
  | some items =>
    let normalized := normalizeBlockReasons value
    if equalsTexts items normalized then .ok normalized else .error .valueError

/-- The text of a day in the calendar, as `date.isoformat` writes it. -/
def isSessionDate (text : Text) : Bool :=
  Calendar.hasDateShape text &&
    (Calendar.parseDate text).any fun day => decide (1 ≤ (Calendar.civilOfDay day).year)

/-- `valid_session_date`. -/
def validSessionDate : Except PyError Text :=
  match value.bind text? with
  | none => .error .valueError
  | some text => if isSessionDate text then .ok text else .error .valueError

/-- `parse_time`. -/
def parseTime : Except PyError Instant :=
  match value.bind text? with
  | none => .error .valueError
  | some text =>
    match py.fromisoformat (replaceZ text) with
    | .invalid => .error .valueError
    | .naive => .error .valueError
    | .overflows => .error .overflowError
    | .instant time => .ok time

/-! ## Legs -/

structure ExactLegQuoteDemandLeg where
  role : Text
  contractId : Text
  label : Text
  expiry : Text
  strike : Int
  right : Text
  deriving DecidableEq

def call : Text := "C".toList

def put : Text := "P".toList

/-- `to_dict` of a leg. -/
def ExactLegQuoteDemandLeg.toDict (leg : ExactLegQuoteDemandLeg) : Members :=
  [("role".toList, .string leg.role), ("contract_id".toList, .string leg.contractId),
    ("label".toList, .string leg.label), ("underlier".toList, .string "SPX".toList),
    ("trading_class".toList, .string "SPXW".toList), ("expiry".toList, .string leg.expiry),
    ("strike".toList, .int leg.strike), ("right".toList, .string leg.right),
    ("exchange".toList, .string "SMART".toList), ("currency".toList, .string "USD".toList),
    ("multiplier".toList, .string "100".toList)]

def gridStrike (value : ℚ) : Except PyError Int :=
  if value ≤ 0 || value.den ≠ 1 then .error .valueError
  else if value.num % 5 ≠ 0 then .error .valueError
  else .ok value.num

/-- `_valid_strike`. -/
def validStrike : Option JsonValue → Except PyError Int
  | some (.int value) =>
    match Float64.ofInt value with
    | none => .error .overflowError
    | some value => gridStrike value
  | some (.float value) => gridStrike value
  | _ => .error .valueError

/-- `_valid_right`. -/
def validRight (right : Text) : Except PyError Text :=
  if right = call || right = put then .ok right else .error .valueError

def compactDate (date : Text) : Text := date.filter (· ≠ '-')

def strikeText (strike : Int) : Text := (toString strike).toList

/-- The leg that a role, an expiry, a strike and a right determine. -/
def exactLeg (role expiry : Text) (strike : Int) (right : Text) : ExactLegQuoteDemandLeg where
  role := role
  contractId := "option:SPX:SPXW:".toList ++ compactDate expiry ++ ':' :: strikeText strike ++
    ':' :: right
  label := "option:SPXW:".toList ++ compactDate expiry ++ ':' :: strikeText strike ++ ':' :: right
  expiry := expiry
  strike := strike
  right := right

/-- `_build_leg`. -/
def buildLeg (role expiry : Text) (strike : Option JsonValue) (right : Text) :
    Except PyError ExactLegQuoteDemandLeg := do
  let strike ← validStrike strike
  let right ← validRight right
  .ok (exactLeg role expiry strike right)

/-- `value == expected`, of an expected text or integer. -/
def equalsExpected : JsonValue → Bool
  | .string text => equalsText value text
  | .int number => equalsInt value number
  | _ => false

/-- The members are those expected, and no others. -/
def hasMembers (value expected : Members) : Bool :=
  hasNames (expected.map (·.1)) value &&
    expected.all fun member => equalsExpected (get member.1 value) member.2

def schemaV1 : Int := 1

def schemaV2 : Int := 2

/-- The leg, where the document says nothing else of it. -/
def expectMembers (value expected : Members) (leg : ExactLegQuoteDemandLeg) :
    Except PyError ExactLegQuoteDemandLeg :=
  if hasMembers value expected then .ok leg else .error .valueError

/-- `_parse_leg` of the first schema, which has calls only and need not say so. -/
def parseLegV1 (role expiry : Text) (value : Members) : Except PyError ExactLegQuoteDemandLeg :=
  match get "right".toList value with
  | none => do
      let leg ← buildLeg role expiry (get "strike".toList value) call
      expectMembers value (without "right".toList leg.toDict) leg
  | some right =>
    if equalsText (some right) call then do
      let leg ← buildLeg role expiry (get "strike".toList value) call
      expectMembers value leg.toDict leg
    else .error .valueError

def parseLegV2 (role expiry : Text) (value : Members) : Except PyError ExactLegQuoteDemandLeg := do
  let right ← requiredString (get "right".toList value)
  let leg ← buildLeg role expiry (get "strike".toList value) right
  expectMembers value leg.toDict leg

/-- `_parse_leg`. -/
def parseLeg (schemaVersion : Int) (value : JsonValue) : Except PyError ExactLegQuoteDemandLeg :=
  match value.object? with
  | none => .error .valueError
  | some members => do
      let role ← requiredString (get "role".toList members)
      let expiry ← validSessionDate (get "expiry".toList members)
      if schemaVersion = schemaV1 then parseLegV1 role expiry members
      else if schemaVersion = schemaV2 then parseLegV2 role expiry members
      else .error .valueError

/-! ## Demands -/

structure ExactLegQuoteDemand where
  schemaVersion : Int
  demandId : Text
  eventId : Text
  status : Text
  createdAt : Instant
  updatedAt : Instant
  validUntil : Instant
  sessionDate : Text
  policyVersion : Text
  sourceSchemaVersion : Int
  sourcePolicyVersion : Text
  sourceProvider : Text
  quoteProvider : Text
  coordinate : Members
  blockReasons : List Text
  automaticOrdering : Bool
  longLeg : ExactLegQuoteDemandLeg
  shortLeg : ExactLegQuoteDemandLeg

def quoteDemandKind : Text := "ibkr_exact_leg_quote_demand".toList

def quoteDemandTombstoneKind : Text := "ibkr_exact_leg_quote_demand_tombstone".toList

def quoteDemandMaxLeaseSeconds : Int := 45

def quoteDemandMaxFutureSkewSeconds : Int := 5

/-- The policy of a schema as `json.dumps` writes it, where `\x7b` and `\x7d` are the braces. -/
def encodedPolicy (contract schemaVersion : String) : String :=
  "\x7b\"automatic_ordering\":false,\"contract\":\"" ++ contract ++ "\",\"lease_seconds\":30," ++
    "\"max_lease_seconds\":45,\"quote_provider\":\"ibkr\",\"schema_version\":" ++
    schemaVersion ++ "\x7d"

/-- `QUOTE_DEMAND_V1_POLICY_VERSION`. -/
def quoteDemandV1PolicyVersion : Text :=
  Strategy.policyVersion py "ibkr_exact_leg_quote_demand.v1"
    (encodedPolicy "same-session SPXW call debit spread" "1")

/-- `QUOTE_DEMAND_POLICY_VERSION`. -/
def quoteDemandPolicyVersion : Text :=
  Strategy.policyVersion py "ibkr_exact_leg_quote_demand.v2"
    (encodedPolicy "same-session SPXW call-or-put debit spread" "2")

/-- A leg as the demand's schema writes it. -/
def legDict (schemaVersion : Int) (leg : ExactLegQuoteDemandLeg) : JsonValue :=
  .object (if schemaVersion = schemaV1 then without "right".toList leg.toDict else leg.toDict)

variable (demand : ExactLegQuoteDemand)

/-- `to_dict`. -/
def ExactLegQuoteDemand.toDict : Members :=
  [("schema_version".toList, .int demand.schemaVersion),
    ("kind".toList, .string quoteDemandKind),
    ("demand_id".toList, .string demand.demandId),
    ("event_id".toList, .string demand.eventId),
    ("status".toList, .string demand.status),
    ("created_at".toList, .string (py.isoformat demand.createdAt)),
    ("updated_at".toList, .string (py.isoformat demand.updatedAt)),
    ("valid_until".toList, .string (py.isoformat demand.validUntil)),
    ("session_date".toList, .string demand.sessionDate),
    ("policy_version".toList, .string demand.policyVersion),
    ("source_schema_version".toList, .int demand.sourceSchemaVersion),
    ("source_policy_version".toList, .string demand.sourcePolicyVersion),
    ("source_provider".toList, .string demand.sourceProvider),
    ("quote_provider".toList, .string demand.quoteProvider),
    ("coordinate".toList, .object demand.coordinate),
    ("block_reasons".toList, .array (demand.blockReasons.map .string)),
    ("automatic_ordering".toList, .bool demand.automaticOrdering),
    ("legs".toList, .array [legDict demand.schemaVersion demand.longLeg,
      legDict demand.schemaVersion demand.shortLeg])]

def demandFields : List Text :=
  ["schema_version".toList, "kind".toList, "demand_id".toList, "event_id".toList, "status".toList,
    "created_at".toList, "updated_at".toList, "valid_until".toList, "session_date".toList,
    "policy_version".toList, "source_schema_version".toList, "source_policy_version".toList,
    "source_provider".toList, "quote_provider".toList, "coordinate".toList,
    "block_reasons".toList, "automatic_ordering".toList, "legs".toList]

/-- The id that an event, a session, a source and two legs hash to. -/
def demandId (eventId sessionDate sourcePolicy sourceProvider : Text)
    (longLeg shortLeg : ExactLegQuoteDemandLeg) : Text :=
  "gth-exact:".toList ++ (py.sha256 (List.intercalate ['|'] [eventId, sessionDate, sourcePolicy,
    sourceProvider, longLeg.contractId, shortLeg.contractId])).take 24

/-! ## The check on both sides -/

def quoteDemandStatuses : List Text := ["pending".toList, "confirmed".toList, "active".toList]

/-- The policies that a demand of a status and a schema may come from. -/
def expectedSourcePrefixes (status : Text) (schemaVersion : Int) : List Text :=
  if status = "active".toList then ["virtual_strategy_lifecycle.v3+sha256:".toList]
  else if schemaVersion = schemaV1 then ["gth_dip_reclaim.v4+sha256:".toList]
  else ["gth_dip_reclaim.v4+sha256:".toList, "gth_level_manual_candidate.v1+sha256:".toList]

def expectedPolicyVersion (schemaVersion : Int) : Option Text :=
  if schemaVersion = schemaV1 then some (quoteDemandV1PolicyVersion py)
  else if schemaVersion = schemaV2 then some (quoteDemandPolicyVersion py)
  else none

/-- The envelope of the strategy that a demand comes from. -/
def ExactLegQuoteDemand.sourceContract : Envelope where
  schemaVersion := some (.int demand.sourceSchemaVersion)
  policyVersion := some (.string demand.sourcePolicyVersion)
  validUntil := .time demand.validUntil
  coordinate := some (.object demand.coordinate)
  blockReasons := some (.array (demand.blockReasons.map .string))

/-- What is wrong with the two legs together. -/
def legsIssue (schemaVersion : Int) (longLeg shortLeg : ExactLegQuoteDemandLeg) : Option Text :=
  if schemaVersion = schemaV1 && (longLeg.right ≠ call || shortLeg.right ≠ call) then
    some "v1_leg_right_invalid".toList
  else if longLeg.right ≠ shortLeg.right then some "leg_right_mismatch".toList
  else if longLeg.contractId = shortLeg.contractId || longLeg.strike = shortLeg.strike then
    some "legs_not_distinct".toList
  else if longLeg.right = call && shortLeg.strike ≤ longLeg.strike then
    some "call_spread_order_invalid".toList
  else if longLeg.right = put && longLeg.strike ≤ shortLeg.strike then
    some "put_spread_order_invalid".toList
  else none

def timesIssue : Option Text :=
  if !isSessionDate demand.sessionDate then some "time_or_session_invalid".toList
  else if demand.updatedAt < demand.createdAt then some "created_after_updated".toList
  else if demand.validUntil ≤ demand.updatedAt then some "valid_until_not_after_updated".toList
  else if quoteDemandMaxLeaseSeconds * 1000000 < demand.validUntil - demand.updatedAt then
    some "lease_too_long".toList
  else none

/-- What is wrong with the source, once its envelope is in order. -/
def sourceIssue : Option Text :=
  if !equalsText (get "kind".toList demand.coordinate) "raw_es".toList then
    some "source_coordinate_invalid".toList
  else if !(expectedSourcePrefixes demand.status demand.schemaVersion).any
      (·.isPrefixOf demand.sourcePolicyVersion) then
    some "source_policy_incompatible".toList
  else if !equalsText (get "provider".toList demand.coordinate)
      demand.sourceProvider then
    some "source_provider_mismatch".toList
  else if demand.blockReasons ≠ [] then some "source_blocked".toList
  else if demand.automaticOrdering then some "automatic_ordering_enabled".toList
  else none

/-- What is wrong before the source is looked at. -/
def headerIssue : Option Text :=
  if !quoteDemandStatuses.contains demand.status then some "status_invalid".toList
  else if (expectedPolicyVersion py demand.schemaVersion).isNone then
    some "schema_version_mismatch".toList
  else if some demand.policyVersion ≠ expectedPolicyVersion py demand.schemaVersion then
    some "policy_version_mismatch".toList
  else if demand.quoteProvider ≠ "ibkr".toList then some "quote_provider_mismatch".toList
  else none

/-- The first issue, or what follows. -/
def orIssue (issue : Option Text) (rest : Except PyError (Option Text)) :
    Except PyError (Option Text) :=
  match issue with
  | some reason => .ok (some reason)
  | none => rest

/-- The legs, each against the leg that its own document determines. -/
def legContractsIssue : Except PyError (Option Text) :=
  if demand.longLeg.role ≠ "long".toList || demand.shortLeg.role ≠ "short".toList then
    .ok (some "leg_roles_invalid".toList)
  else if demand.longLeg.expiry ≠ demand.sessionDate ||
      demand.shortLeg.expiry ≠ demand.sessionDate then
    .ok (some "leg_expiry_mismatch".toList)
  else do
    let long ← parseLeg demand.schemaVersion (.object demand.longLeg.toDict)
    if long ≠ demand.longLeg then .ok (some "leg_contract_invalid".toList)
    else do
      let short ← parseLeg demand.schemaVersion (.object demand.shortLeg.toDict)
      if short ≠ demand.shortLeg then .ok (some "leg_contract_invalid".toList)
      else .ok (legsIssue demand.schemaVersion demand.longLeg demand.shortLeg)

/-- The issue of a demand whose legs are in order: its id is not the one it hashes to. -/
def idIssue : Option Text :=
  if demand.demandId = demandId py demand.eventId demand.sessionDate demand.sourcePolicyVersion
      demand.sourceProvider demand.longLeg demand.shortLeg then none
  else some "demand_id_mismatch".toList

/-- `_demand_issue`. -/
def demandIssue : Except PyError (Option Text) :=
  orIssue (headerIssue py demand) do
    let issues ← strategyContractIssues py demand.sourceContract true true
    if issues ≠ [] then .ok (some "source_contract_invalid".toList)
    else
      orIssue (sourceIssue demand) <| orIssue (timesIssue demand) do
        let issue ← legContractsIssue demand
        orIssue issue (.ok (idIssue py demand))

/-! ## Building -/

structure DemandRequest where
  eventId : Text
  status : Text
  sessionDate : Text
  longStrike : Option JsonValue
  shortStrike : Option JsonValue
  right : Text := call
  createdAt : Instant
  updatedAt : Instant
  validUntil : Instant
  sourceSchemaVersion : Int
  sourcePolicyVersion : Text
  sourceProvider : Text
  coordinate : Members
  blockReasons : Option JsonValue

/-- The demand of a request, before it is checked. -/
def assembleDemand (request : DemandRequest) : Except PyError ExactLegQuoteDemand := do
  let expiry ← validSessionDate (some (.string request.sessionDate))
  let longLeg ← buildLeg "long".toList expiry request.longStrike request.right
  let shortLeg ← buildLeg "short".toList expiry request.shortStrike request.right
  let eventId ← requiredString (some (.string request.eventId))
  let sourcePolicy ← requiredString (some (.string request.sourcePolicyVersion))
  let sourceProvider ← requiredString (some (.string request.sourceProvider))
  let coordinate ← normalizeCoordinate py request.coordinate
  .ok {
    schemaVersion := schemaV2
    demandId := demandId py eventId expiry sourcePolicy sourceProvider longLeg shortLeg
    eventId
    status := request.status
    createdAt := request.createdAt
    updatedAt := request.updatedAt
    validUntil := request.validUntil
    sessionDate := expiry
    policyVersion := quoteDemandPolicyVersion py
    sourceSchemaVersion := request.sourceSchemaVersion
    sourcePolicyVersion := sourcePolicy
    sourceProvider
    quoteProvider := "ibkr".toList
    coordinate
    blockReasons := normalizeBlockReasons request.blockReasons
    automaticOrdering := false
    longLeg
    shortLeg }

/-- `build_exact_leg_quote_demand`. -/
def buildExactLegQuoteDemand (request : DemandRequest) : Except PyError ExactLegQuoteDemand := do
  let demand ← assembleDemand py request
  match ← demandIssue py demand with
  | some _ => .error .valueError
  | none => .ok demand

/-! ## Parsing -/

/-- `schema_version`, where it is an integer and one of the two. -/
def supportedSchema (payload : Members) : Option Int :=
  ((get "schema_version".toList payload).bind int?).filter fun version =>
    version = schemaV1 || version = schemaV2

def rawLegs (payload : Members) : Option (JsonValue × JsonValue) :=
  match (get "legs".toList payload).bind array? with
  | some [long, short] => some (long, short)
  | _ => none

/-- The demand that a payload's fields spell. -/
def readDemand (schemaVersion : Int) (legs : JsonValue × JsonValue) (payload : Members) :
    Except PyError ExactLegQuoteDemand := do
  let longLeg ← parseLeg schemaVersion legs.1
  let shortLeg ← parseLeg schemaVersion legs.2
  let demandId ← requiredString (get "demand_id".toList payload)
  let eventId ← requiredString (get "event_id".toList payload)
  let status ← requiredString (get "status".toList payload)
  let createdAt ← parseTime py (get "created_at".toList payload)
  let updatedAt ← parseTime py (get "updated_at".toList payload)
  let validUntil ← parseTime py (get "valid_until".toList payload)
  let sessionDate ← validSessionDate (get "session_date".toList payload)
  let policyVersion ← requiredString (get "policy_version".toList payload)
  let sourceSchemaVersion ← requiredInt (get "source_schema_version".toList payload)
  let sourcePolicyVersion ← requiredString (get "source_policy_version".toList payload)
  let sourceProvider ← requiredString (get "source_provider".toList payload)
  let quoteProvider ← requiredString (get "quote_provider".toList payload)
  let coordinate ← requiredMapping (get "coordinate".toList payload)
  let blockReasons ← requiredBlockReasons (get "block_reasons".toList payload)
  let automaticOrdering ← requiredBool (get "automatic_ordering".toList payload)
  .ok {
    schemaVersion, demandId, eventId, status, createdAt, updatedAt, validUntil, sessionDate,
    policyVersion, sourceSchemaVersion, sourcePolicyVersion, sourceProvider, quoteProvider,
    coordinate, blockReasons, automaticOrdering, longLeg, shortLeg }

/-- What the parser returns: a demand, or a reason. -/
abbrev Parsed := Option ExactLegQuoteDemand × Option Text

def refused (reason : String) : Parsed := (none, some reason.toList)

/-- A demand that was read, at a time. -/
def admitDemandAt (now : Instant) : Parsed :=
  if now + quoteDemandMaxFutureSkewSeconds * 1000000 < demand.updatedAt then
    refused "updated_at_in_future"
  else if demand.validUntil ≤ now then refused "expired"
  else (some demand, none)

/-- The body of `parse_exact_leg_quote_demand`, which may raise. -/
def parseBody (payload : Members) (now : Instant) : Except PyError Parsed :=
  match supportedSchema payload with
  | none => .ok (refused "schema_version_mismatch")
  | some schemaVersion =>
    let kind := get "kind".toList payload
    if equalsText kind quoteDemandTombstoneKind then .ok (refused "tombstone")
    else if !equalsText kind quoteDemandKind then .ok (refused "kind_mismatch")
    else if !hasNames demandFields payload then .ok (refused "fields_invalid")
    else
      match rawLegs payload with
      | none => .ok (refused "legs_invalid")
      | some legs => do
          let demand ← readDemand py schemaVersion legs payload
          match ← demandIssue py demand with
          | some issue => .ok (none, some issue)
          | none => .ok (admitDemandAt demand now)

def parserCatches : PyError → Bool
  | .typeError | .valueError | .overflowError => true

/-- `parse_exact_leg_quote_demand`. -/
def parseExactLegQuoteDemand (payload : Members) (now : Instant) : Except PyError Parsed :=
  match parseBody py payload now with
  | .ok parsed => .ok parsed
  | .error error => if parserCatches error then .ok (refused "malformed") else .error error

end SpxSpark.Ibkr.QuoteDemand
