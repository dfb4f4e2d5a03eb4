import Mathlib.Data.Char
import Mathlib.Data.List.Lex
import Mathlib.Data.List.Sort
import SpxSpark.Lib.Calendar
import SpxSpark.Lib.DictParts
import SpxSpark.Lib.JsonValue
import SpxSpark.Lib.Text

/-!
# OptionConIdCache — the durable contract ids of same-session SPXW options

The collector keeps the ids that IBKR gave for exact SPXW contracts, in memory and in one file.
-/

namespace SpxSpark.Ibkr.ConIdCache

open Lib
open JsonValue (array? get hasNames)

/-! ## Contracts and what is kept of them -/

def cacheKind : Text := "ibkr_spxw_conids".toList

def cacheProvider : Text := "ibkr".toList

def cacheSchemaVersion : Int := 2

def maxCacheEntries : Nat := 512

def maxActiveExpiries : Nat := 2

structure CachedSpxwContract where
  label : Text
  conId : Int
  expiry : Text
  strike : Int
  right : Text
  deriving DecidableEq

/-- The attributes of a contract: its id where that is an `int`, its strike where that is a finite
number, and the others as `str(value or "")`. -/
structure IbkrContract where
  conId : Option Int
  strike : Option ℚ
  right : Text
  secType : Text
  symbol : Text
  lastTradeDateOrContractMonth : Text
  exchange : Text
  currency : Text
  multiplier : Text
  tradingClass : Text

/-- The parts of `str` that depend on the Unicode tables, and the reader of timestamps. -/
structure PyText where
  upper : Text → Text
  isdigit : Text → Bool
  /-- `int(text)`, which may raise. -/
  int : Text → Option Int
  /-- An aware timestamp, as `datetime.fromisoformat` reads it. -/
  validTimestamp : Text → Bool

/-- `_valid_expiry`: an existing day, written `YYYYMMDD`; the year is not padded when it is written
back, so it has four digits of its own. -/
def validExpiry (value : Text) : Bool :=
  let year : Int := Calendar.digitsValue (value.take 4)
  let month : Int := Calendar.digitsValue ((value.drop 4).take 2)
  let day : Int := Calendar.digitsValue (value.drop 6)
  decide (value.length = 8) && value.all Char.isDigit && decide (1000 ≤ year) &&
    (Calendar.ofCivil ⟨year, month, day⟩).isSome

/-- `f"option:SPXW:{expiry}:{strike}:{right}"`. -/
def spxwLabel (expiry : Text) (strike : Int) (right : Text) : Text :=
  [':'].intercalate
    ["option".toList, "SPXW".toList, expiry, (toString strike).toList, right]

def isRight (right : Text) : Bool := right = ['C'] || right = ['P']

/-- What ends a call early: `int` of digits that are no decimal digits. -/
inductive PyError
  | valueError
  deriving DecidableEq

variable (py : PyText)

/-- `_parse_label`. -/
def parseLabel (label : Text) : Except PyError (Option (Text × Int × Text)) :=
  match label.splitOn ':' with
  | [option, spxw, expiry, strikeText, right] =>
    if option ≠ "option".toList || spxw ≠ "SPXW".toList then .ok none
    else if !validExpiry expiry || !py.isdigit strikeText || !isRight right then .ok none
    else
      match py.int strikeText with
      | none => .error .valueError
      | some strike =>
        if 0 < strike && (toString strike).toList = strikeText then
          .ok (some (expiry, strike, right))
        else .ok none
  | _ => .ok none

/-- `_text`. -/
def text (value : Text) : Text := py.upper (stripChars value)

/-- `_integer_strike`. -/
def integerStrike (value : Option ℚ) : Option Int :=
  value.bind fun strike => if 0 < strike && strike.den = 1 then some strike.num else none

/-- `_is_strict_spxw_contract`. -/
def isStrictSpxwContract (contract : IbkrContract) (expectedExpiry : Text) : Bool :=
  text py contract.secType = "OPT".toList &&
    text py contract.symbol = "SPX".toList &&
    text py contract.lastTradeDateOrContractMonth = expectedExpiry &&
    text py contract.exchange = "SMART".toList &&
    text py contract.currency = "USD".toList &&
    stripChars contract.multiplier = "100".toList &&
    text py contract.tradingClass = "SPXW".toList

/-- `_record_from_contract`. -/
def recordFromContract (label kind : Text) (contract : IbkrContract) (expectedExpiry : Text) :
    Except PyError (Option CachedSpxwContract) := do
  let parsed ← parseLabel py label
  match parsed, integerStrike contract.strike, contract.conId with
  | some (expiry, strike, right), some contractStrike, some conId =>
    if kind = "option".toList &&
        (expiry, strike, right) = (expectedExpiry, contractStrike, text py contract.right) &&
        0 < conId && isStrictSpxwContract py contract expectedExpiry then
      .ok (some ⟨label, conId, expectedExpiry, contractStrike, right⟩)
    else .ok none
  | _, _, _ => .ok none

/-- `_contract_matches_record`. -/
def contractMatchesRecord (contract : IbkrContract) (record : CachedSpxwContract) : Bool :=
  parseLabel py record.label = .ok (some (record.expiry, record.strike, record.right)) &&
    integerStrike contract.strike = some record.strike &&
    text py contract.right = record.right &&
    isStrictSpxwContract py contract record.expiry

/-! ## The file -/

abbrev Entries := Dict Text CachedSpxwContract

/-- A `frozenset` of expiries is taken as its sorted list. -/
abbrev Expiries := List Text

structure CacheState where
  activeExpiries : Expiries
  entries : Entries

/-- `_normalize_expiries`. -/
def normalizeExpiries (values : List Text) : Option Expiries :=
  if values = [] || maxActiveExpiries < values.length ||
    values.any (fun value => !validExpiry value) ||
      !decide values.Nodup then none
  else some (values.insertionSort (· ≤ ·))

/-- `_retain_expiries`. -/
def retainExpiries (entries : Entries) (allowed : Expiries) : Entries :=
  entries.restrict fun _ record => decide (record.expiry ∈ allowed)

def rootKeys : List Text :=
  ["schema_version".toList, "cache_kind".toList, "provider".toList, "active_expiries".toList,
    "updated_at".toList, "contracts".toList]

def contractKeys : List Text :=
  ["label".toList, "con_id".toList, "sec_type".toList, "symbol".toList, "expiry".toList,
    "strike".toList, "right".toList, "exchange".toList, "currency".toList, "multiplier".toList,
    "trading_class".toList]

/-- `CachedSpxwContract.to_dict`. -/
def CachedSpxwContract.toDict (record : CachedSpxwContract) : JsonValue :=
  .object [
    ("label".toList, .string record.label),
    ("con_id".toList, .int record.conId),
    ("sec_type".toList, .string "OPT".toList),
    ("symbol".toList, .string "SPX".toList),
    ("expiry".toList, .string record.expiry),
    ("strike".toList, .int record.strike),
    ("right".toList, .string record.right),
    ("exchange".toList, .string "SMART".toList),
    ("currency".toList, .string "USD".toList),
    ("multiplier".toList, .string "100".toList),
    ("trading_class".toList, .string "SPXW".toList)]

/-- `sorted(entries)`. -/
def sortedLabels (entries : Entries) : List Text := entries.keys.insertionSort (· ≤ ·)

/-- `_payload`. -/
def payload (activeExpiries : Expiries) (entries : Entries) (updatedAt : Text) : JsonValue :=
  .object [
    ("schema_version".toList, .int cacheSchemaVersion),
    ("cache_kind".toList, .string cacheKind),
    ("provider".toList, .string cacheProvider),
    ("active_expiries".toList, .array (activeExpiries.map .string)),
    ("updated_at".toList, .string updatedAt),
    ("contracts".toList,
      .array ((sortedLabels entries).filterMap fun label =>
        (entries.lookup label).map CachedSpxwContract.toDict))]

def fieldIs (name : Text) (expected : Text) (members : List (Text × JsonValue)) : Bool :=
  (get name members).bind JsonValue.text? = some expected

/-- `_record_from_payload`. -/
def recordFromPayload (raw : JsonValue) (activeExpiries : Expiries) :
    Option CachedSpxwContract := do
  let members ← raw.object?
  if !hasNames contractKeys members then none
  else do
    let conId ← (get "con_id".toList members).bind JsonValue.int?
    let strike ← (get "strike".toList members).bind JsonValue.int?
    let right ← (get "right".toList members).bind JsonValue.text?
    let label ← (get "label".toList members).bind JsonValue.text?
    let expiry ← (get "expiry".toList members).bind JsonValue.text?
    if 0 < conId && 0 < strike && isRight right && decide (expiry ∈ activeExpiries) &&
        label = spxwLabel expiry strike right &&
        fieldIs "sec_type".toList "OPT".toList members &&
        fieldIs "symbol".toList "SPX".toList members &&
        fieldIs "exchange".toList "SMART".toList members &&
        fieldIs "currency".toList "USD".toList members &&
        fieldIs "multiplier".toList "100".toList members &&
        fieldIs "trading_class".toList "SPXW".toList members then
      some ⟨label, conId, expiry, strike, right⟩
    else none

/-- One contract of the file is added to those read before it, unless its label or its id is
there. -/
def readContract (activeExpiries : Expiries) (entries : Entries) (raw : JsonValue) :
    Option Entries := do
  let record ← recordFromPayload raw activeExpiries
  if record.label ∈ entries || entries.entries.any (fun entry => entry.2.conId = record.conId) then
    none
  else some (entries.insert record.label record)

/-- `_parse_payload`. -/
def parsePayload (value : JsonValue) : Option CacheState := do
  let members ← value.object?
  if !hasNames rootKeys members then none
  else do
    let schemaVersion ← (get "schema_version".toList members).bind JsonValue.int?
    let updatedAt ← (get "updated_at".toList members).bind JsonValue.text?
    let activeRaw ← (get "active_expiries".toList members).bind array?
    let contracts ← (get "contracts".toList members).bind array?
    if schemaVersion ≠ cacheSchemaVersion || !fieldIs "cache_kind".toList cacheKind members ||
        !fieldIs "provider".toList cacheProvider members || !py.validTimestamp updatedAt then none
    else do
      let values ← activeRaw.mapM JsonValue.text?
      let activeExpiries ← normalizeExpiries values
      if values ≠ activeExpiries || maxCacheEntries < contracts.length then none
      else do
        let entries ← contracts.foldlM (readContract activeExpiries) ∅
        some ⟨activeExpiries, entries⟩

/-- What stands at the path; a file that does not decode has no document. -/
inductive CacheFile
  | absent
  | undecodable
  | document (value : JsonValue)

def CacheFile.exists : CacheFile → Bool
  | .absent => false
  | .undecodable | .document _ => true

/-- `_load_state`. -/
def loadState : CacheFile → Option CacheState
  | .absent | .undecodable => none
  | .document value => parsePayload py value

/-! ## The cache of one process -/

/-- How a locked write ends. It can fail before the file is replaced, or after, on the mode. -/
inductive Attempt
  | lockTimeout
  | writeFails
  | modeFails
  | succeeds
  deriving DecidableEq

/-- The write replaces the file. -/
def Attempt.replaces : Attempt → Bool
  | .lockTimeout | .writeFails => false
  | .modeFails | .succeeds => true

/-- A try to write, at the time that it stamps on the file. -/
structure Write where
  attempt : Attempt
  updatedAt : Text
  stamped : py.validTimestamp updatedAt = true

/-- The file, what the process holds, and everything written so far. -/
structure SpxwConIdCache where
  file : CacheFile := .absent
  activeExpiries : Expiries := []
  entries : Entries := ∅
  written : List (JsonValue × CacheState) := []

variable (cache : SpxwConIdCache)

/-- `atomic_write_json_secure(path, _payload(active_expiries, entries))`. -/
def SpxwConIdCache.replaceFile (write : Write py) (activeExpiries : Expiries) (entries : Entries) :
    SpxwConIdCache :=
  if write.attempt.replaces then
    let document := payload activeExpiries entries write.updatedAt
    { cache with
      file := .document document
      written := cache.written ++ [(document, ⟨activeExpiries, entries⟩)] }
  else cache

/-- `_replace_state`. -/
def replaceState (write : Write py) (allowed : Expiries) : Option Entries × SpxwConIdCache :=
  let retained := ((loadState py cache.file).map fun state =>
    retainExpiries state.entries allowed).getD ∅
  (if write.attempt = .succeeds then some retained else none,
    cache.replaceFile py write allowed retained)

/-- `prepare`. -/
def prepare (expiries : List Text) (write : Write py) : Nat × SpxwConIdCache :=
  match normalizeExpiries expiries with
  | none => (0, cache)
  | some allowed =>
    if cache.activeExpiries = allowed then (cache.entries.size, cache)
    else
      let state := loadState py cache.file
      let retained := (state.map fun state => retainExpiries state.entries allowed).getD ∅
      let rewrite := (state.map fun state =>
        decide (state.activeExpiries ≠ allowed) || retained.size ≠ state.entries.size).getD
          cache.file.exists
      let loaded := { cache with activeExpiries := allowed, entries := retained }
      if rewrite then
        let (replacement, replaced) := replaceState py loaded write allowed
        let entries := replacement.getD retained
        (entries.size, { replaced with entries := entries })
      else (retained.size, loaded)

/-- `cached_con_id`. -/
def cachedConId (label : Text) (contract : IbkrContract) (expiry : Text) : Option Int :=
  if expiry ∉ cache.activeExpiries then none
  else
    match cache.entries.lookup label with
    | none => none
    | some record =>
      if record.expiry ≠ expiry || !contractMatchesRecord py contract record then none
      else some record.conId

/-- The contract ids of the entries differ. -/
def distinctConIds (entries : Entries) : Bool :=
  decide (entries.entries.map fun entry => entry.2.conId).Nodup

/-- The valid contracts of a call; of two with one label the last counts. -/
def additionsOf (definitions : List (Text × Text × IbkrContract)) (expiry : Text) :
    Except PyError Entries :=
  definitions.foldlM (fun additions definition => do
    let record ← recordFromContract py definition.1 definition.2.1 definition.2.2 expiry
    match record with
    | none => .ok additions
    | some record => .ok (additions.insert definition.1 record)) ∅

/-- The buckets are prepared for the expiry of a call where none are. -/
def prepareFor (expiry : Text) (write : Write py) : SpxwConIdCache :=
  if cache.activeExpiries = [] then (prepare py cache [expiry] write).2 else cache

/-- What a locked section starts from: the file's part in use, or the memory where the file does not
load. -/
def durableEntries : Entries :=
  ((loadState py cache.file).map fun state =>
    retainExpiries state.entries cache.activeExpiries).getD cache.entries

/-- The locked section of `remember`: the answer, and whether the additions are kept. -/
def mergeAdditions (additions : Entries) (write : Write py) : (Nat × Bool) × SpxwConIdCache :=
  let durable := durableEntries py cache
  let changed := additions.entries.countP fun entry =>
    decide (durable.lookup entry.1 ≠ some entry.2)
  let merged := durable.update additions
  if write.attempt = .lockTimeout then ((0, false), cache)
  else if changed = 0 then ((0, true), { cache with entries := durable })
  else if maxCacheEntries < merged.size || !distinctConIds merged then ((0, false), cache)
  else
    let replaced := cache.replaceFile py write cache.activeExpiries merged
    if write.attempt = .succeeds then ((changed, true), { replaced with entries := merged })
    else ((0, write.attempt.replaces), replaced)

/-- `remember`. -/
def remember (definitions : List (Text × Text × IbkrContract)) (expiry : Text)
    (prepareWrite write : Write py) : Except PyError (Nat × Bool) × SpxwConIdCache :=
  if !validExpiry expiry then (.ok (0, false), cache)
  else
    match additionsOf py definitions expiry with
    | .error raised => (.error raised, cache)
    | .ok additions =>
      if additions.size = 0 || !distinctConIds additions then (.ok (0, false), cache)
      else
        let prepared := prepareFor py cache expiry prepareWrite
        if expiry ∉ prepared.activeExpiries then (.ok (0, false), prepared)
        else
          let (answer, merged) := mergeAdditions py prepared additions write
          (.ok answer, merged)

/-- The locked section of `evict`, after the label has left the memory. -/
def dropLabel (label : Text) (write : Write py) : Bool × SpxwConIdCache :=
  let durable := durableEntries py cache
  let existed := decide (label ∈ durable)
  let remaining := durable.erase label
  if write.attempt = .lockTimeout then (false, cache)
  else if existed || cache.file.exists then
    let replaced := cache.replaceFile py write cache.activeExpiries remaining
    if write.attempt = .succeeds then (existed, { replaced with entries := remaining })
    else (false, replaced)
  else (existed, { cache with entries := remaining })

/-- `evict`. -/
def evict (label expiry : Text) (prepareWrite write : Write py) : Bool × SpxwConIdCache :=
  if !validExpiry expiry then (false, cache)
  else
    let prepared := prepareFor py cache expiry prepareWrite
    if expiry ∉ prepared.activeExpiries then (false, prepared)
    else dropLabel py { prepared with entries := prepared.entries.erase label } label write

/-! ## Runs -/

inductive CacheCall
  | prepare (expiries : List Text) (write : Write py)
  | remember (definitions : List (Text × Text × IbkrContract)) (expiry : Text)
      (prepareWrite write : Write py)
  | evict (label expiry : Text) (prepareWrite write : Write py)
  | restart

inductive CacheAnswer
  | prepared (count : Nat)
  /-- The changed labels, and whether the contracts of the call are in the file afterwards. -/
  | remembered (changed : Nat) (kept : Bool)
  | raised (error : PyError)
  | evicted (existed : Bool)
  | restarted

def rememberAnswer : Except PyError (Nat × Bool) → CacheAnswer
  | .ok (changed, kept) => .remembered changed kept
  | .error raised => .raised raised

/-- One call. A restart leaves the file alone. -/
def cacheStep : CacheCall py → CacheAnswer × SpxwConIdCache
  | .prepare expiries write =>
    let (count, next) := prepare py cache expiries write
    (.prepared count, next)
  | .remember definitions expiry prepareWrite write =>
    let (result, next) := remember py cache definitions expiry prepareWrite write
    (rememberAnswer result, next)
  | .evict label expiry prepareWrite write =>
    let (existed, next) := evict py cache label expiry prepareWrite write
    (.evicted existed, next)
  | .restart => (.restarted, { cache with activeExpiries := [], entries := ∅ })

end SpxSpark.Ibkr.ConIdCache
