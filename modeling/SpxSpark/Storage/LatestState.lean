import Mathlib.Data.List.Sort
import SpxSpark.Lib.Calendar
import SpxSpark.Storage.OptionMerge

/-!
# LatestState — the file with the latest rows, and who touches it when

`update` and `purge_provider_quotes` read the file, compute the next one and replace it under a
lock. `load` takes no lock.
-/

namespace SpxSpark.Storage

open Lib

/-! ## Rows -/

/-- What the store asks of Python, of the calendar and of the freshness rules. -/
structure StoreTools where
  reader : RawReader
  /-- The quality that `degrade_stale_quote` leaves a row with. -/
  agedQuality : Instant → Quote → MarketDataQuality
  /-- `research_expiry`, as a number of days. -/
  researchExpiry : Instant → Int
  /-- `str.isdigit` of one character. -/
  isdigit : Char → Bool
  /-- `int(text)`, where that does not raise. -/
  int : Text → Option Int

/-- One row for each instrument and provider. -/
def SameKey (a b : Quote) : Prop :=
  a.instrument.canonicalId = b.instrument.canonicalId ∧ a.provider = b.provider

instance (a b : Quote) : Decidable (SameKey a b) := inferInstanceAs (Decidable (_ ∧ _))

/-- `date(year, month, day)`, where that does not raise. -/
def pythonDate (date : Calendar.CivilDate) : Option Int :=
  if 1 ≤ date.year then Calendar.ofCivil date else none

variable (tools : StoreTools)

/-- `parse_option_expiry_date`. -/
def parseOptionExpiryDate (expiry : Option Text) : Option Int :=
  expiry.bind fun expiry =>
    let text := stripChars expiry
    if 8 ≤ text.length && (text.take 8).all tools.isdigit then
      (tools.int (text.take 4)).bind fun year =>
        (tools.int ((text.drop 4).take 2)).bind fun month =>
          (tools.int ((text.drop 6).take 2)).bind fun day => pythonDate { year, month, day }
    else if Calendar.hasDateShape (text.take 10) then
      (Calendar.parseDate (text.take 10)).filter fun day => 1 ≤ (Calendar.civilOfDay day).year
    else none

/-- An option row before the active expiry. -/
def isExpired (now : Instant) (quote : Quote) : Bool :=
  quote.instrument.isOption &&
    (parseOptionExpiryDate tools quote.instrument.expiry).any
      fun day => decide (day < tools.researchExpiry now)

/-- `prune_expired_option_quotes`. -/
def pruneExpiredOptionQuotes (now : Instant) (quotes : List Quote) : List Quote :=
  quotes.filter fun quote => !isExpired tools now quote

/-- `degrade_stale_quote`, which may lower the quality of a row. -/
def degradeStaleQuote (now : Instant) (quote : Quote) : Quote :=
  { quote with quality := tools.agedQuality now quote }

/-- The row of one key after another observation. -/
def latestOfTwo (previous quote : Quote) : Except MergeError Quote :=
  if quote.instrument.isOption && previous.instrument.isOption then
    mergeOptionObservations tools.reader previous quote
  else if previous.receivedAt ≤ quote.receivedAt then .ok quote
  else .ok previous

/-- One observation, into the rows by key. -/
def noteLatest (result : List Quote) (quote : Quote) : Except MergeError (List Quote) :=
  match result with
  | [] => .ok [quote]
  | row :: rest =>
    if SameKey row quote then (latestOfTwo tools row quote).map (· :: rest)
    else (noteLatest rest quote).map (row :: ·)

/-- `latest_by_provider`. -/
def latestByProvider (quotes : List Quote) : Except MergeError (List Quote) :=
  quotes.foldlM (noteLatest tools) []

/-! ## What the file keeps of a row -/

def provenanceParts : List String :=
  ["provider", "sampling_mode", "market_data_type", "explicit_delayed", "live_entitlement",
    "live_entitlement_source", "observed_at"]

def provenanceKeys : List Text :=
  Field.pricing.key "source_at" ::
    [Field.pricing, .greeks, .openInterest].flatMap fun field => provenanceParts.map field.key

def isScalar : JsonValue → Bool
  | .array _ | .object _ => false
  | _ => true

/-- `implied_vol_in_valid_range`. -/
def impliedVolInValidRange (value : Option ℚ) : Option ℚ :=
  value.filter fun value => decide (0 < value) && decide (value ≤ 10)

/-- `quote_from_dict(quote.to_dict())`: of `raw` only the provenance is kept. -/
def Quote.stored (quote : Quote) : Quote :=
  { quote with
    greeks := quote.greeks.map fun greeks =>
      { greeks with impliedVol := impliedVolInValidRange greeks.impliedVol }
    raw := quote.raw.restrict fun key value => provenanceKeys.contains key && isScalar value }

/-! ## Calls -/

structure Update where
  incoming : List Quote
  now : Instant
  replaceProviders : List Provider := []

inductive Call
  | load (now : Instant)
  | update (batch : Update)
  | purge (provider : Provider) (now : Instant)

def Call.now : Call → Instant
  | .load now => now
  | .update batch => batch.now
  | .purge _ now => now

/-- A reader takes no lock. -/
def Call.locks : Call → Bool
  | .load _ => false
  | _ => true

/-- What a call makes of the rows of a readable file, and the option rows that it left out. -/
structure Rows where
  quotes : List Quote := []
  pruned : List Quote := []

/-- `load` of a readable file. A purge does not look at freshness. -/
def loadRows (call : Call) (stored : List Quote) : Rows where
  quotes := match call with
    | .purge _ now => pruneExpiredOptionQuotes tools now stored
    | _ => (pruneExpiredOptionQuotes tools call.now stored).map (degradeStaleQuote tools call.now)
  pruned := stored.filter (isExpired tools call.now)

/-- `quote_sort_key`. -/
def sortsBefore (a b : Quote) : Prop :=
  a.instrument.canonicalId < b.instrument.canonicalId ∨
    a.instrument.canonicalId = b.instrument.canonicalId ∧ a.provider.value ≤ b.provider.value

instance (a b : Quote) : Decidable (sortsBefore a b) := inferInstanceAs (Decidable (_ ∨ _))

/-- The latest rows by key, pruned, aged and sorted. -/
def agedRows (batch : Update) (loaded : Rows) (latest : List Quote) : Rows where
  quotes := ((pruneExpiredOptionQuotes tools batch.now latest).map
    (degradeStaleQuote tools batch.now)).insertionSort sortsBefore
  pruned := loaded.pruned ++ latest.filter (isExpired tools batch.now)

/-- The rows that `update` writes over those it loaded. -/
def updateRows (batch : Update) (loaded : Rows) : Except MergeError Rows :=
  let existing := loaded.quotes.filter fun quote => !batch.replaceProviders.contains quote.provider
  (latestByProvider tools (existing ++ batch.incoming)).map (agedRows tools batch loaded)

/-- The rows that `purge_provider_quotes` writes. -/
def purgeRows (provider : Provider) (loaded : Rows) : Rows where
  quotes := (loaded.quotes.filter fun quote => quote.provider ≠ provider).insertionSort sortsBefore
  pruned := loaded.pruned

/-- The rows that a writer writes. -/
def Call.rows (call : Call) (loaded : Rows) : Except MergeError Rows :=
  match call with
  | .load _ => .ok loaded
  | .update batch => updateRows tools batch loaded
  | .purge provider _ => .ok (purgeRows provider loaded)

/-! ## Processes -/

/-- What stands under the name of the state file. -/
inductive Content
  /-- Not JSON. -/
  | unreadable
  /-- Reading it raises something that `load` does not catch. -/
  | raises
  | state (quotes : List Quote)

def Content.isState : Content → Bool
  | .state _ => true
  | _ => false

/-- Where a process is in its call. -/
inductive Phase
  /-- Before `flock`. -/
  | waiting
  /-- Before `path.exists()`. -/
  | checking
  /-- Before `path.read_text()`. -/
  | reading
  /-- Reading failed when so many files had been written; the rename is next. -/
  | failed (writes : Nat)
  | loaded (rows : Rows)
  | written

structure Process where
  call : Call
  phase : Phase

abbrev Pid := Nat

structure World where
  file : Option Content
  lock : Option Pid := none
  processes : Pid → Option Process := fun _ => none
  /-- How many files have been written so far; nobody reads it. -/
  writes : Nat := 0

inductive Action
  | begins (pid : Pid) (call : Call)
  | locks (pid : Pid)
  | checks (pid : Pid)
  | reads (pid : Pid)
  /-- Reading raises `OSError`. -/
  | readFails (pid : Pid)
  | renames (pid : Pid)
  /-- The rename raises `OSError`. -/
  | renameFails (pid : Pid)
  | writes (pid : Pid)
  | returns (pid : Pid)
  /-- The process is stopped, or its call raises. -/
  | stops (pid : Pid)

inductive Answer
  /-- The process is not at that step. -/
  | refused
  | done
  /-- The call raised what `load` does not catch. -/
  | raised
  /-- That content was moved aside. -/
  | renamed (content : Content)
  | wrote (call : Call) (pruned : List Quote)
  | returned
  | loaded (rows : Rows)

variable (w : World) (pid : Pid)

def World.setPhase (call : Call) (phase : Phase) : World :=
  { w with processes := Function.update w.processes pid (some { call, phase }) }

/-- The call is over, and the lock is free again if the process held it. -/
def World.leave : World :=
  { w with
    processes := Function.update w.processes pid none
    lock := if w.lock = some pid then none else w.lock }

def stepBegins (call : Call) : Answer × World :=
  match w.processes pid with
  | some _ => (.refused, w)
  | none => (.done, w.setPhase pid call (if call.locks then .waiting else .checking))

def stepLocks : Answer × World :=
  match w.processes pid, w.lock with
  | some ⟨call, .waiting⟩, none => (.done, { w.setPhase pid call .checking with lock := some pid })
  | _, _ => (.refused, w)

def stepChecks : Answer × World :=
  match w.processes pid with
  | some ⟨call, .checking⟩ =>
    match w.file with
    | none => (.done, w.setPhase pid call (.loaded {}))
    | some _ => (.done, w.setPhase pid call .reading)
  | _ => (.refused, w)

def stepReads : Answer × World :=
  match w.processes pid with
  | some ⟨call, .reading⟩ =>
    match w.file with
    -- the file is gone since it was looked for
    | none => (.done, w.setPhase pid call (.failed w.writes))
    | some .unreadable => (.done, w.setPhase pid call (.failed w.writes))
    | some .raises => (.raised, w.leave pid)
    | some (.state quotes) => (.done, w.setPhase pid call (.loaded (loadRows tools call quotes)))
  | _ => (.refused, w)

def stepReadFails : Answer × World :=
  match w.processes pid with
  | some ⟨call, .reading⟩ => (.done, w.setPhase pid call (.failed w.writes))
  | _ => (.refused, w)

/-- `_quarantine_corrupt_state`: what stands under the name now is moved aside. -/
def stepRenames : Answer × World :=
  match w.processes pid with
  | some ⟨call, .failed _⟩ =>
    match w.file with
    | none => (.done, w.setPhase pid call (.loaded {}))
    | some content =>
      (.renamed content, { w.setPhase pid call (.loaded {}) with file := none })
  | _ => (.refused, w)

def stepRenameFails : Answer × World :=
  match w.processes pid with
  | some ⟨call, .failed _⟩ => (.done, w.setPhase pid call (.loaded {}))
  | _ => (.refused, w)

def stepWrites : Answer × World :=
  match w.processes pid with
  | some ⟨call, .loaded loaded⟩ =>
    if call.locks then
      match call.rows tools loaded with
      | .error _ => (.raised, w.leave pid)
      | .ok rows =>
        (.wrote call rows.pruned,
          { w.setPhase pid call .written with
            file := some (.state (rows.quotes.map Quote.stored))
            writes := w.writes + 1 })
    else (.refused, w)
  | _ => (.refused, w)

def stepReturns : Answer × World :=
  match w.processes pid with
  | some ⟨_, .written⟩ => (.returned, w.leave pid)
  | some ⟨call, .loaded rows⟩ =>
    if call.locks then (.refused, w) else (.loaded rows, w.leave pid)
  | _ => (.refused, w)

def storeStep (w : World) : Action → Answer × World
  | .begins pid call => stepBegins w pid call
  | .locks pid => stepLocks w pid
  | .checks pid => stepChecks w pid
  | .reads pid => stepReads tools w pid
  | .readFails pid => stepReadFails w pid
  | .renames pid => stepRenames w pid
  | .renameFails pid => stepRenameFails w pid
  | .writes pid => stepWrites tools w pid
  | .returns pid => stepReturns w pid
  | .stops pid => (.done, w.leave pid)

/-- The state file, whatever is in it, and no call under way. -/
def World.start (file : Option Content) : World := { file }

end SpxSpark.Storage
