import Mathlib.Algebra.Order.Ring.Unbundled.Rat
import SpxSpark.Lib.DictParts
import SpxSpark.Lib.Run
import SpxSpark.Lib.Text

/-!
# FarmHealth — the status of the broker's data farms, and how long one is broken

The tracker keeps a status for each farm it was told of and a start time for each farm that is
broken, and derives from them one status, one start time, and whether the gateway is to be
restarted.
-/

namespace SpxSpark.Ibkr

open Lib

namespace Farm

/-! ## Classification -/

inductive FarmLinkStatus
  | ok
  | connecting
  | broken
  | unknown
  deriving DecidableEq

def farmOkCodes : List Int := [2104, 2106, 2158]

def farmConnectingCodes : List Int := [2119]

def farmBrokenCodes : List Int := [2103, 2110, 2157]

def twsConnectivityLostCodes : List Int := [1100, 2110]

def twsConnectivityRestoredCodes : List Int := [1101, 1102]

def dataFlowSilenceFarm : Text := "data-flow-silence".toList

def dataPlaneProbeFarm : Text := "data-plane-probe".toList

def unknownFarm : Text := "unknown-farm".toList

def twsServer : Text := "tws-server".toList

/-- `str.lower`, and the case folding of a character that `re.IGNORECASE` compares by. -/
structure CaseMapping where
  lower : Text → Text
  fold : Char → Char

/-- What `_FARM_NAME_RE` may start with. -/
def farmLeads : List Text :=
  ["market data farm is".toList, "market data farm connection is".toList,
    "hmds data farm connection is".toList, "sec-def data farm connection is".toList]

/-- A match after one of the leads: a blank, something without a colon, a colon, and the second
group. -/
def farmGroup (rest : Text) : Option Text :=
  match rest with
  | ' ' :: named =>
    match named.dropWhile (· ≠ ':') with
    | ':' :: tail =>
      let group := tail.takeWhile fun c => !isSpace c
      if named.takeWhile (· ≠ ':') = [] ∨ group = [] then none else some group
    | _ => none
  | _ => none

/-- `_FARM_NAME_RE.search`: the second group of the leftmost match. -/
def searchFarm (cases : CaseMapping) (message : Text) : Option Text :=
  message.tails.findSome? fun suffix =>
    farmLeads.findSome? fun lead =>
      if (suffix.take lead.length).map cases.fold = lead then farmGroup (suffix.drop lead.length)
      else none

def parseFarmName (cases : CaseMapping) (message : Text) : Option Text :=
  match searchFarm cases message with
  | some group => some (group.takeWhile (· ≠ '.'))
  | none =>
    if containsText "between trader workstation and server is broken".toList
        (cases.lower message) then some twsServer
    else if containsText "hmds data farm connection is inactive".toList (cases.lower message) then
      some "hmds".toList
    else none

def classifyFarmError (cases : CaseMapping) (errorCode : Int) (message : Text) :
    FarmLinkStatus × Option Text :=
  if errorCode ∈ twsConnectivityLostCodes then (.broken, some twsServer)
  else if errorCode ∈ twsConnectivityRestoredCodes then (.ok, some twsServer)
  else if errorCode ∈ farmOkCodes ∨
      containsText "connection is ok".toList (cases.lower message) then
    (.ok, parseFarmName cases message)
  else if errorCode ∈ farmConnectingCodes ∨
      containsText "is connecting".toList (cases.lower message) then
    (.connecting, parseFarmName cases message)
  else if errorCode ∈ farmBrokenCodes ∨ containsText "is broken".toList (cases.lower message) then
    (.broken, parseFarmName cases message)
  else if errorCode = 2110 then (.broken, some twsServer)
  else (.unknown, parseFarmName cases message)

/-! ## The tracker -/

structure FarmStatusEvent where
  status : FarmLinkStatus
  errorCode : Option Int := none
  message : Option Text := none
  farm : Option Text := none
  brokenSeconds : Option ℚ := none

structure FarmHealthTracker where
  status : FarmLinkStatus := .unknown
  brokenSince : Option ℚ := none
  lastErrorCode : Option Int := none
  lastErrorMessage : Option Text := none
  lastFarm : Option Text := none
  farms : Dict Text FarmLinkStatus := ∅
  brokenSinceByFarm : Dict Text ℚ := ∅

namespace FarmHealthTracker

/-- A lookup of a farm without a start time. -/
inductive KeyError
  | farm (name : Text)

def brokenFarms (tracker : FarmHealthTracker) : List Text :=
  (tracker.farms.restrict fun _ status => status = .broken).keys

/-- `min` of the start times of the given farms, each looked up. -/
def earliest (starts : Dict Text ℚ) : List Text → Except KeyError (Option ℚ)
  | [] => .ok none
  | farm :: rest =>
    match starts.lookup farm, earliest starts rest with
    | none, _ => .error (.farm farm)
    | some _, .error e => .error e
    | some start, .ok least => .ok (some (least.elim start (min start)))

/-- `_refresh_aggregate_status`. -/
def refreshAggregateStatus (tracker : FarmHealthTracker) : Except KeyError FarmHealthTracker :=
  let broken := tracker.brokenFarms
  let starts := tracker.brokenSinceByFarm.restrict fun farm _ => farm ∈ broken
  if broken ≠ [] then
    (earliest starts broken).map fun least =>
      { tracker with status := .broken, brokenSince := least, brokenSinceByFarm := starts }
  else
    .ok
      { tracker with
        status :=
          if FarmLinkStatus.connecting ∈ tracker.farms.entries.map (·.2) then .connecting
          else if tracker.farms.entries ≠ [] then .ok
          else .unknown
        brokenSince := none
        brokenSinceByFarm := starts }

/-- `self.broken_since_by_farm.setdefault(farm, now)`. -/
def setDefaultStart (tracker : FarmHealthTracker) (farm : Text) (now : ℚ) : Dict Text ℚ :=
  match tracker.brokenSinceByFarm.lookup farm with
  | some _ => tracker.brokenSinceByFarm
  | none => tracker.brokenSinceByFarm.insert farm now

/-- A farm's status, with its start time set on broken and dropped on ok. -/
def mark (tracker : FarmHealthTracker) (farm : Text) (status : FarmLinkStatus) (now : ℚ) :
    FarmHealthTracker :=
  { tracker with
    farms := tracker.farms.insert farm status
    brokenSinceByFarm :=
      match status with
      | .broken => tracker.setDefaultStart farm now
      | .ok => tracker.brokenSinceByFarm.erase farm
      | _ => tracker.brokenSinceByFarm }

def changed (previous : FarmLinkStatus) (event : FarmStatusEvent) (tracker : FarmHealthTracker) :
    Option FarmStatusEvent :=
  if tracker.status = previous then none else some event

def observe (cases : CaseMapping) (tracker : FarmHealthTracker) (errorCode : Int)
    (message : Text) (now : ℚ) : Except KeyError (Option FarmStatusEvent × FarmHealthTracker) :=
  let (status, farm) := classifyFarmError cases errorCode message
  if status = .unknown then .ok (none, tracker)
  else
    let told : FarmHealthTracker :=
      { tracker with
        lastErrorCode := some errorCode
        lastErrorMessage := some message
        lastFarm := farm }
    let named : Option Text := farm.filter (· ≠ [])
    let marked : Option Text × FarmHealthTracker :=
      match named with
      | some name => (some name, told.mark name status now)
      | none =>
        -- an unidentified broken farm stays until the session resets
        if status = .broken then (some unknownFarm, told.mark unknownFarm .broken now)
        else (farm, told)
    marked.2.refreshAggregateStatus.map fun refreshed =>
      (refreshed.changed tracker.status
        { status := refreshed.status
          errorCode := some errorCode
          message := some message
          farm := marked.1
          brokenSeconds := refreshed.brokenSince.map (now - ·) }, refreshed)

def markProbeFailed (tracker : FarmHealthTracker) (error : Option Text) (now : ℚ) :
    Except KeyError (Option FarmStatusEvent × FarmHealthTracker) :=
  let told : FarmHealthTracker :=
    { tracker with
      lastErrorCode := none
      lastErrorMessage := error
      lastFarm := some dataPlaneProbeFarm }
  (told.mark dataPlaneProbeFarm .broken now).refreshAggregateStatus.map fun refreshed =>
    (some
      { status := refreshed.status
        message := error
        farm := some dataPlaneProbeFarm
        brokenSeconds := some 0 }, refreshed)

def markDataFlowSilent (tracker : FarmHealthTracker) (message : Text) (now : ℚ) :
    Except KeyError (Option FarmStatusEvent × FarmHealthTracker) :=
  let told : FarmHealthTracker :=
    { tracker with
      lastErrorCode := none
      lastErrorMessage := some message
      lastFarm := some dataFlowSilenceFarm }
  (told.mark dataFlowSilenceFarm .broken now).refreshAggregateStatus.map fun refreshed =>
    (refreshed.changed tracker.status
      { status := refreshed.status
        message := some message
        farm := some dataFlowSilenceFarm
        brokenSeconds := some 0 }, refreshed)

/-- Clear only a failure of the given synthetic farm, if it was tracked. -/
def clear (tracker : FarmHealthTracker) (farm : Text) (now : ℚ) :
    Except KeyError (Option FarmStatusEvent × FarmHealthTracker) :=
  match tracker.farms.lookup farm with
  | none => .ok (none, tracker)
  | some _ => (tracker.mark farm .ok now).refreshAggregateStatus.map fun refreshed =>
    (none, refreshed)

def markProbeSucceeded (tracker : FarmHealthTracker) :=
  tracker.clear dataPlaneProbeFarm 0

def markDataFlowLive (tracker : FarmHealthTracker) :=
  tracker.clear dataFlowSilenceFarm 0

def reset (_ : FarmHealthTracker) : FarmHealthTracker := {}

def brokenDuration (tracker : FarmHealthTracker) (now : ℚ) : Option ℚ :=
  tracker.brokenSince.map (now - ·)

def shouldRestartGateway (brokenRestartSeconds : ℚ) (tracker : FarmHealthTracker) (now : ℚ) :
    Bool :=
  match tracker.brokenDuration now with
  | none => false
  | some duration => brokenRestartSeconds ≤ duration

/-! ## Operations -/

inductive Operation
  | observe (errorCode : Int) (message : Text) (now : ℚ)
  | probeFailed (error : Option Text) (now : ℚ)
  | probeSucceeded
  | dataFlowSilent (message : Text) (now : ℚ)
  | dataFlowLive
  | reset
  deriving DecidableEq

def apply (cases : CaseMapping) (tracker : FarmHealthTracker) :
    Operation → Except KeyError (Option FarmStatusEvent × FarmHealthTracker)
  | .observe errorCode message now => tracker.observe cases errorCode message now
  | .probeFailed error now => tracker.markProbeFailed error now
  | .probeSucceeded => tracker.markProbeSucceeded
  | .dataFlowSilent message now => tracker.markDataFlowSilent message now
  | .dataFlowLive => tracker.markDataFlowLive
  | .reset => .ok (none, tracker.reset)

/-- An operation with its answer; a lookup that fails leaves the tracker. -/
def step (cases : CaseMapping) (tracker : FarmHealthTracker) (operation : Operation) :
    Except KeyError (Option FarmStatusEvent) × FarmHealthTracker :=
  match tracker.apply cases operation with
  | .error e => (.error e, tracker)
  | .ok (event, next) => (.ok event, next)

end FarmHealthTracker

end Farm

end SpxSpark.Ibkr
