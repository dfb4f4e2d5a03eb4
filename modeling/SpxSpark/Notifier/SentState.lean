import Mathlib.Algebra.Order.Field.Rat
import Mathlib.Data.List.Dedup
import SpxSpark.Lib.Merge
import SpxSpark.Lib.Text

/-!
# SentState — which alerts were sent, and which may be sent again

One dictionary holds the time each alert key was last marked sent and, for the kinds whose dedup
group is a magnitude bucket, the time and the signed bucket of the last alert of the kind and
instrument.
-/

namespace SpxSpark.Notifier

open Lib

/-! ## Alerts -/

structure Alert where
  kind : String
  instrumentId : String
  dedupGroup : Option String := none
  severity : String := ""
  sourceGate : String := ""
  researchOnly : Bool := false
  cooldownSeconds : Option ℚ := none

/-- A key of the stored dictionary: an alert key, or one of the two kept for a rate-limited kind
and instrument. -/
inductive SentKey
  | alert (kind instrumentId dedupGroup : String)
  | rateLimitAt (kind instrumentId : String)
  | rateLimitBucket (kind instrumentId : String)
  deriving DecidableEq

abbrev SentMap := Dict SentKey ℚ

def alertKey (alert : Alert) : SentKey :=
  .alert alert.kind alert.instrumentId (alert.dedupGroup.getD "")

def bucketRateLimitedKinds : List String :=
  ["put_skew_steepening_5m", "atm_iv_jump_5m", "iv_surface_shift_5m", "iv_surface_shift_1h",
    "atm_iv_change_1h", "price_move_from_close", "spxw_position_book_pnl"]

def bucketJumpOverrideSteps : ℚ := 2

def intradayShockCorrelationSeconds : ℚ := 15 * 60

/-- The rank of a severity; an unknown one is below all. -/
def severityValue (severity : String) : Int :=
  match severity.toLower with
  | "info" => 0
  | "low" => 1
  | "medium" => 2
  | "high" => 3
  | "critical" => 4
  | _ => -1

/-- The kind is one whose pushes are limited per window. -/
def Alert.rateLimited (alert : Alert) : Bool := bucketRateLimitedKinds.contains alert.kind

/-- Direction and magnitude of a dedup group `up:N` or `down:N`; `$` lets it end in a newline. -/
def directionBucket (text : String) : Option (Bool × Nat) :=
  let line := (stripSuffix ['\n'] text.toList).getD text.toList
  match stripPrefix "up:".toList line with
  | some rest => (decimalNumber rest).map fun n => (true, n)
  | none => ((stripPrefix "down:".toList line).bind decimalNumber).map fun n => (false, n)

def signedBucket (alert : Alert) : Option ℚ :=
  (directionBucket (alert.dedupGroup.getD "")).map fun bucket =>
    if bucket.1 then (bucket.2 : ℚ) else -(bucket.2 : ℚ)

/-! ## Selection -/

structure NotificationSettings where
  minSeverity : String
  cooldownSeconds : ℚ
  kindRateLimitSeconds : ℚ

def kindRateLimitBlocks (alert : Alert) (sentAtByKey : SentMap) (nowTs : ℚ)
    (rateLimitSeconds : ℚ) : Bool :=
  if rateLimitSeconds ≤ 0 then false
  else if alert.rateLimited = false then false
  else if severityValue "critical" ≤ severityValue alert.severity then false
  else
    match sentAtByKey.lookup (.rateLimitAt alert.kind alert.instrumentId) with
    | none => false
    | some lastTs =>
      if rateLimitSeconds ≤ nowTs - lastTs then false
      else
        match signedBucket alert,
          sentAtByKey.lookup (.rateLimitBucket alert.kind alert.instrumentId) with
        | some bucket, some previousBucket =>
          if decide (0 < bucket) ≠ decide (0 < previousBucket) then false
          else if bucketJumpOverrideSteps ≤ |bucket - previousBucket| then false
          else true
        | _, _ => true

def isShockKey (direction : String) : SentKey → Bool
  | .alert kind instrumentId dedupGroup =>
    kind = "intraday_price_shock" && instrumentId = "index:SPX" &&
      (stripPrefix "spx_shock:".toList dedupGroup.toList).isSome &&
      containsText (":" ++ direction ++ ":").toList dedupGroup.toList &&
      (stripSuffix ":shock".toList dedupGroup.toList).isSome
  | .rateLimitAt _ _ | .rateLimitBucket _ _ => false

def recentIntradayShockBlocksPriceMove (alert : Alert) (sentAtByKey : SentMap) (nowTs : ℚ) :
    Bool :=
  if alert.kind ≠ "price_move_from_close" then false
  else if alert.instrumentId ≠ "index:SPX" ∧ alert.instrumentId ≠ "future:ES" then false
  else
    let direction := String.ofList ((alert.dedupGroup.getD "").toList.takeWhile (· ≠ ':'))
    if direction ≠ "up" ∧ direction ≠ "down" then false
    else
      sentAtByKey.entries.any fun entry =>
        isShockKey direction entry.1 && decide (-60 ≤ nowTs - entry.2) &&
          decide (nowTs - entry.2 < intradayShockCorrelationSeconds)

def isHumanVisibleAlert (alert : Alert) : Bool :=
  let blocked := ["smart", "wallet", "onchain", "hyperliquid_proxy"]
  let visible := ["index:SPX", "future:ES", "option:SPX:SPXW", "option_map:SPXW",
    "iv_surface:SPXW"]
  !alert.researchOnly &&
    !blocked.any (fun term => containsText term.toList alert.kind.toLower.toList ||
      containsText term.toList alert.sourceGate.toLower.toList) &&
    visible.any fun start => (stripPrefix start.toList alert.instrumentId.toList).isSome

/-- The alert payload: the alerts, unless the field is no list, and whether SPXW sampling is off. -/
structure AlertPayload where
  alerts : Option (List Alert)
  spxwSamplingOff : Bool := false

def isOffhoursVolSignalAlert (alert : Alert) (payload : AlertPayload) : Bool :=
  (alert.kind = "put_skew_steepening_5m" || alert.kind = "atm_iv_jump_5m") &&
    payload.spxwSamplingOff

/-- One alert against the snapshot, as the loop of the selection takes it. -/
def selects (payload : AlertPayload) (settings : NotificationSettings) (nowTs : ℚ)
    (sentAtByKey : SentMap) (alert : Alert) : Bool :=
  let effectiveCooldown :=
    match alert.cooldownSeconds with
    | some seconds => if 0 < seconds then seconds else settings.cooldownSeconds
    | none => settings.cooldownSeconds
  if !isHumanVisibleAlert alert then false
  else if severityValue alert.severity < severityValue settings.minSeverity ∧
      !isOffhoursVolSignalAlert alert payload then false
  else if (sentAtByKey.lookup (alertKey alert)).any fun previousTs =>
      nowTs - previousTs < effectiveCooldown then false
  else if recentIntradayShockBlocksPriceMove alert sentAtByKey nowTs then false
  else if kindRateLimitBlocks alert sentAtByKey nowTs settings.kindRateLimitSeconds then false
  else true

def selectAlertsForNotification (payload : AlertPayload) (settings : NotificationSettings)
    (nowTs : ℚ) (sentAtByKey : SentMap) : List Alert :=
  (payload.alerts.getD []).filter (selects payload settings nowTs sentAtByKey)

theorem selects_not_rateLimited {payload : AlertPayload} {settings : NotificationSettings}
    {nowTs : ℚ} {sentAtByKey : SentMap} {alert : Alert}
    (h : selects payload settings nowTs sentAtByKey alert = true) :
    kindRateLimitBlocks alert sentAtByKey nowTs settings.kindRateLimitSeconds = false := by
  by_contra hblocks
  rw [Bool.not_eq_false] at hblocks
  unfold selects at h
  simp only [hblocks, if_true] at h
  split_ifs at h

/-- An alert that passes the limit inside the window has a bucket, and so has the last one, with a
flip or a jump between them. -/
theorem kindRateLimitBlocks_false {alert : Alert} {sentAtByKey : SentMap} {nowTs : ℚ}
    {rateLimitSeconds lastTs : ℚ} (hpositive : 0 < rateLimitSeconds)
    (hkind : alert.rateLimited = true)
    (hseverity : severityValue alert.severity < severityValue "critical")
    (hlast : sentAtByKey.lookup (.rateLimitAt alert.kind alert.instrumentId) = some lastTs)
    (hwindow : nowTs - lastTs < rateLimitSeconds)
    (h : kindRateLimitBlocks alert sentAtByKey nowTs rateLimitSeconds = false) :
    ∃ bucket previousBucket, signedBucket alert = some bucket ∧
      sentAtByKey.lookup (.rateLimitBucket alert.kind alert.instrumentId) = some previousBucket ∧
      (decide (0 < bucket) ≠ decide (0 < previousBucket) ∨
        bucketJumpOverrideSteps ≤ |bucket - previousBucket|) := by
  unfold kindRateLimitBlocks at h
  rw [if_neg (not_le.mpr hpositive), if_neg (by rw [hkind]; decide),
    if_neg (not_le.mpr hseverity), hlast] at h
  simp only [if_neg (not_le.mpr hwindow)] at h
  split at h
  · rename_i bucket previousBucket hbucket hprevious
    refine ⟨bucket, previousBucket, hbucket, hprevious, ?_⟩
    by_contra hneither
    rw [not_or, not_not] at hneither
    rw [if_neg (not_not.mpr hneither.1), if_neg hneither.2] at h
    cases h
  · cases h

/-! ## The stored state -/

/-- What the file holds. -/
structure SentState where
  sentAtByKey : SentMap := ∅
  acknowledgedEventIds : List String := []

/-- The ids that are kept of those acknowledged: each once, and no empty one. -/
def mergeEventIds (stored acknowledged : List String) : List String :=
  (stored ++ acknowledged).dedup.filter (· ≠ "")

def saveSentState (stored : SentState) (sentAtByKey : SentMap)
    (acknowledgedEventIds : List String) : SentState where
  sentAtByKey := mergeWith max stored.sentAtByKey sentAtByKey
  acknowledgedEventIds := mergeEventIds stored.acknowledgedEventIds acknowledgedEventIds

def markRateLimitSent (alert : Alert) (sentAtByKey : SentMap) (nowTs : ℚ) : SentMap :=
  if alert.rateLimited then
    let timed := sentAtByKey.insert (.rateLimitAt alert.kind alert.instrumentId) nowTs
    match signedBucket alert with
    | some bucket => timed.insert (.rateLimitBucket alert.kind alert.instrumentId) bucket
    | none => timed
  else sentAtByKey

def markAlertSent (nowTs : ℚ) (sentAtByKey : SentMap) (alert : Alert) : SentMap :=
  markRateLimitSent alert (sentAtByKey.insert (alertKey alert) nowTs) nowTs

def markAlertsSent (stored : SentState) (alerts : List Alert) (sentAtByKey : SentMap) (nowTs : ℚ)
    (acknowledgedEventIds : List String) : SentState where
  sentAtByKey :=
    alerts.foldl (markAlertSent nowTs) (mergeWith max stored.sentAtByKey sentAtByKey)
  acknowledgedEventIds := mergeEventIds stored.acknowledgedEventIds acknowledgedEventIds

section Mark

variable (nowTs : ℚ) (sentAtByKey : SentMap) (alert : Alert)

theorem lookup_markAlertSent_alert (kind instrumentId dedupGroup : String) :
    (markAlertSent nowTs sentAtByKey alert).lookup (.alert kind instrumentId dedupGroup) =
      if alertKey alert = .alert kind instrumentId dedupGroup then some nowTs
      else sentAtByKey.lookup (.alert kind instrumentId dedupGroup) := by
  have hrate : ∀ m : SentMap, (markRateLimitSent alert m nowTs).lookup
      (.alert kind instrumentId dedupGroup) = m.lookup (.alert kind instrumentId dedupGroup) := by
    intro m
    unfold markRateLimitSent
    split
    · split
      · rw [AList.lookup_insert_ne (by simp), AList.lookup_insert_ne (by simp)]
      · rw [AList.lookup_insert_ne (by simp)]
    · rfl
  unfold markAlertSent
  rw [hrate]
  split
  · rename_i h
    rw [h, AList.lookup_insert]
  · rename_i h
    rw [AList.lookup_insert_ne (Ne.symm h)]

theorem lookup_markAlertSent_rateLimitAt (kind instrumentId : String) :
    (markAlertSent nowTs sentAtByKey alert).lookup (.rateLimitAt kind instrumentId) =
      if alert.rateLimited = true ∧ alert.kind = kind ∧ alert.instrumentId = instrumentId then
        some nowTs
      else sentAtByKey.lookup (.rateLimitAt kind instrumentId) := by
  have hkey : SentKey.rateLimitAt kind instrumentId ≠ alertKey alert := by simp [alertKey]
  unfold markAlertSent markRateLimitSent
  by_cases hlimited : alert.rateLimited = true
  · rw [if_pos hlimited]
    have htimed : ((sentAtByKey.insert (alertKey alert) nowTs).insert
        (.rateLimitAt alert.kind alert.instrumentId) nowTs).lookup
          (.rateLimitAt kind instrumentId) =
        if alert.kind = kind ∧ alert.instrumentId = instrumentId then some nowTs
        else sentAtByKey.lookup (.rateLimitAt kind instrumentId) := by
      split
      · rename_i h
        rw [← h.1, ← h.2, AList.lookup_insert]
      · rename_i h
        rw [AList.lookup_insert_ne (by simp only [ne_eq, SentKey.rateLimitAt.injEq]; tauto),
          AList.lookup_insert_ne hkey]
    simp only [hlimited, true_and]
    split
    · rw [AList.lookup_insert_ne (by simp), htimed]
    · exact htimed
  · rw [if_neg hlimited, AList.lookup_insert_ne hkey]
    simp [hlimited]

theorem lookup_markAlertSent_rateLimitBucket (kind instrumentId : String) :
    (markAlertSent nowTs sentAtByKey alert).lookup (.rateLimitBucket kind instrumentId) =
      if alert.rateLimited = true ∧ alert.kind = kind ∧ alert.instrumentId = instrumentId then
        (signedBucket alert).or (sentAtByKey.lookup (.rateLimitBucket kind instrumentId))
      else sentAtByKey.lookup (.rateLimitBucket kind instrumentId) := by
  have hkey : SentKey.rateLimitBucket kind instrumentId ≠ alertKey alert := by simp [alertKey]
  unfold markAlertSent markRateLimitSent
  by_cases hlimited : alert.rateLimited = true
  · rw [if_pos hlimited]
    simp only [hlimited, true_and]
    cases hbucket : signedBucket alert with
    | none =>
      simp only [Option.none_or, ite_self]
      rw [AList.lookup_insert_ne (by simp), AList.lookup_insert_ne hkey]
    | some bucket =>
      simp only [Option.some_or]
      split
      · rename_i h
        rw [← h.1, ← h.2, AList.lookup_insert]
      · rename_i h
        rw [AList.lookup_insert_ne (by simp only [ne_eq, SentKey.rateLimitBucket.injEq]; tauto),
          AList.lookup_insert_ne (by simp), AList.lookup_insert_ne hkey]
  · rw [if_neg hlimited, AList.lookup_insert_ne hkey]
    simp [hlimited]

end Mark

theorem mem_mergeEventIds {stored acknowledged : List String} {id : String} :
    id ∈ mergeEventIds stored acknowledged ↔ (id ∈ stored ∨ id ∈ acknowledged) ∧ id ≠ "" := by
  unfold mergeEventIds
  simp [List.mem_filter, List.mem_dedup]

end SpxSpark.Notifier
