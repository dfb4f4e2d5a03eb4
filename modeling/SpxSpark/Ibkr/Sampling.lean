import Mathlib.Tactic.Positivity
import SpxSpark.Ibkr.StreamModels
import SpxSpark.Lib.Dealing
import SpxSpark.Lib.Grouping

/-!
# Sampling — the option contracts around a reference price

Strikes are laid around the strike nearest the price. The front expiry gets every strike of a
window; the next expiry only those of its own, narrower one.
-/

namespace SpxSpark.Ibkr

open Lib Grouping

/-! ## Settings and plans -/

structure SamplingSettings where
  strikeStep : Int
  windowPoints : Int
  hotWindowPoints : Int
  groupCount : Int
  groupIntervalSeconds : Int
  degradedGroupCount : Int
  degradedGroupIntervalSeconds : Int
  groupStrategy : String
  hotHumanCadenceSeconds : Int
  hotExecutionCadenceSeconds : Int
  includeNextExpiry : Bool
  nextExpiryWindowPoints : Int := 30
  nextExpiryHotWindowPoints : Int := 10

inductive SamplingError
  | unsupportedMode (mode : String)
  | zeroStep
  | groupCountNotPositive
  | unsupportedStrategy (strategy : String)

/-- The front expiry and the next one, `next_expiry or next_weekday_expiry(expiry)`: two days. -/
structure ExpiryPair where
  expiry : String
  nextExpiry : String
  distinct : expiry ≠ nextExpiry

structure SamplingGroup where
  index : ℕ
  cadenceSeconds : Int
  strikes : List Int
  contracts : List OptionContractSpec

structure SamplingPlan where
  mode : String
  underlierPrice : ℚ
  atmStrike : Int
  expiries : List String
  strikeStep : Int
  windowPoints : Int
  hotWindowPoints : Int
  hotCadenceSeconds : Int
  groupStrategy : String
  hotLane : List OptionContractSpec
  rollingGroups : List SamplingGroup

def validGroupStrategies : List String := ["contiguous", "interleaved"]

def validModes : List String := ["human_alert", "execution_monitor", "degraded"]

/-! ## Strikes and groups -/

/-- `int(round(value / step) * step)`. -/
def roundToStep (value : ℚ) (step : Int) : Int := roundHalfEven (value / step) * step

/-- `range(start, stop, step)`. -/
def pyRange (start stop step : Int) : List Int :=
  let count :=
    if 0 < step then (stop - start + step - 1) / step else (start - stop - step - 1) / -step
  (List.range count.toNat).map fun (i : ℕ) => start + step * i

def buildStrikes (center windowPoints step : Int) : List Int :=
  let start := center - windowPoints
  let stop := center + windowPoints
  (pyRange start (stop + step) step).filter (0 < ·)

def groupIndex (strategy : String) (groupCount total index : ℕ) : ℕ :=
  if strategy = "interleaved" then index % groupCount
  else min (index * groupCount / total) (groupCount - 1)

def splitGroups (strikes : List Int) (groupCount : Int) (strategy : String) :
    Except SamplingError (List (List Int)) :=
  if groupCount ≤ 0 then .error .groupCountNotPositive
  else if strategy ∉ validGroupStrategies then .error (.unsupportedStrategy strategy)
  else
    let place := groupIndex strategy groupCount.toNat strikes.length
    let groups := deal place groupCount.toNat strikes
    .ok (groups.filter fun group => !group.isEmpty)

/-- The call and the put of one strike. -/
def bothRights (key : String × Int) : List OptionContractSpec :=
  [⟨key.1, key.2, .call⟩, ⟨key.1, key.2, .put⟩]

/-- The first expiry gets the full strike list; later expiries are restricted to
`nextExpiryStrikes` when provided. -/
def contractKeys (expiries : List String) (strikes : List Int)
    (nextExpiryStrikes : Option (List Int)) : List (String × Int) :=
  expiries.zipIdx.flatMap fun expiry =>
    (strikes.filter fun strike =>
      !(decide (0 < expiry.2) && nextExpiryStrikes.any (strike ∉ ·))).map fun strike =>
        (expiry.1, strike)

def buildContracts (expiries : List String) (strikes : List Int)
    (nextExpiryStrikes : Option (List Int)) : List OptionContractSpec :=
  (contractKeys expiries strikes nextExpiryStrikes).flatMap bothRights

def resolveExpiries (pair : ExpiryPair) (includeNextExpiry : Bool) : List String :=
  if includeNextExpiry then [pair.expiry, pair.nextExpiry] else [pair.expiry]

def buildSamplingPlan (underlierPrice : ℚ) (pair : ExpiryPair) (mode : String)
    (settings : SamplingSettings) : Except SamplingError SamplingPlan :=
  if mode ∉ validModes then .error (.unsupportedMode mode)
  else if settings.strikeStep = 0 then .error .zeroStep
  else
    let atm := roundToStep underlierPrice settings.strikeStep
    let expiries := resolveExpiries pair settings.includeNextExpiry
    let hotStrikes := buildStrikes atm settings.hotWindowPoints settings.strikeStep
    let rollingStrikes := buildStrikes atm settings.windowPoints settings.strikeStep
    let nextHotStrikes := buildStrikes atm settings.nextExpiryHotWindowPoints settings.strikeStep
    let nextRollingStrikes := buildStrikes atm settings.nextExpiryWindowPoints settings.strikeStep
    let groupCount :=
      if mode = "degraded" then settings.degradedGroupCount else settings.groupCount
    let groupInterval :=
      if mode = "degraded" then settings.degradedGroupIntervalSeconds
      else settings.groupIntervalSeconds
    let hotCadence :=
      if mode = "execution_monitor" then settings.hotExecutionCadenceSeconds
      else settings.hotHumanCadenceSeconds
    match splitGroups rollingStrikes groupCount settings.groupStrategy with
    | .error e => .error e
    | .ok groups => .ok {
        mode
        underlierPrice
        atmStrike := atm
        expiries
        strikeStep := settings.strikeStep
        windowPoints := settings.windowPoints
        hotWindowPoints := settings.hotWindowPoints
        hotCadenceSeconds := hotCadence
        groupStrategy := settings.groupStrategy
        hotLane := buildContracts expiries hotStrikes (some nextHotStrikes)
        rollingGroups := groups.zipIdx.map fun group => {
          index := group.2
          cadenceSeconds := groupInterval
          strikes := group.1
          contracts := buildContracts expiries group.1 (some nextRollingStrikes) } }

/-! ## What the strikes are -/

theorem pyRange_nodup {start stop step : Int} (h : step ≠ 0) : (pyRange start stop step).Nodup := by
  refine List.nodup_range.map ?_
  intro i j hij
  have hmul : step * (i : Int) = step * (j : Int) := Int.add_left_cancel hij
  exact_mod_cast mul_left_cancel₀ h hmul

theorem buildStrikes_nodup {center windowPoints step : Int} (h : step ≠ 0) :
    (buildStrikes center windowPoints step).Nodup :=
  (pyRange_nodup h).filter _

theorem mem_pyRange {start stop step strike : Int} (h : 0 < step) :
    strike ∈ pyRange start stop step ↔ ∃ i : ℕ, strike = start + step * i ∧ strike < stop := by
  rw [pyRange, List.mem_map, if_pos h]
  constructor
  · rintro ⟨i, hi, rfl⟩
    refine ⟨i, rfl, ?_⟩
    have hlt : (i : Int) < (stop - start + step - 1) / step := by
      have := List.mem_range.mp hi
      omega
    have hle : (i : Int) + 1 ≤ (stop - start + step - 1) / step := hlt
    rw [Int.le_ediv_iff_mul_le h] at hle
    have hexpand : ((i : Int) + 1) * step = step * i + step := by ring
    omega
  · rintro ⟨i, rfl, hlt⟩
    refine ⟨i, ?_, rfl⟩
    have hle : (i : Int) + 1 ≤ (stop - start + step - 1) / step := by
      rw [Int.le_ediv_iff_mul_le h]
      have hexpand : ((i : Int) + 1) * step = step * i + step := by ring
      omega
    rw [List.mem_range]
    omega

theorem mem_buildStrikes {center windowPoints step strike : Int} (h : 0 < step)
    (hwindow : step ∣ windowPoints) : strike ∈ buildStrikes center windowPoints step ↔
      0 < strike ∧ step ∣ strike - center ∧ |strike - center| ≤ windowPoints := by
  rw [buildStrikes, List.mem_filter, mem_pyRange h, decide_eq_true_iff, abs_le]
  obtain ⟨k, rfl⟩ := hwindow
  constructor
  · rintro ⟨⟨i, rfl, hlt⟩, hpos⟩
    refine ⟨hpos, ⟨(i : Int) - k, by ring⟩, ?_, ?_⟩
    · have hnonneg : 0 ≤ step * (i : Int) := by positivity
      omega
    · have hdvd : step * ((i : Int) - k) < step * (k + 1) := by
        have hexpand : step * ((i : Int) - k) = step * i - step * k := by ring
        have hexpand' : step * (k + 1) = step * k + step := by ring
        omega
      have hle : (i : Int) - k ≤ k := by
        have := lt_of_mul_lt_mul_left hdvd h.le
        omega
      have hmul : step * ((i : Int) - k) ≤ step * k := mul_le_mul_of_nonneg_left hle h.le
      have hexpand : step * ((i : Int) - k) = step * i - step * k := by ring
      omega
  · rintro ⟨hpos, ⟨j, hj⟩, hlow, hhigh⟩
    have hbelow : -k ≤ j := by
      have hmul : step * (-k) ≤ step * j := by
        have hexpand : step * (-k) = -(step * k) := by ring
        omega
      exact le_of_mul_le_mul_left hmul h
    refine ⟨⟨(j + k).toNat, ?_, by omega⟩, hpos⟩
    rw [Int.toNat_of_nonneg (by omega)]
    have hexpand : step * (j + k) = step * j + step * k := by ring
    omega

theorem buildStrikes_subset {center narrow wide step : Int} (h : 0 < step) (hnarrow : step ∣ narrow)
    (hwide : step ∣ wide) (hle : narrow ≤ wide) :
    buildStrikes center narrow step ⊆ buildStrikes center wide step := by
  intro strike hstrike
  rw [mem_buildStrikes h hnarrow] at hstrike
  rw [mem_buildStrikes h hwide]
  exact ⟨hstrike.1, hstrike.2.1, hstrike.2.2.trans hle⟩

theorem groupIndex_lt {strategy : String} {groupCount total index : ℕ} (h : 0 < groupCount) :
    groupIndex strategy groupCount total index < groupCount := by
  rw [groupIndex]
  split
  · exact Nat.mod_lt _ h
  · exact lt_of_le_of_lt (min_le_right _ _) (Nat.sub_lt h Nat.one_pos)

theorem splitGroups_perm {strikes : List Int} {groupCount : Int} {strategy : String}
    {groups : List (List Int)} (h : splitGroups strikes groupCount strategy = .ok groups) :
    groups.flatten.Perm strikes := by
  rw [splitGroups] at h
  split at h
  · cases h
  · next hcount =>
    split at h
    · cases h
    · cases h
      rw [List.flatten_filter_not_isEmpty]
      apply deal_perm
      intro i _
      apply groupIndex_lt
      omega

end SpxSpark.Ibkr
