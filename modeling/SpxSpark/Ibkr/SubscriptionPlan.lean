import Mathlib.Data.Prod.Lex
import Mathlib.Data.String.Basic
import SpxSpark.Ibkr.Sampling
import SpxSpark.Lib.Recent

/-!
# SubscriptionPlan — a sampling plan cut to a budget of lines

Contracts go by the distance of their strike, call and put together, and the front expiry first.
-/

namespace SpxSpark.Ibkr

open Lib Grouping List

/-! ## The order of the contracts -/

def pairKey (spec : OptionContractSpec) : String × Int := (spec.expiry, spec.strike)

/-- `(abs(strike - atm_strike), expiry, strike)`. -/
def pairRank (atmStrike : Int) (key : String × Int) : ℕ ×ₗ String ×ₗ Int :=
  toLex ((key.2 - atmStrike).natAbs, toLex (key.1, key.2))

def rightText (spec : OptionContractSpec) : String := spec.right.text

/-- Order specs nearest-ATM first, keeping C/P pairs adjacent. The keys are sorted on themselves, so
the order in which they were first met does not matter. -/
def contractPairsByAtmDistance (specs : List OptionContractSpec) (atmStrike : Int) :
    List OptionContractSpec :=
  ((groupKeys pairKey specs).insertionSort fun a b =>
      pairRank atmStrike a ≤ pairRank atmStrike b).flatMap fun key =>
    (groupAt pairKey specs key).insertionSort fun a b => rightText a ≤ rightText b

variable {spec : OptionContractSpec} {key : String × Int}

@[simp] theorem pairKey_of_mem (h : spec ∈ bothRights key) : pairKey spec = key := by
  rcases mem_cons.mp h with rfl | h
  · rfl
  · rw [mem_singleton.mp h]
    rfl

theorem mem_bothRights : spec ∈ bothRights key ↔ pairKey spec = key := by
  constructor
  · exact pairKey_of_mem
  · rintro rfl
    obtain ⟨expiry, strike, right⟩ := spec
    cases right <;> simp [bothRights, pairKey]

variable {keys : List (String × Int)}

theorem mem_flatMap_bothRights : spec ∈ keys.flatMap bothRights ↔ pairKey spec ∈ keys := by
  rw [mem_flatMap]
  constructor
  · rintro ⟨key, hkey, hspec⟩
    rw [mem_bothRights.mp hspec]
    exact hkey
  · intro h
    exact ⟨pairKey spec, h, mem_bothRights.mpr rfl⟩

theorem bothRights_nodup (key : String × Int) : (bothRights key).Nodup := by
  simp [bothRights]

theorem flatMap_bothRights_nodup (h : keys.Nodup) : (keys.flatMap bothRights).Nodup := by
  rw [nodup_flatMap]
  refine ⟨fun key _ => bothRights_nodup key, h.imp ?_⟩
  intro a b hne spec ha hb
  exact hne ((mem_bothRights.mp ha).symm.trans (mem_bothRights.mp hb))

theorem groupAt_bothRights {key : String × Int} : ∀ {keys : List (String × Int)}, keys.Nodup →
    key ∈ keys → groupAt pairKey (keys.flatMap bothRights) key = bothRights key
  | [], _, h => by cases h
  | k :: keys, hnodup, h => by
      rw [nodup_cons] at hnodup
      rw [flatMap_cons, groupAt, filter_append]
      by_cases heq : k = key
      · subst heq
        have hrest : (keys.flatMap bothRights).filter (fun spec => pairKey spec = k) = [] := by
          rw [filter_eq_nil_iff]
          intro spec hspec hkey
          rw [mem_flatMap_bothRights, of_decide_eq_true hkey] at hspec
          exact hnodup.1 hspec
        rw [hrest, append_nil, filter_eq_self]
        intro spec hspec
        exact decide_eq_true (mem_bothRights.mp hspec)
      · have hfirst : (bothRights k).filter (fun spec => pairKey spec = key) = [] := by
          rw [filter_eq_nil_iff]
          intro spec hspec hkey
          exact heq ((mem_bothRights.mp hspec).symm.trans (of_decide_eq_true hkey))
        rw [hfirst, nil_append]
        exact groupAt_bothRights hnodup.2 ((mem_cons.mp h).resolve_left (Ne.symm heq))

theorem sorted_bothRights (key : String × Int) :
    (bothRights key).insertionSort (fun a b => rightText a ≤ rightText b) = bothRights key := by
  apply List.Pairwise.insertionSort_eq
  rw [bothRights, pairwise_pair]
  show "C" ≤ "P"
  decide

theorem contractPairs_of_keys (atmStrike : Int) (h : keys.Nodup) :
    ∃ ordered : List (String × Int), ordered.Perm keys ∧
      ordered.Pairwise (fun a b => pairRank atmStrike a ≤ pairRank atmStrike b) ∧
      contractPairsByAtmDistance (keys.flatMap bothRights) atmStrike =
        ordered.flatMap bothRights := by
  have hperm : (groupKeys pairKey (keys.flatMap bothRights)).Perm keys := by
    refine (perm_ext_iff_of_nodup (nodup_dedup _) h).mpr ?_
    intro key
    refine mem_groupKeys.trans ?_
    constructor
    · rintro ⟨spec, hspec, rfl⟩
      exact mem_flatMap_bothRights.mp hspec
    · intro hkey
      exact ⟨⟨key.1, key.2, .call⟩, mem_flatMap_bothRights.mpr hkey, rfl⟩
  have : IsTrans (String × Int) fun a b => pairRank atmStrike a ≤ pairRank atmStrike b :=
    ⟨fun _ _ _ hab hbc => le_trans hab hbc⟩
  have : Std.Total fun a b : String × Int => pairRank atmStrike a ≤ pairRank atmStrike b :=
    ⟨fun a b => le_total (pairRank atmStrike a) (pairRank atmStrike b)⟩
  refine ⟨_, (perm_insertionSort _ _).trans hperm, pairwise_insertionSort _ _, ?_⟩
  rw [contractPairsByAtmDistance]
  apply flatMap_congr
  intro key hkey
  have hmem : key ∈ keys := hperm.mem_iff.mp ((mem_insertionSort _).mp hkey)
  rw [groupAt_bothRights h hmem, sorted_bothRights]

/-! ## The keys of a sampling plan -/

theorem contractKeys_eq (pair : ExpiryPair) (includeNext : Bool) (strikes next : List Int) :
    contractKeys (resolveExpiries pair includeNext) strikes (some next) =
      strikes.map (fun strike => (pair.expiry, strike)) ++
        if includeNext then
          (strikes.filter fun strike => strike ∈ next).map fun strike => (pair.nextExpiry, strike)
        else [] := by
  cases includeNext <;> simp [contractKeys, resolveExpiries]

variable {pair : ExpiryPair}

theorem mem_contractKeys {includeNext : Bool} {strikes next : List Int} :
    key ∈ contractKeys (resolveExpiries pair includeNext) strikes (some next) ↔
      key.2 ∈ strikes ∧
        (key.1 = pair.expiry ∨ includeNext = true ∧ key.1 = pair.nextExpiry ∧ key.2 ∈ next) := by
  obtain ⟨expiry, strike⟩ := key
  rw [contractKeys_eq]
  cases includeNext with
  | false => simp [eq_comm, and_comm]
  | true =>
    simp [eq_comm, and_comm]
    tauto

theorem contractKeys_nodup {includeNext : Bool} {strikes next : List Int} (h : strikes.Nodup) :
    (contractKeys (resolveExpiries pair includeNext) strikes (some next)).Nodup := by
  have hmap : ∀ (expiry : String) {l : List Int}, l.Nodup →
      (l.map fun strike => (expiry, strike)).Nodup := by
    intro expiry l hl
    refine hl.map ?_
    intro a b hab
    exact (Prod.mk.inj hab).2
  rw [contractKeys_eq]
  cases includeNext with
  | false => simpa using hmap pair.expiry h
  | true =>
    rw [if_pos rfl, nodup_append]
    refine ⟨hmap _ h, hmap _ (h.filter _), ?_⟩
    intro a ha b hb hab
    obtain ⟨_, -, rfl⟩ := mem_map.mp ha
    obtain ⟨_, -, rfl⟩ := mem_map.mp hb
    exact pair.distinct (Prod.mk.inj hab).1

/-- The strikes a sampling plan is made of. -/
structure Sampled (pair : ExpiryPair) (settings : SamplingSettings) (plan : SamplingPlan) :
    Prop where
  step_ne_zero : settings.strikeStep ≠ 0
  hot : plan.hotLane = buildContracts (resolveExpiries pair settings.includeNextExpiry)
    (buildStrikes plan.atmStrike settings.hotWindowPoints settings.strikeStep)
    (some (buildStrikes plan.atmStrike settings.nextExpiryHotWindowPoints settings.strikeStep))
  groups : ∃ groups : List (List Int), groups.flatten.Perm
      (buildStrikes plan.atmStrike settings.windowPoints settings.strikeStep) ∧
    plan.rollingGroups.map (·.contracts) = groups.map fun strikes =>
      buildContracts (resolveExpiries pair settings.includeNextExpiry) strikes
        (some (buildStrikes plan.atmStrike settings.nextExpiryWindowPoints settings.strikeStep))

variable {settings : SamplingSettings} {plan : SamplingPlan}

theorem sampled_of_build {underlierPrice : ℚ} {mode : String}
    (h : buildSamplingPlan underlierPrice pair mode settings = .ok plan) :
    Sampled pair settings plan := by
  rw [buildSamplingPlan] at h
  split at h
  · cases h
  split at h
  · cases h
  · next hstep =>
    dsimp only at h
    split at h
    · cases h
    · next groups hgroups =>
      cases h
      refine ⟨hstep, rfl, groups, splitGroups_perm hgroups, ?_⟩
      rw [map_map]
      conv_rhs => rw [← zipIdx_map_fst 0 groups, map_map]
      rfl

theorem Sampled.group_nodup (h : Sampled pair settings plan) :
    ∀ group ∈ plan.rollingGroups, ∃ strikes : List Int, strikes.Nodup ∧
      group.contracts = buildContracts (resolveExpiries pair settings.includeNextExpiry) strikes
        (some (buildStrikes plan.atmStrike settings.nextExpiryWindowPoints
          settings.strikeStep)) := by
  obtain ⟨groups, hperm, hgroups⟩ := h.groups
  intro group hgroup
  have hmem : group.contracts ∈ plan.rollingGroups.map (·.contracts) := mem_map_of_mem hgroup
  rw [hgroups, mem_map] at hmem
  obtain ⟨strikes, hstrikes, heq⟩ := hmem
  have hnodup := hperm.nodup_iff.mpr (buildStrikes_nodup h.step_ne_zero)
  exact ⟨strikes, (nodup_flatten.mp hnodup).1 strikes hstrikes, heq.symm⟩

variable {atmStrike : Int}

theorem contractPairs_nodup (h : keys.Nodup) :
    (contractPairsByAtmDistance (keys.flatMap bothRights) atmStrike).Nodup := by
  obtain ⟨ordered, hperm, -, heq⟩ := contractPairs_of_keys atmStrike h
  rw [heq]
  exact flatMap_bothRights_nodup (hperm.nodup_iff.mpr h)

/-! ## The plan -/

/-- `int(value)`, which drops the fraction. -/
def pyInt (value : ℚ) : Int := if 0 ≤ value then ⌊value⌋ else ⌈value⌉

def lineBudget (maxOptionLines : Int) : Int := max maxOptionLines 0

variable (maxOptionLines : Int) (hotLaneShare : ℚ)

/-- The hot lines: at least two where there are two, and whole C/P pairs. -/
def hotBudget : Int :=
  let total := lineBudget maxOptionLines
  let budget := min (max 2 (pyInt (total * hotLaneShare))) total
  budget - budget % 2

def rotationBudget : Int :=
  let budget := max (lineBudget maxOptionLines - hotBudget maxOptionLines hotLaneShare) 0
  budget - budget % 2

/-- Current-expiry execution must not lose its hot legs to next-expiry context at nearby strikes. -/
def orderHot (expiry : String) (plan : SamplingPlan) : List OptionContractSpec :=
  (contractPairsByAtmDistance plan.hotLane plan.atmStrike).insertionSort fun a b =>
    decide (a.expiry ≠ expiry) ≤ decide (b.expiry ≠ expiry)

def orderedGroups (plan : SamplingPlan) : List (List OptionContractSpec) :=
  plan.rollingGroups.map fun group => contractPairsByAtmDistance group.contracts plan.atmStrike

theorem Sampled.orderedGroups_nodup (h : Sampled pair settings plan) :
    ∀ group ∈ orderedGroups plan, group.Nodup := by
  intro ordered hordered
  obtain ⟨group, hgroup, rfl⟩ := mem_map.mp hordered
  obtain ⟨strikes, hnodup, heq⟩ := h.group_nodup group hgroup
  rw [heq]
  exact contractPairs_nodup (contractKeys_nodup hnodup)

def buildOptionSubscriptionPlan (atmReference : ℚ) (pair : ExpiryPair) (mode : String)
    (settings : SamplingSettings) (maxOptionLines : Int) (hotLaneShare : ℚ) :
    Except SamplingError OptionSubscriptionPlan :=
  match h : buildSamplingPlan atmReference pair mode settings with
  | .error e => .error e
  | .ok plan => .ok (OptionSubscriptionPlan.build plan.atmStrike pair.expiry
      (orderHot pair.expiry plan) (orderedGroups plan) (sampled_of_build h).orderedGroups_nodup
      (hotBudget maxOptionLines hotLaneShare).toNat
      (rotationBudget maxOptionLines hotLaneShare).toNat)

/-! ## Lists of whole pairs -/

theorem filter_bothRights (p : String × Int → Bool) : ∀ keys : List (String × Int),
    (keys.flatMap bothRights).filter (fun spec => p (pairKey spec)) =
      (keys.filter p).flatMap bothRights
  | [] => rfl
  | key :: keys => by
      rw [flatMap_cons, filter_append, filter_bothRights p keys]
      cases hp : p key <;> simp [bothRights, pairKey, hp]

theorem take_bothRights : ∀ (m : ℕ) (keys : List (String × Int)),
    (keys.flatMap bothRights).take (2 * m) = (keys.take m).flatMap bothRights
  | 0, _ => rfl
  | _, [] => by simp
  | m + 1, key :: keys => by
      rw [flatMap_cons, take_succ_cons, flatMap_cons, ← take_bothRights m keys]
      rfl

theorem mem_contractPairs (h : keys.Nodup) :
    spec ∈ contractPairsByAtmDistance (keys.flatMap bothRights) atmStrike ↔
      pairKey spec ∈ keys := by
  obtain ⟨ordered, hperm, -, heq⟩ := contractPairs_of_keys atmStrike h
  rw [heq, mem_flatMap_bothRights, hperm.mem_iff]

theorem orderHot_keys (h : Sampled pair settings plan) : ∃ front next : List (String × Int),
      orderHot pair.expiry plan = (front ++ next).flatMap bothRights ∧
      (∀ spec, spec ∈ plan.hotLane ↔ pairKey spec ∈ front ++ next) ∧ (front ++ next).Nodup ∧
      (∀ key ∈ front, key.1 = pair.expiry) ∧ (∀ key ∈ next, key.1 ≠ pair.expiry) ∧
      front.Pairwise (fun a b => pairRank plan.atmStrike a ≤ pairRank plan.atmStrike b) ∧
      next.Pairwise (fun a b => pairRank plan.atmStrike a ≤ pairRank plan.atmStrike b) := by
  have hkeys : (contractKeys (resolveExpiries pair settings.includeNextExpiry)
      (buildStrikes plan.atmStrike settings.hotWindowPoints settings.strikeStep)
      (some (buildStrikes plan.atmStrike settings.nextExpiryHotWindowPoints
        settings.strikeStep))).Nodup :=
    contractKeys_nodup (buildStrikes_nodup h.step_ne_zero)
  obtain ⟨ordered, hperm, hsorted, heq⟩ := contractPairs_of_keys plan.atmStrike hkeys
  have hparts : ((ordered.filter fun key => !decide (key.1 ≠ pair.expiry)) ++
      ordered.filter fun key => decide (key.1 ≠ pair.expiry)).Perm ordered :=
    perm_append_comm.trans (filter_append_perm _ _)
  refine ⟨ordered.filter fun key => !decide (key.1 ≠ pair.expiry),
    ordered.filter fun key => decide (key.1 ≠ pair.expiry), ?_, ?_, ?_, ?_, ?_,
    hsorted.filter _, hsorted.filter _⟩
  · rw [orderHot, h.hot, buildContracts, heq, flatMap_append, ← filter_bothRights,
      ← filter_bothRights]
    exact insertionSort_flag (fun spec : OptionContractSpec =>
      decide (spec.expiry ≠ pair.expiry)) _
  · intro spec
    rw [h.hot, buildContracts, mem_flatMap_bothRights, hparts.mem_iff, hperm.mem_iff]
  · rw [hparts.nodup_iff, hperm.nodup_iff]
    exact hkeys
  · intro key hkey
    simpa using (mem_filter.mp hkey).2
  · intro key hkey
    simpa using (mem_filter.mp hkey).2

theorem natAbs_le_of_pairRank_le {a b : String × Int}
    (h : pairRank atmStrike a ≤ pairRank atmStrike b) :
    (a.2 - atmStrike).natAbs ≤ (b.2 - atmStrike).natAbs := by
  rw [pairRank, pairRank, Prod.Lex.toLex_le_toLex] at h
  rcases h with h | h
  · exact h.le
  · exact h.1.le

/-! ## Budgets -/

theorem hotBudget_even : ∃ m : ℕ, (hotBudget maxOptionLines hotLaneShare).toNat = 2 * m := by
  refine ⟨(hotBudget maxOptionLines hotLaneShare).toNat / 2, ?_⟩
  rw [hotBudget]
  omega

theorem budgets_le :
    ((hotBudget maxOptionLines hotLaneShare).toNat : Int) +
        (rotationBudget maxOptionLines hotLaneShare).toNat ≤ lineBudget maxOptionLines := by
  rw [rotationBudget, hotBudget, lineBudget]
  omega

theorem rotations_flatten {expiry : String} {ordered : List OptionContractSpec}
    {groups : List (List OptionContractSpec)} {hgroups : ∀ group ∈ groups, group.Nodup}
    {hot rotation : ℕ} (h : 2 ≤ rotation) :
    (OptionSubscriptionPlan.build atmStrike expiry ordered groups hgroups hot
        rotation).rotations.flatten = groups.flatten.filter (· ∉ ordered.take hot) := by
  rw [OptionSubscriptionPlan.build]
  dsimp only
  rw [if_neg (by omega), filter_flatten, flatMap_def, flatten_flatten,
    map_map]
  congr 1
  apply map_congr_left
  intro group _
  exact slices_flatten (by omega) le_rfl

/-! ## The windows of the settings -/

/-- The windows are multiples of the step, and the hot ones lie within the rolling ones. -/
structure WindowsFit (settings : SamplingSettings) : Prop where
  step_pos : 0 < settings.strikeStep
  window : settings.strikeStep ∣ settings.windowPoints
  hotWindow : settings.strikeStep ∣ settings.hotWindowPoints
  nextWindow : settings.strikeStep ∣ settings.nextExpiryWindowPoints
  nextHotWindow : settings.strikeStep ∣ settings.nextExpiryHotWindowPoints
  hot_le : settings.hotWindowPoints ≤ settings.windowPoints
  nextHot_le : settings.nextExpiryHotWindowPoints ≤ settings.nextExpiryWindowPoints

/-- The contract is in the hot lane or in a rolling group. -/
def SamplingPlan.Holds (plan : SamplingPlan) (spec : OptionContractSpec) : Prop :=
  spec ∈ plan.hotLane ∨ ∃ group ∈ plan.rollingGroups, spec ∈ group.contracts

theorem mem_orderedGroups (h : Sampled pair settings plan) :
    spec ∈ (orderedGroups plan).flatten ↔ ∃ group ∈ plan.rollingGroups, spec ∈ group.contracts := by
  rw [orderedGroups, ← flatMap_def, mem_flatMap]
  refine exists_congr fun group => and_congr_right fun hgroup => ?_
  obtain ⟨strikes, hnodup, heq⟩ := h.group_nodup group hgroup
  rw [heq, buildContracts, mem_contractPairs (contractKeys_nodup hnodup), mem_flatMap_bothRights]

theorem orderedGroups_flatten_nodup (h : Sampled pair settings plan) :
    (orderedGroups plan).flatten.Nodup := by
  rw [nodup_flatten]
  refine ⟨h.orderedGroups_nodup, ?_⟩
  obtain ⟨groups, hperm, hgroups⟩ := h.groups
  have hnodup := hperm.nodup_iff.mpr (buildStrikes_nodup h.step_ne_zero)
  rw [nodup_flatten] at hnodup
  have hordered : orderedGroups plan = groups.map fun strikes =>
      contractPairsByAtmDistance (buildContracts
        (resolveExpiries pair settings.includeNextExpiry) strikes
        (some (buildStrikes plan.atmStrike settings.nextExpiryWindowPoints
          settings.strikeStep))) plan.atmStrike := by
    have := congrArg (List.map fun contracts =>
      contractPairsByAtmDistance contracts plan.atmStrike) hgroups
    rw [map_map, map_map] at this
    exact this
  rw [hordered, pairwise_map]
  refine (List.Pairwise.and_mem.mp hnodup.2).imp ?_
  -- a contract of two groups has a strike of both
  rintro a b ⟨ha, hb, hdisjoint⟩ spec hspec hspec'
  rw [buildContracts, mem_contractPairs (contractKeys_nodup (hnodup.1 a ha)), mem_contractKeys]
    at hspec
  rw [buildContracts, mem_contractPairs (contractKeys_nodup (hnodup.1 b hb)), mem_contractKeys]
    at hspec'
  exact hdisjoint hspec.1 hspec'.1

theorem rolling_of_hot (h : Sampled pair settings plan) (hfit : WindowsFit settings)
    (hspec : spec ∈ plan.hotLane) : ∃ group ∈ plan.rollingGroups, spec ∈ group.contracts := by
  rw [h.hot, buildContracts, mem_flatMap_bothRights, mem_contractKeys] at hspec
  obtain ⟨hstrike, hexpiry⟩ := hspec
  obtain ⟨groups, hperm, hgroups⟩ := h.groups
  have hrolling := buildStrikes_subset hfit.step_pos hfit.hotWindow hfit.window hfit.hot_le hstrike
  rw [← hperm.mem_iff, mem_flatten] at hrolling
  obtain ⟨strikes, hstrikes, hmem⟩ := hrolling
  have hcontracts : spec ∈ buildContracts (resolveExpiries pair settings.includeNextExpiry) strikes
      (some (buildStrikes plan.atmStrike settings.nextExpiryWindowPoints settings.strikeStep)) := by
    rw [buildContracts, mem_flatMap_bothRights, mem_contractKeys]
    refine ⟨hmem, hexpiry.imp_right ?_⟩
    rintro ⟨hinclude, hnext, hnextHot⟩
    exact ⟨hinclude, hnext, buildStrikes_subset hfit.step_pos hfit.nextHotWindow hfit.nextWindow
      hfit.nextHot_le hnextHot⟩
  have hgroup : buildContracts (resolveExpiries pair settings.includeNextExpiry) strikes
      (some (buildStrikes plan.atmStrike settings.nextExpiryWindowPoints settings.strikeStep)) ∈
        plan.rollingGroups.map (·.contracts) := by
    rw [hgroups]
    exact mem_map_of_mem hstrikes
  obtain ⟨group, hmemGroup, heq⟩ := mem_map.mp hgroup
  exact ⟨group, hmemGroup, heq ▸ hcontracts⟩

/-! ## What the plan holds -/

/-- The other contract of the strike. -/
def OptionContractSpec.twin (spec : OptionContractSpec) : OptionContractSpec :=
  { spec with
    right := match spec.right with
      | .call => .put
      | .put => .call }

/-- The hot list, as a plan to watch all the time: whole pairs of the hot lane, the front expiry
before the next and near strikes before far ones. -/
structure HotFirst (pair : ExpiryPair) (sampling : SamplingPlan)
    (hot : List OptionContractSpec) : Prop where
  nodup : hot.Nodup
  lane : ∀ spec ∈ hot, spec ∈ sampling.hotLane
  pairs : ∀ spec ∈ hot, spec.twin ∈ hot
  front_first : ∀ spec ∈ hot, spec.expiry ≠ pair.expiry →
    ∀ other ∈ sampling.hotLane, other.expiry = pair.expiry → other ∈ hot
  near_first : ∀ spec ∈ hot, ∀ other ∈ sampling.hotLane, other.expiry = spec.expiry →
    |other.strike - sampling.atmStrike| < |spec.strike - sampling.atmStrike| → other ∈ hot

theorem hotFirst_take (h : Sampled pair settings plan) (m : ℕ) :
    HotFirst pair plan ((orderHot pair.expiry plan).take (2 * m)) := by
  obtain ⟨front, next, hordered, hlane, hnodup, hfront, hnext, hfrontSorted, hnextSorted⟩ :=
    orderHot_keys h
  rw [hordered, take_bothRights]
  refine ⟨?_, ?_, ?_, ?_, ?_⟩
  · exact flatMap_bothRights_nodup (hnodup.sublist (take_sublist _ _))
  · intro spec hspec
    rw [mem_flatMap_bothRights] at hspec
    exact (hlane spec).mpr (mem_of_mem_take hspec)
  · intro spec hspec
    rw [mem_flatMap_bothRights] at hspec ⊢
    exact hspec
  · intro spec hspec hother other hmem hexpiry
    rw [mem_flatMap_bothRights, take_append, mem_append] at hspec ⊢
    have hreached : 0 < m - front.length := by
      rcases hspec with hspec | hspec
      · exact absurd (hfront _ (mem_of_mem_take hspec)) hother
      · by_contra hzero
        rw [Nat.eq_zero_of_not_pos hzero, take_zero] at hspec
        cases hspec
    left
    rw [take_of_length_le (by omega)]
    refine (mem_append.mp ((hlane other).mp hmem)).resolve_right ?_
    intro hlater
    exact hnext _ hlater hexpiry
  · intro spec hspec other hmem hexpiry hnear
    by_contra hcut
    rw [mem_flatMap_bothRights, take_append, mem_append] at hspec hcut
    rw [not_or] at hcut
    have hboth := mem_append.mp ((hlane other).mp hmem)
    have hle : (spec.strike - plan.atmStrike).natAbs ≤
        (other.strike - plan.atmStrike).natAbs := by
      by_cases hcurrent : spec.expiry = pair.expiry
      · have hspecFront := hspec.resolve_right fun hlater =>
          hnext _ (mem_of_mem_take hlater) hcurrent
        have hotherFront := hboth.resolve_right fun hlater =>
          hnext _ hlater (hexpiry.trans hcurrent)
        have hrank := rel_of_mem_take hfrontSorted hspecFront hotherFront hcut.1
        exact natAbs_le_of_pairRank_le hrank
      · have hspecNext := hspec.resolve_left fun hearly =>
          hcurrent (hfront _ (mem_of_mem_take hearly))
        have hotherNext := hboth.resolve_left fun hearly =>
          hcurrent (hexpiry.symm.trans (hfront _ hearly))
        have hrank := rel_of_mem_take hnextSorted hspecNext hotherNext hcut.2
        exact natAbs_le_of_pairRank_le hrank
    rw [Int.abs_eq_natAbs, Int.abs_eq_natAbs] at hnear
    omega

/-- **The line-budgeted plan covers the window.** The hot list holds whole pairs, the front expiry
and the near strikes first; with any slice it keeps to the budget; and where slices have room for a
pair, each contract of the sampling plan is either hot or in exactly one slice. -/
theorem option_plan_covers_window {atmReference : ℚ} {pair : ExpiryPair} {mode : String}
    {settings : SamplingSettings} {maxOptionLines : Int} {hotLaneShare : ℚ}
    {sampling : SamplingPlan} {plan : OptionSubscriptionPlan} (hfit : WindowsFit settings)
    (hsampling : buildSamplingPlan atmReference pair mode settings = .ok sampling)
    (hplan : buildOptionSubscriptionPlan atmReference pair mode settings maxOptionLines
      hotLaneShare = .ok plan) : HotFirst pair sampling plan.hot ∧
      ((plan.hot.length : Int) ≤ lineBudget maxOptionLines ∧ ∀ slice ∈ plan.rotations,
        (plan.hot.length : Int) + slice.length ≤ lineBudget maxOptionLines) ∧
      (2 ≤ rotationBudget maxOptionLines hotLaneShare → ∀ spec, sampling.Holds spec →
        spec ∈ plan.hot ∧ plan.rotations.countP (spec ∈ ·) = 0 ∨
          spec ∉ plan.hot ∧ plan.rotations.countP (spec ∈ ·) = 1) := by
  have hsampled := sampled_of_build hsampling
  rw [buildOptionSubscriptionPlan] at hplan
  split at hplan
  · cases hplan
  · next sampling' hsampling' =>
    obtain rfl : sampling' = sampling := Except.ok.inj (hsampling'.symm.trans hsampling)
    cases hplan
    have hbudget := budgets_le maxOptionLines hotLaneShare
    have hhot : ((orderHot pair.expiry sampling').take
        (hotBudget maxOptionLines hotLaneShare).toNat).length ≤
          (hotBudget maxOptionLines hotLaneShare).toNat := length_take_le _ _
    refine ⟨?_, ⟨?_, ?_⟩, ?_⟩
    · obtain ⟨m, hm⟩ := hotBudget_even maxOptionLines hotLaneShare
      show HotFirst pair sampling' ((orderHot pair.expiry sampling').take _)
      rw [hm]
      exact hotFirst_take hsampled m
    · show (((orderHot pair.expiry sampling').take _).length : Int) ≤ _
      omega
    · intro slice hslice
      have hlength : slice.length ≤ (rotationBudget maxOptionLines hotLaneShare).toNat := by
        rw [OptionSubscriptionPlan.build] at hslice
        split at hslice
        · cases hslice
        · obtain ⟨group, -, hslice⟩ := mem_flatMap.mp hslice
          exact slices_length_le hslice
      show (((orderHot pair.expiry sampling').take _).length : Int) + slice.length ≤ _
      omega
    · intro hrotation spec hholds
      have hroom : 2 ≤ (rotationBudget maxOptionLines hotLaneShare).toNat := by omega
      have hgrouped : spec ∈ (orderedGroups sampling').flatten := by
        rw [mem_orderedGroups hsampled]
        rcases hholds with hspec | hspec
        · exact rolling_of_hot hsampled hfit hspec
        · exact hspec
      by_cases hspec : spec ∈ (orderHot pair.expiry sampling').take
          (hotBudget maxOptionLines hotLaneShare).toNat
      · left
        refine ⟨hspec, ?_⟩
        rw [countP_eq_zero]
        intro slice hslice hmem
        exact (OptionSubscriptionPlan.build _ _ _ _ _ _ _).slice_cold slice hslice spec
          (of_decide_eq_true hmem) hspec
      · right
        refine ⟨hspec, ?_⟩
        apply countP_mem_of_nodup_flatten
        · rw [rotations_flatten hroom]
          exact (orderedGroups_flatten_nodup hsampled).filter _
        · rw [rotations_flatten hroom, mem_filter]
          exact ⟨hgrouped, decide_eq_true hspec⟩

/-- Two expiries, two groups, and lines for three pairs. -/
def narrowSettings : SamplingSettings where
  strikeStep := 5
  windowPoints := 10
  hotWindowPoints := 5
  groupCount := 2
  groupIntervalSeconds := 15
  degradedGroupCount := 4
  degradedGroupIntervalSeconds := 30
  groupStrategy := "interleaved"
  hotHumanCadenceSeconds := 5
  hotExecutionCadenceSeconds := 2
  includeNextExpiry := true
  nextExpiryWindowPoints := 10
  nextExpiryHotWindowPoints := 5

def twoDays : ExpiryPair := ⟨"20260105", "20260106", by decide⟩

theorem narrow_plan_covers : ∃ sampling plan,
    buildSamplingPlan 5001 twoDays "human_alert" narrowSettings = .ok sampling ∧
      buildOptionSubscriptionPlan 5001 twoDays "human_alert" narrowSettings 6 (1 / 2) = .ok plan ∧
      HotFirst twoDays sampling plan.hot ∧
      ∀ spec, sampling.Holds spec →
        spec ∈ plan.hot ∧ plan.rotations.countP (spec ∈ ·) = 0 ∨
          spec ∉ plan.hot ∧ plan.rotations.countP (spec ∈ ·) = 1 := by
  have hfit : WindowsFit narrowSettings := by
    constructor <;> decide
  have hok : (buildSamplingPlan 5001 twoDays "human_alert" narrowSettings).isOk ∧
      2 ≤ rotationBudget 6 (1 / 2) := by
    decide +kernel
  cases hsampling : buildSamplingPlan 5001 twoDays "human_alert" narrowSettings with
  | error e =>
    rw [hsampling] at hok
    cases hok.1
  | ok sampling =>
    cases hplan : buildOptionSubscriptionPlan 5001 twoDays "human_alert" narrowSettings 6
        (1 / 2) with
    | error e =>
      rw [buildOptionSubscriptionPlan] at hplan
      split at hplan
      · next hfailed => cases hsampling.symm.trans hfailed
      · cases hplan
    | ok plan =>
      obtain ⟨hhot, -, hcover⟩ := option_plan_covers_window hfit hsampling hplan
      exact ⟨sampling, plan, rfl, rfl, hhot, hcover hok.2⟩

end SpxSpark.Ibkr
