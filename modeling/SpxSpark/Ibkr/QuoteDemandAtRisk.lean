import SpxSpark.Ibkr.QuoteDemandPinned

/-!
# QuoteDemandAtRisk — cards that may be resting, and the one that is pinned

The state may hold several cards that could be orders by now: delivered ones that are monitored, the
active plan, ones whose terminal receipt is being checked.
-/

namespace SpxSpark.Ibkr.QuoteDemand

open Lib Strategy
open JsonValue (get object)

variable {py : PyTools} {input : SelectionInput} {state : Members} {now : Instant}
  {sessionDate : Text} {card : CardSource}

/-! ## The card that comes first -/

structure Cards where
  last : Members
  active : Members
  monitors : List Members
  checks : List Members

/-- What the state holds, where its lists can be gone through. -/
structure Holds (state : Members) (cards : Cards) : Prop where
  last : cards.last = mappingOrEmpty (get "last_candidate".toList state)
  active : cards.active = mappingOrEmpty (get "active_manual_plan".toList state)
  monitors : mappings (get "manual_plan_monitors".toList state) = .ok cards.monitors
  checks : mappings (get "pending_terminal_receipt_checks".toList state) =
    .ok cards.checks

/-- No monitor comes first: none is live, or the first that is has no plan in it. -/
def Unmonitored (py : PyTools) (now : Instant) (monitors : List Members) : Prop :=
  NoneLive (liveMonitor py now) monitors.reverse ∨
    ∃ stop, FirstLive (liveMonitor py now) monitors.reverse ([], stop)

/-- The card that comes first: the live monitor that was added last, or else the active plan, or
else the live check that was added last. -/
inductive ComesFirst (py : PyTools) (now : Instant) (cards : Cards) : CardSource → Prop
  | monitor {plan : Members} {stop : Instant}
      (hlive : FirstLive (liveMonitor py now) cards.monitors.reverse (plan, stop))
      (hplan : plan ≠ []) :
      ComesFirst py now cards ⟨completedPlan py cards.last plan, some stop, confirmed, true⟩
  | active {stop : Option Instant} (hmonitors : Unmonitored py now cards.monitors)
      (hactive : cards.active ≠ [])
      (hstop : optionalTime py (get "exit_at".toList
        (completedPlan py cards.last cards.active)) = .ok stop) :
      ComesFirst py now cards ⟨completedPlan py cards.last cards.active, stop, confirmed, true⟩
  | check {source : Members} {stop : Instant} (hmonitors : Unmonitored py now cards.monitors)
      (hactive : cards.active = [])
      (hlive : FirstLive (liveCheck py now) cards.checks.reverse (source, stop)) :
      ComesFirst py now cards ⟨source, some stop, pending, true⟩

/-- No card comes first. -/
structure NoneFirst (py : PyTools) (now : Instant) (cards : Cards) : Prop where
  monitors : Unmonitored py now cards.monitors
  active : cards.active = []
  checks : NoneLive (liveCheck py now) cards.checks.reverse

theorem lastCandidate_atRisk {last : Members} (h : lastCandidate py last = .ok (some card)) :
    card.orderAtRisk = false := by
  obtain ⟨observed, _, h⟩ := of_bind_ok h
  split at h
  · obtain ⟨stop, _, h⟩ := of_bind_ok h
    obtain rfl := Option.some.inj (Except.ok.inj h)
    rfl
  · cases h

/-- The card that comes first, or the last candidate where none does. -/
def CardOf (py : PyTools) (now : Instant) (cards : Cards) (found : Option CardSource) : Prop :=
  (∃ card, found = some card ∧ ComesFirst py now cards card) ∨
    NoneFirst py now cards ∧ lastCandidate py cards.last = .ok found

theorem Unmonitored.plan_nil {monitors : List Members} (h : Unmonitored py now monitors)
    {plan : Members} {stop : Instant}
    (hlive : FirstLive (liveMonitor py now) monitors.reverse (plan, stop)) : plan = [] := by
  rw [← findLive_some_iff] at hlive
  rcases h with hnone | ⟨other, hother⟩
  · rw [findLive_none_iff.mpr hnone] at hlive
    cases hlive
  · rw [findLive_some_iff.mpr hother] at hlive
    cases hlive
    rfl

theorem planOrCheck_iff {cards : Cards} {found : Option CardSource}
    (hmonitors : Unmonitored py now cards.monitors) :
    planOrCheck py cards.active cards.last cards.checks now = .ok found ↔
      CardOf py now cards found := by
  by_cases hactive : cards.active = []
  · unfold planOrCheck
    rw [if_neg (by rw [hactive]; decide)]
    constructor
    · intro h
      obtain ⟨check, hcheck, h⟩ := of_bind_ok h
      cases check with
      | some check =>
        obtain ⟨source, stop⟩ := check
        exact .inl ⟨_, (Except.ok.inj h).symm,
          .check hmonitors hactive (findLive_some_iff.mp hcheck)⟩
      | none => exact .inr ⟨⟨hmonitors, hactive, findLive_none_iff.mp hcheck⟩, h⟩
    · rintro (⟨card, rfl, hfirst⟩ | ⟨hnone, hlast⟩)
      · cases hfirst with
        | monitor hlive hplan => exact absurd (hmonitors.plan_nil hlive) hplan
        | active _ hne _ => exact absurd hactive hne
        | check _ _ hlive =>
          rw [findLive_some_iff.mpr hlive]
          rfl
      · rw [findLive_none_iff.mpr hnone.checks]
        exact hlast
  · unfold planOrCheck
    rw [if_pos (by simpa using hactive)]
    constructor
    · intro h
      obtain ⟨stop, hstop, h⟩ := of_bind_ok h
      exact .inl ⟨_, (Except.ok.inj h).symm, .active hmonitors hactive hstop⟩
    · rintro (⟨card, rfl, hfirst⟩ | ⟨hnone, _⟩)
      · cases hfirst with
        | monitor hlive hplan => exact absurd (hmonitors.plan_nil hlive) hplan
        | active _ _ hstop =>
          dsimp only
          rw [hstop]
          rfl
        | check _ hnil _ => exact absurd hnil hactive
      · exact absurd hnone.active hactive

theorem cardSource_iff {found : Option CardSource} : cardSource py state now = .ok found ↔
    ∃ cards, Holds state cards ∧ CardOf py now cards found := by
  constructor
  · intro h
    obtain ⟨monitors, hmonitors, h⟩ := of_bind_ok h
    obtain ⟨checks, hchecks, h⟩ := of_bind_ok h
    obtain ⟨live, hlive, h⟩ := of_bind_ok h
    refine ⟨⟨_, _, monitors, checks⟩, ⟨rfl, rfl, hmonitors, hchecks⟩, ?_⟩
    cases live with
    | none => exact (planOrCheck_iff (.inl (findLive_none_iff.mp hlive))).mp h
    | some live =>
      obtain ⟨plan, stop⟩ := live
      rw [findLive_some_iff] at hlive
      cases plan with
      | nil => exact (planOrCheck_iff (.inr ⟨stop, hlive⟩)).mp h
      | cons member rest =>
        exact .inl ⟨_, (Except.ok.inj h).symm, .monitor hlive (List.cons_ne_nil _ _)⟩
  · rintro ⟨cards, hholds, hcard⟩
    unfold cardSource
    dsimp only
    rw [hholds.monitors, hholds.checks, bind_of_ok, bind_of_ok, ← hholds.last, ← hholds.active]
    by_cases hmonitors : Unmonitored py now cards.monitors
    · have hplan := (planOrCheck_iff hmonitors).mpr hcard
      rcases hmonitors with hnone | ⟨stop, hstop⟩
      · rw [findLive_none_iff.mpr hnone]
        exact hplan
      · rw [findLive_some_iff.mpr hstop]
        exact hplan
    · rcases hcard with ⟨card, rfl, hfirst⟩ | ⟨hnone, _⟩
      · cases hfirst with
        | @monitor plan stop hlive hplan =>
          rw [findLive_some_iff.mpr hlive]
          cases plan with
          | nil => exact absurd rfl hplan
          | cons member rest => rfl
        | active h _ _ => exact absurd h hmonitors
        | check h _ _ => exact absurd h hmonitors
      · exact absurd hnone.monitors hmonitors

/-! ## The demand of a card -/

/-- The request that a card makes, where the card is in order up to there. -/
structure Requests (py : PyTools) (sessionDate : Text) (now : Instant) (card : CardSource)
    (request : DemandRequest) : Prop where
  live : ∃ stop long short right coordinate, card.sourceUntil = some stop ∧ now < stop ∧
    cardLegs py card.source sessionDate = some (long, short, right) ∧
    cardCoordinate card.source = some coordinate ∧
    request = cardRequest py card sessionDate now stop long short right coordinate
  session : sourceExpiry py card.source sessionDate = sessionDate
  policy : "gth_level_manual_candidate.v1+sha256:".toList.isPrefixOf
    (cardPolicy py card.source) = true

/-- The card is live and in order, and what it requests can be built. -/
def Pinnable (py : PyTools) (sessionDate : Text) (now : Instant) (card : CardSource) : Prop :=
  ∃ request, Requests py sessionDate now card request ∧ Buildable py request

theorem cardDemand_iff : (∃ demand reason, cardDemand py card sessionDate now =
    .ok (some demand, reason)) ↔ Pinnable py sessionDate now card := by
  constructor
  · rintro ⟨demand, reason, h⟩
    unfold cardDemand at h
    split at h
    · cases h
    rename_i stop hstop
    split at h
    · cases h
    rename_i hnow
    split at h
    · cases h
    rename_i hsession
    split at h
    · cases h
    rename_i long short right hlegs
    split at h
    · cases h
    rename_i coordinate hcoordinate
    split at h
    · cases h
    rename_i hpolicy
    exact ⟨_, ⟨⟨stop, long, short, right, coordinate, hstop, not_le.mp hnow, hlegs, hcoordinate,
      rfl⟩, not_not.mp hsession, by simpa using hpolicy⟩,
      build_iff.mp ⟨demand, (exceptInvalid_some.mp h).1⟩⟩
  · rintro ⟨request, ⟨⟨stop, long, short, right, coordinate, hstop, hnow, hlegs, hcoordinate, rfl⟩,
      hsession, hpolicy⟩, hbuildable⟩
    obtain ⟨demand, hbuild⟩ := build_iff.mpr hbuildable
    refine ⟨demand, "selected_unified_manual_candidate".toList, ?_⟩
    unfold cardDemand
    rw [hstop]
    dsimp only
    rw [if_neg (not_le.mpr hnow), if_neg (not_not.mpr hsession), hlegs]
    dsimp only
    rw [hcoordinate]
    dsimp only
    rw [hpolicy, if_neg (by decide)]
    exact exceptInvalid_some.mpr ⟨hbuild, rfl⟩

theorem cardDemand_reason {reason : Text}
    (h : cardDemand py card sessionDate now = .ok (none, reason)) :
    reason ≠ "no_unified_manual_quote_demand".toList := by
  have hinvalid : ∀ {built}, exceptInvalid built "selected_unified_manual_candidate".toList
      "manual_candidate_quote_demand_invalid".toList = .ok (none, reason) →
      reason = "manual_candidate_quote_demand_invalid".toList := by
    intro built h
    unfold exceptInvalid at h
    split at h
    · cases h
    · cases h
    · exact (congrArg Prod.snd (Except.ok.inj h)).symm
  unfold cardDemand at h
  split at h
  · obtain rfl : _ = reason := congrArg Prod.snd (Except.ok.inj h)
    decide
  split at h
  · obtain rfl : _ = reason := congrArg Prod.snd (Except.ok.inj h)
    decide
  split at h
  · obtain rfl : _ = reason := congrArg Prod.snd (Except.ok.inj h)
    decide
  split at h
  · obtain rfl : _ = reason := congrArg Prod.snd (Except.ok.inj h)
    decide
  split at h
  · obtain rfl : _ = reason := congrArg Prod.snd (Except.ok.inj h)
    decide
  split at h
  · obtain rfl : _ = reason := congrArg Prod.snd (Except.ok.inj h)
    decide
  · rw [hinvalid h]
    decide

/-! ## The demand of a position -/

/-- An open position that has not ended, whose fields are in order and whose two calls can be
pinned. -/
def PositionPinnable (py : PyTools) (input : SelectionInput) (position : Members) : Prop :=
  ∃ stop request, optionalTime py (get "time_stop_at".toList position) = .ok (some stop) ∧
    input.at_ < stop ∧
    sourceDemandIssue py position active input.sessionDate input.at_ = .ok none ∧
    sourceRequest py position
      (strOr py (orValue (get "source_signal_id".toList position)
        (get "episode_id".toList position)) []) active input.sessionDate
      (callStrike py position "long_contract_id" input.sessionDate)
      (callStrike py position "short_contract_id" input.sessionDate) input.at_
      (leaseUntil input.at_ stop) = .ok request ∧
    Buildable py request

theorem virtualDemand_iff {position : Members} :
    (∃ demand reason, virtualDemand py position input.sessionDate input.at_ =
      .ok (some demand, reason)) ↔ PositionPinnable py input position := by
  constructor
  · rintro ⟨demand, reason, h⟩
    obtain ⟨stop, hstop, h⟩ := of_bind_ok h
    cases stop with
    | none => cases h
    | some stop =>
      dsimp only at h
      split at h
      · cases h
      rename_i hnow
      obtain ⟨issue, hissue, h⟩ := of_bind_ok h
      cases issue with
      | some issue => cases h
      | none =>
        obtain ⟨request, hrequest, hbuild⟩ := of_bind_ok (exceptInvalid_some.mp h).1
        exact ⟨stop, request, hstop, not_le.mp hnow, hissue, hrequest,
          build_iff.mp ⟨demand, hbuild⟩⟩
  · rintro ⟨stop, request, hstop, hnow, hissue, hrequest, hbuildable⟩
    obtain ⟨demand, hbuild⟩ := build_iff.mpr hbuildable
    refine ⟨demand, "selected".toList, ?_⟩
    unfold virtualDemand
    rw [hstop, bind_of_ok]
    dsimp only
    rw [if_neg (not_le.mpr hnow)]
    unfold demandFromContracts
    rw [hissue, bind_of_ok]
    dsimp only
    unfold safeBuildDemand
    rw [hrequest, bind_of_ok]
    exact exceptInvalid_some.mpr ⟨hbuild, rfl⟩

/-! ## The selection -/

/-- No forced clear, and the last candidate, or else signal or pending event, has a demand. -/
def OrdinaryPinned (py : PyTools) (input : SelectionInput) (last : Members) : Prop :=
  input.forcedClearReason.filter (· ≠ []) = none ∧
    ((∃ card, lastCandidate py last = .ok (some card) ∧
        Pinnable py input.sessionDate input.at_ card) ∨
      lastCandidate py last = .ok none ∧
        ∃ demand reason, gthDemand py input = .ok (some demand, reason))

/-- What comes first is in order. -/
inductive Pinned (py : PyTools) (input : SelectionInput) : Prop
  | position {position : Members} (hposition : virtualSpread input.virtualActive = some position)
      (hpinnable : PositionPinnable py input position) : Pinned py input
  | card {state : Members} {cards : Cards} {card : CardSource}
      (hposition : virtualSpread input.virtualActive = none)
      (hstate : input.manualCandidateState = some (.object state)) (hholds : Holds state cards)
      (hfirst : ComesFirst py input.at_ cards card)
      (hpinnable : Pinnable py input.sessionDate input.at_ card) : Pinned py input
  | ordinary {state : Members} {cards : Cards}
      (hposition : virtualSpread input.virtualActive = none)
      (hstate : input.manualCandidateState = some (.object state)) (hholds : Holds state cards)
      (hnone : NoneFirst py input.at_ cards) (hordinary : OrdinaryPinned py input cards.last) :
      Pinned py input

theorem comesFirst_atRisk {cards : Cards} (h : ComesFirst py now cards card) :
    card.orderAtRisk = true := by
  cases h with
  | monitor => rfl
  | active => rfl
  | check => rfl

theorem ordinaryDemand_iff {manual : Selected} :
    (∃ demand reason, ordinaryDemand py input manual = .ok (some demand, reason)) ↔
      input.forcedClearReason.filter (· ≠ []) = none ∧
        (manual.1.isSome = true ∨ manual.1 = none ∧
          manual.2 = "no_unified_manual_quote_demand".toList ∧
          ∃ demand reason, gthDemand py input = .ok (some demand, reason)) := by
  unfold ordinaryDemand
  cases hforced : input.forcedClearReason.filter (· ≠ []) with
  | some reason =>
    constructor
    · rintro ⟨demand, other, h⟩
      cases h
    · rintro ⟨h, _⟩
      cases h
  | none =>
    dsimp only
    obtain ⟨manual, reason⟩ := manual
    cases manual with
    | some demand =>
      constructor
      · intro _
        exact ⟨rfl, .inl rfl⟩
      · intro _
        exact ⟨demand, reason, rfl⟩
    | none =>
      dsimp only [Option.isSome_none]
      rw [if_neg Bool.false_ne_true]
      by_cases hreason : reason = "no_unified_manual_quote_demand".toList
      · rw [if_neg (not_not.mpr hreason)]
        constructor
        · intro h
          exact ⟨rfl, .inr ⟨rfl, hreason, h⟩⟩
        · rintro ⟨_, h | ⟨_, _, h⟩⟩
          · cases h
          · exact h
      · rw [if_pos hreason]
        constructor
        · rintro ⟨demand, other, h⟩
          cases h
        · rintro ⟨_, h | ⟨_, h, _⟩⟩
          · cases h
          · exact absurd h hreason

theorem chosen_last_iff {last : Members} {found : Option CardSource}
    (hlast : lastCandidate py last = .ok found) :
    (∃ demand reason, cardSelection py found input.sessionDate input.at_ >>= chosenDemand py input =
      .ok (some demand, reason)) ↔ OrdinaryPinned py input last := by
  unfold OrdinaryPinned
  rw [hlast]
  cases found with
  | none =>
    show (∃ demand reason, ordinaryDemand py input
      (notSelected "no_unified_manual_quote_demand") = .ok (some demand, reason)) ↔ _
    rw [ordinaryDemand_iff]
    constructor
    · rintro ⟨hforced, h | ⟨_, _, h⟩⟩
      · cases h
      · exact ⟨hforced, .inr ⟨rfl, h⟩⟩
    · rintro ⟨hforced, ⟨card, h, _⟩ | ⟨_, h⟩⟩
      · cases h
      · exact ⟨hforced, .inr ⟨rfl, rfl, h⟩⟩
  | some card =>
    have hrisk := lastCandidate_atRisk hlast
    have hchosen : ∀ selected, chosenDemand py input (selected, card.orderAtRisk) =
        ordinaryDemand py input selected := by
      intro selected
      unfold chosenDemand
      rw [hrisk, if_neg Bool.false_ne_true]
    constructor
    · rintro ⟨demand, reason, h⟩
      obtain ⟨manual, hmanual, h⟩ := of_bind_ok h
      obtain ⟨selected, hselected, hmanual⟩ := of_bind_ok hmanual
      obtain rfl := Except.ok.inj hmanual
      rw [hchosen] at h
      obtain ⟨hforced, h⟩ := ordinaryDemand_iff.mp ⟨demand, reason, h⟩
      refine ⟨hforced, .inl ⟨card, rfl, cardDemand_iff.mp ?_⟩⟩
      obtain ⟨chosen, why⟩ := selected
      rcases h with hsome | ⟨hnone, hreason, _⟩
      · obtain ⟨found, rfl⟩ := Option.isSome_iff_exists.mp hsome
        exact ⟨found, why, hselected⟩
      · obtain rfl : chosen = none := hnone
        exact absurd hreason (cardDemand_reason hselected)
    · rintro ⟨hforced, ⟨other, hother, hpinnable⟩ | ⟨h, _⟩⟩
      · obtain rfl := Option.some.inj (Except.ok.inj hother)
        obtain ⟨demand, reason, hselected⟩ := cardDemand_iff.mpr hpinnable
        unfold cardSelection
        dsimp only
        rw [hselected, bind_of_ok, bind_of_ok, hchosen]
        exact ordinaryDemand_iff.mpr ⟨hforced, .inl rfl⟩
      · cases h

theorem select_iff (hsession : isSessionDate input.sessionDate = true)
    (hstate : input.manualCandidateState = some (.object state)) :
    (∃ demand reason, selectGthQuoteDemand py input = .ok (some demand, reason)) ↔
      Pinned py input := by
  unfold selectGthQuoteDemand
  rw [hsession, if_neg (by decide)]
  cases hposition : virtualSpread input.virtualActive with
  | some position =>
    dsimp only
    rw [virtualDemand_iff]
    constructor
    · exact .position hposition
    · intro h
      cases h with
      | position hother hpinnable =>
        rw [hposition] at hother
        obtain rfl := Option.some.inj hother
        exact hpinnable
      | card hother => rw [hposition] at hother; cases hother
      | ordinary hother => rw [hposition] at hother; cases hother
  | none =>
    dsimp only
    unfold manualCandidateDemand
    rw [hstate]
    constructor
    · rintro ⟨demand, reason, h⟩
      obtain ⟨manual, hmanual, hchosen⟩ := of_bind_ok h
      obtain ⟨found, hfound, hmanual⟩ := of_bind_ok hmanual
      obtain ⟨cards, hholds, hcard⟩ := cardSource_iff.mp hfound
      rcases hcard with ⟨card, rfl, hfirst⟩ | ⟨hnone, hlast⟩
      · obtain ⟨selected, hselected, hmanual⟩ := of_bind_ok hmanual
        obtain rfl := Except.ok.inj hmanual
        unfold chosenDemand at hchosen
        rw [comesFirst_atRisk hfirst, if_pos rfl] at hchosen
        obtain rfl := Except.ok.inj hchosen
        exact .card hposition hstate hholds hfirst (cardDemand_iff.mp ⟨demand, reason, hselected⟩)
      · refine .ordinary hposition hstate hholds hnone ((chosen_last_iff hlast).mp ?_)
        rw [hmanual]
        exact ⟨demand, reason, hchosen⟩
    · intro h
      show ∃ demand reason, ((cardSource py state input.at_ >>= fun card =>
        cardSelection py card input.sessionDate input.at_) >>= chosenDemand py input) =
          .ok (some demand, reason)
      cases h with
      | position hother => rw [hposition] at hother; cases hother
      | card _ hother hholds hfirst hpinnable =>
        rw [hstate] at hother
        obtain rfl := object.inj (Option.some.inj hother)
        rw [cardSource_iff.mpr ⟨_, hholds, .inl ⟨_, rfl, hfirst⟩⟩, bind_of_ok]
        obtain ⟨demand, reason, hselected⟩ := cardDemand_iff.mpr hpinnable
        refine ⟨demand, reason, ?_⟩
        unfold cardSelection
        dsimp only
        rw [hselected, bind_of_ok, bind_of_ok]
        unfold chosenDemand
        rw [comesFirst_atRisk hfirst, if_pos rfl]
      | @ordinary _ cards _ hother hholds hnone hordinary =>
        rw [hstate] at hother
        obtain rfl := object.inj (Option.some.inj hother)
        have hlast : ∃ found, lastCandidate py cards.last = .ok found := by
          rcases hordinary.2 with ⟨card, hlast, _⟩ | ⟨hlast, _⟩
          · exact ⟨_, hlast⟩
          · exact ⟨_, hlast⟩
        obtain ⟨found, hlast⟩ := hlast
        rw [cardSource_iff.mpr ⟨_, hholds, .inr ⟨hnone, hlast⟩⟩, bind_of_ok]
        exact (chosen_last_iff hlast).mpr hordinary

/-! ## Cards at risk -/

/-- A plan with two exact legs in debit order, a coordinate of the future that names its provider
and passes the contract, and a known policy. -/
structure PlanInOrder (py : PyTools) (sessionDate : Text) (plan : Members) : Prop where
  legs : ∃ long short right, cardLegs py plan sessionDate = some (long, short, right) ∧
    DebitOrder right long short
  coordinate : ∃ coordinate normalized provider, cardCoordinate plan = some coordinate ∧
    normalizeCoordinate py coordinate = .ok normalized ∧ Stripped provider ∧
    NamesProvider py normalized provider
  policy : "gth_level_manual_candidate.v1+sha256:".toList.isPrefixOf (cardPolicy py plan) = true

/-- A monitored card, the active plan or a card whose receipt is being checked, with a plan that is
in order and has not ended. -/
inductive HasCardAtRisk (py : PyTools) (sessionDate : Text) (now : Instant) (state : Members) : Prop
  | monitor {items : List JsonValue} {monitor plan : Members} {stop : Instant}
      (hitems : get "manual_plan_monitors".toList state = some (.array items))
      (hmonitor : .object monitor ∈ items)
      (hplan : get "active_plan".toList monitor = some (.object plan))
      (hstop : monitorStop py monitor plan = .ok (some stop)) (hlive : now < stop)
      (horder : PlanInOrder py sessionDate plan) : HasCardAtRisk py sessionDate now state
  | active {plan : Members} {stop : Instant}
      (hplan : get "active_manual_plan".toList state = some (.object plan))
      (hstop : optionalTime py (get "exit_at".toList plan) = .ok (some stop))
      (hlive : now < stop) (horder : PlanInOrder py sessionDate plan) :
      HasCardAtRisk py sessionDate now state
  | check {items : List JsonValue} {check plan : Members} {stop : Instant}
      (hitems : get "pending_terminal_receipt_checks".toList state = some (.array items))
      (hcheck : .object check ∈ items)
      (hplan : get "active_plan".toList check = some (.object plan))
      (hstop : optionalTime py (get "exit_at".toList plan) = .ok (some stop))
      (hlive : now < stop) (horder : PlanInOrder py sessionDate plan) :
      HasCardAtRisk py sessionDate now state

/-- The state holds a card at risk. -/
def AtRisk (py : PyTools) (input : SelectionInput) : Prop :=
  ∃ state, input.manualCandidateState = some (.object state) ∧
    HasCardAtRisk py input.sessionDate input.at_ state

theorem isSessionDate_of_cardLegs {plan : Members} {legs : Int × Int × Text}
    (h : cardLegs py plan sessionDate = some legs) : isSessionDate sessionDate = true := by
  by_contra hdate
  have hnone : ∀ contractId, spxwLegFromContractId py contractId sessionDate = none := by
    intro contractId
    have hread : readSpxwLeg py contractId sessionDate = .error .valueError := by
      unfold readSpxwLeg validSessionDate
      dsimp only [Option.bind_some, JsonValue.text?]
      rw [if_neg hdate]
      rfl
    unfold spxwLegFromContractId
    rw [hread]
  unfold cardLegs at h
  rw [hnone] at h
  cases h

theorem HasCardAtRisk.session (h : HasCardAtRisk py sessionDate now state) :
    isSessionDate sessionDate = true := by
  obtain ⟨plan, horder⟩ : ∃ plan, PlanInOrder py sessionDate plan := by
    cases h with
    | monitor _ _ _ _ _ horder => exact ⟨_, horder⟩
    | active _ _ _ horder => exact ⟨_, horder⟩
    | check _ _ _ _ _ horder => exact ⟨_, horder⟩
  obtain ⟨long, short, right, hlegs, _⟩ := horder.legs
  exact isSessionDate_of_cardLegs hlegs

/-- **A card at risk stays pinned exactly when what comes first is in order.** -/
theorem legs_at_risk_pinned (py : PyTools) (input : SelectionInput) (h : AtRisk py input) :
    (∃ demand reason, selectGthQuoteDemand py input = .ok (some demand, reason)) ↔
      Pinned py input := by
  obtain ⟨state, hstate, hcard⟩ := h
  exact select_iff hcard.session hstate

/-! ## An expired plan in front of a card whose receipt is being checked -/

/-- `hashlib.sha256`, of the texts that are hashed here. -/
def sampleDigest (text : Text) : Text :=
  if text = (encodedPolicy "same-session SPXW call-or-put debit spread" "2").toList then
    "b930f90e72a3a92a991d37acca2986e499af88a16b9b5e822ba3d44348045184".toList
  else "84bc3bba0634047fc1a31084b9ad73dd410a4eb0703714df4c8899fa8d8803be".toList

theorem isSpace_sampleDigest (text : Text) : ∀ c ∈ sampleDigest text, isSpace c = false := by
  intro c hc
  have hall : ((sampleDigest text).all fun c => !isSpace c) = true := by
    unfold sampleDigest
    split
    · decide
    · decide
  exact Bool.not_eq_true' _ |>.mp (List.all_eq_true.mp hall c hc)

def sampleStr : JsonValue → Text
  | .string text => text
  | .null => "None".toList
  | .bool value => if value then "True".toList else "False".toList
  | .int value => (toString value).toList
  | _ => []

def sampleTools : PyTools where
  str := sampleStr
  str_string := fun _ => rfl
  isoformat := IsoTime.isoformat
  fromisoformat := readIso
  fromisoformat_isoformat := readIso_isoformat
  float := fun text =>
    if text ≠ [] ∧ text.all Char.isDigit then some (Calendar.digitsValue text : ℚ) else none
  sha256 := sampleDigest
  sha256_hex := isSpace_sampleDigest

/-- A card with two calls of the session. -/
def samplePlan (exitAt : String) : Members :=
  [("candidate_id".toList, .string "card-1".toList),
    ("ready_event_id".toList, .string "card-1:ready".toList),
    ("expiry".toList, .string "2026-03-02".toList),
    ("long_contract_id".toList, .string "option:SPX:SPXW:20260302:5000:C".toList),
    ("short_contract_id".toList, .string "option:SPX:SPXW:20260302:5020:C".toList),
    ("invalidation_coordinate".toList, .object
      [("kind".toList, .string "raw_es".toList),
        ("instrument_id".toList, .string "future:ES".toList),
        ("provider".toList, .string "schwab".toList)]),
    ("policy_version".toList,
      .string "gth_level_manual_candidate.v1+sha256:0123456789abcdef".toList),
    ("exit_at".toList, .string exitAt.toList)]

/-- A card whose receipt is being checked, which ends at four o'clock. -/
def sampleChecks : Text × JsonValue :=
  ("pending_terminal_receipt_checks".toList, .array [.object
    [("ready_event_id".toList, .string "card-1:ready".toList),
      ("active_plan".toList, .object (samplePlan "2026-03-02T16:00:00+00:00"))]])

/-- The selection at three o'clock. -/
def sampleInput (state : Members) : SelectionInput where
  at_ := (IsoTime.fromisoformat "2026-03-02T15:00:00+00:00".toList).getD 0
  sessionDate := "2026-03-02".toList
  provider := some "schwab".toList
  gthState := []
  virtualActive := none
  manualCandidateState := some (.object state)
  forcedClearReason := none

/-- The state with the check, and with an active plan that ended at half past two. -/
def expiredState : Members :=
  [("active_manual_plan".toList, .object (samplePlan "2026-03-02T14:30:00+00:00")), sampleChecks]

theorem sampleLegs : cardLegs sampleTools (samplePlan "2026-03-02T16:00:00+00:00")
    "2026-03-02".toList = some (5000, 5020, call) := by
  decide +kernel

/-- The coordinate is in order, as it is found. -/
def sampleCoordinate : Members :=
  [("kind".toList, .string "raw_es".toList), ("instrument_id".toList, .string "future:ES".toList),
    ("provider".toList, .string "schwab".toList)]

/-- The coordinate, normalized. -/
def sampleNormalized : Members := override sampleCoordinate
  [("kind".toList, .string "raw_es".toList), ("instrument_id".toList, .string "future:ES".toList),
    ("observed_value".toList, .null), ("target_value".toList, .null),
    ("spx_observed_value".toList, .null), ("basis_points".toList, .null), ("as_of".toList, .null)]

theorem sampleNormalize : normalizeCoordinate sampleTools sampleCoordinate = .ok sampleNormalized :=
  rfl

theorem sampleNames : NamesProvider sampleTools sampleNormalized "schwab".toList where
  contract := rfl
  kind := rfl
  provider := rfl

theorem samplePlanInOrder : PlanInOrder sampleTools "2026-03-02".toList
    (samplePlan "2026-03-02T16:00:00+00:00") where
  legs := ⟨5000, 5020, call, sampleLegs, .inl ⟨rfl, by decide⟩⟩
  coordinate := ⟨sampleCoordinate, sampleNormalized, "schwab".toList, rfl, sampleNormalize,
    ⟨rfl, List.cons_ne_nil _ _⟩, sampleNames⟩
  policy := rfl

theorem sampleStop : optionalTime sampleTools (get "exit_at".toList
    (samplePlan "2026-03-02T16:00:00+00:00")) = .ok (some 1772467200000000) := by
  rfl

theorem sampleLive : (sampleInput []).at_ < 1772467200000000 := by
  decide +kernel

theorem sampleAtRisk (front : Members)
    (h : get "pending_terminal_receipt_checks".toList (front ++ [sampleChecks]) =
      some sampleChecks.2) : AtRisk sampleTools (sampleInput (front ++ [sampleChecks])) :=
  ⟨_, rfl, .check h (List.mem_singleton.mpr rfl) rfl sampleStop sampleLive
    samplePlanInOrder⟩

/-- The active plan has ended, and the card behind it is not looked at. -/
theorem expired_selects_none :
    (selectGthQuoteDemand sampleTools (sampleInput expiredState)).toOption.all (·.1.isNone) =
      true := by
  decide +kernel

theorem check_selects_some :
    (selectGthQuoteDemand sampleTools (sampleInput [sampleChecks])).toOption.any (·.1.isSome) =
      true := by
  decide +kernel

/-- Not every card at risk is pinned. -/
theorem expired_plan_hides_check : ¬ ∀ (py : PyTools) (input : SelectionInput), AtRisk py input →
    ∃ demand reason, selectGthQuoteDemand py input = .ok (some demand, reason) := by
  intro h
  obtain ⟨demand, reason, hselect⟩ := h sampleTools (sampleInput expiredState)
    (sampleAtRisk [("active_manual_plan".toList,
      .object (samplePlan "2026-03-02T14:30:00+00:00"))] rfl)
  have hnone := expired_selects_none
  rw [hselect] at hnone
  cases hnone

/-- Without the plan in front the card comes first, and is in order. -/
theorem check_alone_pinned : Pinned sampleTools (sampleInput [sampleChecks]) := by
  refine (legs_at_risk_pinned sampleTools (sampleInput [sampleChecks]) (sampleAtRisk [] rfl)).mp ?_
  have hsome := check_selects_some
  cases hselect : selectGthQuoteDemand sampleTools (sampleInput [sampleChecks]) with
  | error error =>
    rw [hselect] at hsome
    cases hsome
  | ok selected =>
    obtain ⟨demand, reason⟩ := selected
    rw [hselect] at hsome
    obtain ⟨found, rfl⟩ := Option.isSome_iff_exists.mp hsome
    exact ⟨found, reason, rfl⟩


end SpxSpark.Ibkr.QuoteDemand
