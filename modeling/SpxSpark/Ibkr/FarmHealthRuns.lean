import Mathlib.Tactic.Linarith
import SpxSpark.Ibkr.FarmHealth

/-!
# FarmHealthRuns — the outage clock over every run of the tracker

What an operation does to the farms is its `Effect`. The statuses and start times that the tracker
keeps are folds of the effects, so the tracker can be compared with a clock told from the operations
alone: a farm's outage begins when it first breaks after it was last ok.
-/

namespace SpxSpark.Ibkr

open Lib List

namespace Farm

open FarmHealthTracker (KeyError)

/-! ## Effects -/

inductive Effect
  | nothing
  | marks (farm : Text) (status : FarmLinkStatus) (now : ℚ)
  | clears (farm : Text)
  | resets

/-- The farm an observation is about, and its status; a broken one may be unidentified. -/
def observed (cases : CaseMapping) (errorCode : Int) (message : Text) (now : ℚ) : Effect :=
  let (status, farm) := classifyFarmError cases errorCode message
  if status = .unknown then .nothing
  else
    match farm.filter (· ≠ []) with
    | some name => .marks name status now
    | none => if status = .broken then .marks unknownFarm .broken now else .nothing

def Effect.of (cases : CaseMapping) : FarmHealthTracker.Operation → Effect
  | .observe errorCode message now => observed cases errorCode message now
  | .probeFailed _ now => .marks dataPlaneProbeFarm .broken now
  | .probeSucceeded => .clears dataPlaneProbeFarm
  | .dataFlowSilent _ now => .marks dataFlowSilenceFarm .broken now
  | .dataFlowLive => .clears dataFlowSilenceFarm
  | .reset => .resets

/-- The latest status of a farm. -/
def latestStep (farm : Text) (previous : Option FarmLinkStatus) : Effect → Option FarmLinkStatus
  | .nothing => previous
  | .marks other status _ => if other = farm then some status else previous
  | .clears other => if other = farm ∧ previous.isSome then some .ok else previous
  | .resets => none

/-- When a farm first broke after it was last ok. -/
def outageStep (farm : Text) (previous : Option ℚ) : Effect → Option ℚ
  | .nothing => previous
  | .marks other status now =>
    if other = farm then
      match status with
      | .broken => some (previous.getD now)
      | .connecting => previous
      | _ => none
    else previous
  | .clears other => if other = farm then none else previous
  | .resets => none

/-- When the present stretch of broken reports of a farm began: the clock the tracker keeps. -/
def stretchStep (farm : Text) (previous : Option ℚ) : Effect → Option ℚ
  | .nothing => previous
  | .marks other status now =>
    if other = farm then
      match status with
      | .broken => some (previous.getD now)
      | _ => none
    else previous
  | .clears other => if other = farm then none else previous
  | .resets => none

/-! ## The tracker's bookkeeping -/

/-- Every broken farm has a start time and no other farm has one; the status is broken when some
farm is; and the one start time is the least of them. -/
structure Sound (tracker : FarmHealthTracker) : Prop where
  clocked : ∀ farm, tracker.farms.lookup farm = some .broken ↔
    (tracker.brokenSinceByFarm.lookup farm).isSome = true
  broken : tracker.status = .broken ↔ ∃ farm, tracker.farms.lookup farm = some .broken
  least : ∀ t, (∃ since, tracker.brokenSince = some since ∧ since ≤ t) ↔
    ∃ farm start, tracker.brokenSinceByFarm.lookup farm = some start ∧ start ≤ t

theorem lookup_empty {ν : Type} (farm : Text) : (∅ : Dict Text ν).lookup farm = none :=
  AList.lookup_empty farm

theorem Sound.start : Sound {} where
  clocked farm := by
    show (∅ : Dict Text FarmLinkStatus).lookup farm = some .broken ↔
      ((∅ : Dict Text ℚ).lookup farm).isSome = true
    rw [lookup_empty, lookup_empty]
    constructor <;> intro h <;> cases h
  broken := by
    constructor
    · intro h
      cases h
    · rintro ⟨farm, h⟩
      cases (lookup_empty farm).symm.trans h
  least t := by
    constructor
    · rintro ⟨since, h, -⟩
      cases h
    · rintro ⟨farm, start, h, -⟩
      cases (lookup_empty farm).symm.trans h

variable {tracker : FarmHealthTracker}

theorem mem_brokenFarms {farm : Text} :
    farm ∈ tracker.brokenFarms ↔ tracker.farms.lookup farm = some .broken := by
  unfold FarmHealthTracker.brokenFarms
  rw [← AList.mem_keys, Dict.mem_restrict]
  constructor
  · rintro ⟨status, hlookup, hbroken⟩
    rw [hlookup, of_decide_eq_true hbroken]
  · intro hlookup
    exact ⟨_, hlookup, rfl⟩

theorem earliest_ok (starts : Dict Text ℚ) :
    ∀ farms : List Text, (∀ farm ∈ farms, (starts.lookup farm).isSome = true) →
      ∃ least, FarmHealthTracker.earliest starts farms = .ok least ∧
        ∀ t, (∃ since, least = some since ∧ since ≤ t) ↔
          ∃ farm ∈ farms, ∃ start, starts.lookup farm = some start ∧ start ≤ t := by
  intro farms
  induction farms with
  | nil =>
    intro _
    refine ⟨none, rfl, fun t => ⟨?_, ?_⟩⟩
    · rintro ⟨since, h, -⟩
      cases h
    · rintro ⟨farm, h, -⟩
      cases h
  | cons farm rest ih =>
    intro hall
    obtain ⟨least, hok, hleast⟩ := ih fun other hother => hall other (mem_cons_of_mem _ hother)
    obtain ⟨start, hstart⟩ := Option.isSome_iff_exists.mp (hall farm mem_cons_self)
    refine ⟨some (least.elim start (min start)), ?_, fun t => ?_⟩
    · unfold FarmHealthTracker.earliest
      rw [hstart, hok]
    · have hsplit : (∃ other ∈ farm :: rest, ∃ s, starts.lookup other = some s ∧ s ≤ t) ↔
          start ≤ t ∨ ∃ since, least = some since ∧ since ≤ t := by
        rw [hleast t]
        constructor
        · rintro ⟨other, hother, s, hs, hle⟩
          rcases mem_cons.mp hother with rfl | hother
          · obtain rfl := Option.some.inj (hstart.symm.trans hs)
            exact .inl hle
          · exact .inr ⟨other, hother, s, hs, hle⟩
        · rintro (hle | ⟨other, hother, s, hs, hle⟩)
          · exact ⟨farm, mem_cons_self, start, hstart, hle⟩
          · exact ⟨other, mem_cons_of_mem _ hother, s, hs, hle⟩
      rw [hsplit]
      cases least with
      | none => simp
      | some since => simp

/-- Refreshing a tracker whose broken farms all have a start time drops the start times of the
others, and leaves the rest sound. -/
theorem refresh_ok
    (h : ∀ farm, tracker.farms.lookup farm = some .broken →
      (tracker.brokenSinceByFarm.lookup farm).isSome = true) :
    ∃ next, tracker.refreshAggregateStatus = .ok next ∧ Sound next ∧
      next.farms = tracker.farms ∧
      ∀ farm, next.brokenSinceByFarm.lookup farm =
        if tracker.farms.lookup farm = some .broken then tracker.brokenSinceByFarm.lookup farm
        else none := by
  let starts := tracker.brokenSinceByFarm.restrict fun farm _ => farm ∈ tracker.brokenFarms
  have hstarts : ∀ farm, starts.lookup farm =
      if tracker.farms.lookup farm = some .broken then tracker.brokenSinceByFarm.lookup farm
      else none := by
    intro farm
    rw [Dict.lookup_restrict]
    cases tracker.brokenSinceByFarm.lookup farm with
    | none => simp
    | some start => simp [Option.filter_some, mem_brokenFarms]
  have hclocked : ∀ farm, tracker.farms.lookup farm = some .broken ↔
      (starts.lookup farm).isSome = true := by
    intro farm
    rw [hstarts]
    by_cases hb : tracker.farms.lookup farm = some .broken
    · rw [if_pos hb]
      exact ⟨fun _ => h farm hb, fun _ => hb⟩
    · rw [if_neg hb]
      exact ⟨fun hb' => absurd hb' hb, fun hnone => nomatch hnone⟩
  unfold FarmHealthTracker.refreshAggregateStatus
  dsimp only
  by_cases hbroken : tracker.brokenFarms ≠ []
  · rw [if_pos hbroken]
    obtain ⟨least, hok, hleast⟩ := earliest_ok starts tracker.brokenFarms
      fun farm hfarm => (hclocked farm).mp (mem_brokenFarms.mp hfarm)
    refine ⟨{ tracker with status := .broken, brokenSince := least, brokenSinceByFarm := starts },
      ?_, ⟨hclocked, ?_, ?_⟩, rfl, hstarts⟩
    · show (FarmHealthTracker.earliest starts tracker.brokenFarms).map _ = _
      rw [hok]
      rfl
    · obtain ⟨farm, hfarm⟩ := exists_mem_of_ne_nil _ hbroken
      exact ⟨fun _ => ⟨farm, mem_brokenFarms.mp hfarm⟩, fun _ => rfl⟩
    · intro t
      refine (hleast t).trans ⟨?_, ?_⟩
      · rintro ⟨farm, -, start, hstart, hle⟩
        exact ⟨farm, start, hstart, hle⟩
      · rintro ⟨farm, start, hstart, hle⟩
        have hsome : (starts.lookup farm).isSome = true := Option.isSome_iff_exists.mpr ⟨_, hstart⟩
        exact ⟨farm, mem_brokenFarms.mpr ((hclocked farm).mpr hsome), start, hstart, hle⟩
  · rw [if_neg hbroken]
    have hnone : ∀ farm, ¬ tracker.farms.lookup farm = some .broken := by
      intro farm hfarm
      have hmem := mem_brokenFarms.mpr hfarm
      rw [not_not.mp hbroken] at hmem
      cases hmem
    refine ⟨_, rfl, ⟨hclocked, ⟨?_, ?_⟩, ?_⟩, rfl, hstarts⟩
    · intro hstatus
      dsimp only at hstatus
      split at hstatus
      · cases hstatus
      · split at hstatus <;> cases hstatus
    · rintro ⟨farm, hfarm⟩
      exact absurd hfarm (hnone farm)
    · intro t
      constructor
      · rintro ⟨since, hsince, -⟩
        cases hsince
      · rintro ⟨farm, start, hstart, -⟩
        have hsome : (starts.lookup farm).isSome = true := Option.isSome_iff_exists.mpr ⟨_, hstart⟩
        exact absurd ((hclocked farm).mpr hsome) (hnone farm)

/-- What an operation leaves: the farms and start times follow its effect. -/
structure Followed (effect : Effect) (tracker next : FarmHealthTracker) : Prop where
  sound : Sound next
  farms : ∀ farm, next.farms.lookup farm = latestStep farm (tracker.farms.lookup farm) effect
  starts : ∀ farm, next.brokenSinceByFarm.lookup farm =
    stretchStep farm (tracker.brokenSinceByFarm.lookup farm) effect

theorem Followed.same (h : Sound tracker) :
    Followed .nothing tracker tracker := ⟨h, fun _ => rfl, fun _ => rfl⟩

theorem Sound.no_start (h : Sound tracker) {farm : Text}
    (hfarm : tracker.farms.lookup farm ≠ some .broken) :
    tracker.brokenSinceByFarm.lookup farm = none := by
  by_contra hsome
  exact hfarm ((h.clocked farm).mpr (Option.isSome_iff_ne_none.mpr hsome))

theorem mark_followed (told : FarmHealthTracker) (h : Sound tracker)
    (hfarms : told.farms = tracker.farms)
    (hstarts : told.brokenSinceByFarm = tracker.brokenSinceByFarm) (farm : Text)
    (status : FarmLinkStatus) (now : ℚ) :
    ∃ next, (told.mark farm status now).refreshAggregateStatus = .ok next ∧
      Followed (.marks farm status now) tracker next := by
  have hfarm : ∀ other, (told.mark farm status now).farms.lookup other =
      if farm = other then some status else tracker.farms.lookup other := by
    intro other
    show (told.farms.insert farm status).lookup other = _
    rw [hfarms]
    by_cases hne : farm = other
    · subst hne
      rw [AList.lookup_insert, if_pos rfl]
    · rw [AList.lookup_insert_ne (Ne.symm hne), if_neg hne]
  -- the start time the marked farm has before the refresh
  have hself : status = .broken → (told.mark farm status now).brokenSinceByFarm.lookup farm =
      some ((tracker.brokenSinceByFarm.lookup farm).getD now) := by
    rintro rfl
    show (told.setDefaultStart farm now).lookup farm = _
    unfold FarmHealthTracker.setDefaultStart
    rw [hstarts]
    cases hold : tracker.brokenSinceByFarm.lookup farm with
    | none => exact AList.lookup_insert _
    | some start => exact hold
  have hother : ∀ other, farm ≠ other →
      (told.mark farm status now).brokenSinceByFarm.lookup other =
        tracker.brokenSinceByFarm.lookup other := by
    intro other hne
    cases status with
    | broken =>
      show (told.setDefaultStart farm now).lookup other = _
      unfold FarmHealthTracker.setDefaultStart
      rw [hstarts]
      cases tracker.brokenSinceByFarm.lookup farm with
      | none => exact AList.lookup_insert_ne (Ne.symm hne)
      | some start => rfl
    | ok =>
      show (told.brokenSinceByFarm.erase farm).lookup other = _
      rw [hstarts]
      exact AList.lookup_erase_ne (Ne.symm hne)
    | connecting => exact congrArg (·.lookup other) hstarts
    | unknown => exact congrArg (·.lookup other) hstarts
  have hall : ∀ other, (told.mark farm status now).farms.lookup other = some .broken →
      ((told.mark farm status now).brokenSinceByFarm.lookup other).isSome = true := by
    intro other hbroken
    rw [hfarm] at hbroken
    by_cases hne : farm = other
    · subst hne
      rw [if_pos rfl] at hbroken
      rw [hself (Option.some.inj hbroken)]
      rfl
    · rw [if_neg hne] at hbroken
      rw [hother other hne]
      exact (h.clocked other).mp hbroken
  obtain ⟨next, hok, hsound, hnextFarms, hnextStarts⟩ := refresh_ok hall
  refine ⟨next, hok, hsound, ?_, ?_⟩
  · intro other
    rw [hnextFarms, hfarm]
    rfl
  · intro other
    rw [hnextStarts, hfarm]
    show _ = if farm = other then _ else _
    by_cases hne : farm = other
    · subst hne
      rw [if_pos rfl, if_pos rfl]
      cases status with
      | broken =>
        rw [if_pos rfl, hself rfl]
      | ok => rfl
      | connecting => rfl
      | unknown => rfl
    · rw [if_neg hne, if_neg hne, hother other hne]
      by_cases hbroken : tracker.farms.lookup other = some .broken
      · rw [if_pos hbroken]
      · rw [if_neg hbroken, h.no_start hbroken]

theorem refresh_followed (told : FarmHealthTracker) (h : Sound tracker)
    (hfarms : told.farms = tracker.farms)
    (hstarts : told.brokenSinceByFarm = tracker.brokenSinceByFarm) :
    ∃ next, told.refreshAggregateStatus = .ok next ∧ Followed .nothing tracker next := by
  have hall : ∀ farm, told.farms.lookup farm = some .broken →
      (told.brokenSinceByFarm.lookup farm).isSome = true := by
    intro farm hbroken
    rw [hfarms] at hbroken
    rw [hstarts]
    exact (h.clocked farm).mp hbroken
  obtain ⟨next, hok, hsound, hnextFarms, hnextStarts⟩ := refresh_ok hall
  refine ⟨next, hok, hsound, ?_, ?_⟩
  · intro farm
    rw [hnextFarms, hfarms]
    rfl
  · intro farm
    rw [hnextStarts, hfarms, hstarts]
    show _ = tracker.brokenSinceByFarm.lookup farm
    by_cases hbroken : tracker.farms.lookup farm = some .broken
    · rw [if_pos hbroken]
    · rw [if_neg hbroken, h.no_start hbroken]

theorem clear_followed (h : Sound tracker) (farm : Text) :
    ∃ event next, tracker.clear farm 0 = .ok (event, next) ∧
      Followed (.clears farm) tracker next := by
  unfold FarmHealthTracker.clear
  cases hfarm : tracker.farms.lookup farm with
  | none =>
    refine ⟨none, tracker, rfl, h, ?_, ?_⟩
    · intro other
      show _ = if farm = other ∧ (tracker.farms.lookup other).isSome = true then _ else _
      by_cases hne : farm = other
      · subst hne
        simp [hfarm]
      · simp [hne]
    · intro other
      show _ = if farm = other then none else _
      by_cases hne : farm = other
      · subst hne
        rw [if_pos rfl]
        refine h.no_start ?_
        rw [hfarm]
        simp
      · rw [if_neg hne]
  | some status =>
    obtain ⟨next, hok, hsound, hfarms, hstarts⟩ := mark_followed tracker h rfl rfl farm .ok 0
    dsimp only
    rw [hok]
    refine ⟨none, next, rfl, hsound, ?_, ?_⟩
    · intro other
      rw [hfarms]
      show (if farm = other then _ else _) =
        if farm = other ∧ (tracker.farms.lookup other).isSome = true then _ else _
      by_cases hne : farm = other
      · subst hne
        simp [hfarm]
      · simp [hne]
    · intro other
      exact hstarts other

theorem observe_followed (cases' : CaseMapping) (h : Sound tracker) (errorCode : Int)
    (message : Text) (now : ℚ) :
    ∃ event next, tracker.observe cases' errorCode message now = .ok (event, next) ∧
      Followed (observed cases' errorCode message now) tracker next := by
  unfold FarmHealthTracker.observe observed
  generalize classifyFarmError cases' errorCode message = classified
  obtain ⟨status, farm⟩ := classified
  dsimp only
  by_cases hunknown : status = .unknown
  · rw [if_pos hunknown, if_pos hunknown]
    exact ⟨none, tracker, rfl, .same h⟩
  · rw [if_neg hunknown, if_neg hunknown]
    cases farm.filter (· ≠ []) with
    | some name =>
      obtain ⟨next, hok, hfollowed⟩ := mark_followed
        { tracker with
          lastErrorCode := some errorCode
          lastErrorMessage := some message
          lastFarm := farm } h rfl rfl name status now
      dsimp only
      rw [hok]
      exact ⟨_, next, rfl, hfollowed⟩
    | none =>
      dsimp only
      by_cases hbroken : status = .broken
      · obtain ⟨next, hok, hfollowed⟩ := mark_followed
          { tracker with
            lastErrorCode := some errorCode
            lastErrorMessage := some message
            lastFarm := farm } h rfl rfl unknownFarm .broken now
        rw [if_pos hbroken, if_pos hbroken]
        dsimp only
        rw [hok]
        exact ⟨_, next, rfl, hfollowed⟩
      · obtain ⟨next, hok, hfollowed⟩ := refresh_followed
          { tracker with
            lastErrorCode := some errorCode
            lastErrorMessage := some message
            lastFarm := farm } h rfl rfl
        rw [if_neg hbroken, if_neg hbroken]
        dsimp only
        rw [hok]
        exact ⟨_, next, rfl, hfollowed⟩

/-- **The step lemma.** Every operation on a sound tracker is answered and follows its effect. -/
theorem step_followed (cases' : CaseMapping) (h : Sound tracker)
    (operation : FarmHealthTracker.Operation) :
    (∃ event, (tracker.step cases' operation).1 = .ok event) ∧
      Followed (.of cases' operation) tracker (tracker.step cases' operation).2 := by
  have hstep : ∀ effect, (∃ event next, tracker.apply cases' operation = .ok (event, next) ∧
      Followed effect tracker next) →
      (∃ event, (tracker.step cases' operation).1 = .ok event) ∧
        Followed effect tracker (tracker.step cases' operation).2 := by
    rintro effect ⟨event, next, hok, hfollowed⟩
    unfold FarmHealthTracker.step
    rw [hok]
    exact ⟨⟨event, rfl⟩, hfollowed⟩
  apply hstep
  cases operation with
  | observe errorCode message now => exact observe_followed cases' h errorCode message now
  | probeFailed error now =>
    obtain ⟨next, hok, hfollowed⟩ := mark_followed
      { tracker with
        lastErrorCode := none
        lastErrorMessage := error
        lastFarm := some dataPlaneProbeFarm } h rfl rfl dataPlaneProbeFarm .broken now
    show ∃ event next, tracker.markProbeFailed error now = .ok (event, next) ∧ _
    unfold FarmHealthTracker.markProbeFailed
    dsimp only
    rw [hok]
    exact ⟨_, next, rfl, hfollowed⟩
  | probeSucceeded => exact clear_followed h dataPlaneProbeFarm
  | dataFlowSilent message now =>
    obtain ⟨next, hok, hfollowed⟩ := mark_followed
      { tracker with
        lastErrorCode := none
        lastErrorMessage := some message
        lastFarm := some dataFlowSilenceFarm } h rfl rfl dataFlowSilenceFarm .broken now
    show ∃ event next, tracker.markDataFlowSilent message now = .ok (event, next) ∧ _
    unfold FarmHealthTracker.markDataFlowSilent
    dsimp only
    rw [hok]
    exact ⟨_, next, rfl, hfollowed⟩
  | dataFlowLive => exact clear_followed h dataFlowSilenceFarm
  | reset =>
    refine ⟨none, {}, rfl, .start, ?_, ?_⟩
    · exact fun farm => lookup_empty farm
    · exact fun farm => lookup_empty farm

/-! ## Runs -/

/-- One operation of a run with its answer. -/
abbrev Entry := FarmHealthTracker.Operation × Except KeyError (Option FarmStatusEvent)

variable {cases' : CaseMapping}

/-- The latest status of a farm, from the operations alone. -/
def latest (cases' : CaseMapping) (evs : List Entry) (farm : Text) : Option FarmLinkStatus :=
  evs.foldl (fun previous ev => latestStep farm previous (.of cases' ev.1)) none

/-- When a farm first broke after it was last ok, or since the reset. -/
def outage (cases' : CaseMapping) (evs : List Entry) (farm : Text) : Option ℚ :=
  evs.foldl (fun previous ev => outageStep farm previous (.of cases' ev.1)) none

def stretch (cases' : CaseMapping) (evs : List Entry) (farm : Text) : Option ℚ :=
  evs.foldl (fun previous ev => stretchStep farm previous (.of cases' ev.1)) none

/-- A broken event without a farm. -/
def unidentified (cases' : CaseMapping) : FarmHealthTracker.Operation → Bool
  | .observe errorCode message _ =>
    (classifyFarmError cases' errorCode message).1 = .broken ∧
      (classifyFarmError cases' errorCode message).2.filter (· ≠ []) = none
  | _ => false

/-- An unidentified broken event has come since the last reset. -/
def inForce (cases' : CaseMapping) (evs : List Entry) : Bool :=
  evs.foldl (fun previous ev => ev.1 ≠ .reset ∧ (previous ∨ unidentified cases' ev.1)) false

theorem latest_snoc (evs : List Entry) (ev : Entry) (farm : Text) :
    latest cases' (evs ++ [ev]) farm = latestStep farm (latest cases' evs farm) (.of cases' ev.1) :=
  foldl_concat _ _ _ _

theorem outage_snoc (evs : List Entry) (ev : Entry) (farm : Text) :
    outage cases' (evs ++ [ev]) farm = outageStep farm (outage cases' evs farm) (.of cases' ev.1) :=
  foldl_concat _ _ _ _

theorem stretch_snoc (evs : List Entry) (ev : Entry) (farm : Text) :
    stretch cases' (evs ++ [ev]) farm =
      stretchStep farm (stretch cases' evs farm) (.of cases' ev.1) :=
  foldl_concat _ _ _ _

theorem inForce_snoc (evs : List Entry) (ev : Entry) : inForce cases' (evs ++ [ev]) = true ↔
      ev.1 ≠ .reset ∧ (inForce cases' evs = true ∨ unidentified cases' ev.1 = true) := by
  unfold inForce
  rw [foldl_concat, decide_eq_true_iff]

/-- What a run says of its tracker, without any condition. -/
structure Kept (cases' : CaseMapping) (evs : List Entry) (tracker : FarmHealthTracker) : Prop where
  sound : Sound tracker
  answered : ∀ ev ∈ evs, ∃ event, ev.2 = .ok event
  farms : ∀ farm, tracker.farms.lookup farm = latest cases' evs farm
  starts : ∀ farm, tracker.brokenSinceByFarm.lookup farm = stretch cases' evs farm

variable {evs : List Entry}

theorem Kept.step (h : Kept cases' evs tracker) (operation : FarmHealthTracker.Operation) :
    Kept cases' (evs ++ [(operation, (tracker.step cases' operation).1)])
      (tracker.step cases' operation).2 := by
  obtain ⟨hanswer, hsound, hfarms, hstarts⟩ := step_followed cases' h.sound operation
  refine ⟨hsound, ?_, ?_, ?_⟩
  · intro ev hev
    rcases mem_append.mp hev with hev | hev
    · exact h.answered ev hev
    · rw [mem_singleton.mp hev]
      exact hanswer
  · intro farm
    rw [hfarms, h.farms, latest_snoc]
  · intro farm
    rw [hstarts, h.starts, stretch_snoc]

theorem Kept.nil : Kept cases' [] {} :=
  ⟨.start, fun _ hev => (nomatch hev), lookup_empty, lookup_empty⟩

theorem run_kept (h : Run (FarmHealthTracker.step cases') anyStep {} evs tracker) :
    Kept cases' evs tracker :=
  h.invariant_log .nil fun _ _ operation hkept _ => hkept.step operation

/-- The operation reports no broken farm connecting, and names no farm as the unidentified one
while an unidentified event is in force. -/
structure Meets (cases' : CaseMapping) (past : List Entry)
    (operation : FarmHealthTracker.Operation) : Prop where
  connecting : ∀ farm now, Effect.of cases' operation = .marks farm .connecting now →
    latest cases' past farm ≠ some .broken
  named : ∀ status now, Effect.of cases' operation = .marks unknownFarm status now →
    inForce cases' past = true → status = .broken

variable {operation : FarmHealthTracker.Operation}

theorem outage_step (hkept : Kept cases' evs tracker)
    (hsame : ∀ farm, outage cases' evs farm = stretch cases' evs farm)
    (hmeets : Meets cases' evs operation) (farm : Text) :
    outageStep farm (outage cases' evs farm) (.of cases' operation) =
      stretchStep farm (stretch cases' evs farm) (.of cases' operation) := by
  rw [hsame farm]
  cases heffect : Effect.of cases' operation with
  | nothing => rfl
  | clears other => rfl
  | resets => rfl
  | marks other status now =>
    show (if other = farm then _ else _) = if other = farm then _ else _
    by_cases hother : other = farm
    · subst hother
      rw [if_pos rfl, if_pos rfl]
      cases status with
      | broken => rfl
      | ok => rfl
      | unknown => rfl
      | connecting =>
        have hnot := hmeets.connecting other now heffect
        rw [← hkept.farms] at hnot
        rw [← hkept.starts]
        exact hkept.sound.no_start hnot
    · rw [if_neg hother, if_neg hother]

theorem observed_cases (cases' : CaseMapping) (errorCode : Int) (message : Text) (now : ℚ) :
    observed cases' errorCode message now = .nothing ∨
      ∃ farm status, observed cases' errorCode message now = .marks farm status now := by
  unfold observed
  dsimp only
  split
  · exact .inl rfl
  · split
    · exact .inr ⟨_, _, rfl⟩
    · split
      · exact .inr ⟨_, _, rfl⟩
      · exact .inl rfl

theorem clears_known {farm : Text} (h : Effect.of cases' operation = .clears farm) :
    farm ≠ unknownFarm := by
  cases operation with
  | observe errorCode message now =>
    rcases observed_cases cases' errorCode message now with hobs | ⟨_, _, hobs⟩
    · cases hobs.symm.trans h
    · cases hobs.symm.trans h
  | probeFailed error now => cases h
  | probeSucceeded =>
    obtain rfl := Effect.clears.inj h
    decide
  | dataFlowSilent message now => cases h
  | dataFlowLive =>
    obtain rfl := Effect.clears.inj h
    decide
  | reset => cases h

theorem resets_reset (h : Effect.of cases' operation = .resets) : operation = .reset := by
  cases operation with
  | observe errorCode message now =>
    rcases observed_cases cases' errorCode message now with hobs | ⟨_, _, hobs⟩
    · cases hobs.symm.trans h
    · cases hobs.symm.trans h
  | probeFailed error now => cases h
  | probeSucceeded => cases h
  | dataFlowSilent message now => cases h
  | dataFlowLive => cases h
  | reset => rfl

theorem unidentified_effect (h : unidentified cases' operation = true) :
    ∃ now, Effect.of cases' operation = .marks unknownFarm .broken now := by
  cases operation with
  | observe errorCode message now =>
    obtain ⟨hbroken, hnone⟩ := of_decide_eq_true h
    refine ⟨now, ?_⟩
    show observed cases' errorCode message now = _
    unfold observed
    generalize classifyFarmError cases' errorCode message = classified at hbroken hnone
    obtain ⟨status, farm⟩ := classified
    dsimp only at hbroken hnone
    subst hbroken
    dsimp only
    rw [if_neg (by decide), hnone]
    rfl
  | probeFailed error now => cases h
  | probeSucceeded => cases h
  | dataFlowSilent message now => cases h
  | dataFlowLive => cases h
  | reset => cases h

theorem inForce_step
    (hforce : inForce cases' evs = true → latest cases' evs unknownFarm = some .broken)
    {ev : Entry} (hmeets : Meets cases' evs ev.1) (h : inForce cases' (evs ++ [ev]) = true) :
    latest cases' (evs ++ [ev]) unknownFarm = some .broken := by
  obtain ⟨hreset, hpast⟩ := (inForce_snoc evs ev).mp h
  rw [latest_snoc]
  by_cases hnow : unidentified cases' ev.1 = true
  · obtain ⟨now, heffect⟩ := unidentified_effect hnow
    rw [heffect]
    show (if unknownFarm = unknownFarm then some FarmLinkStatus.broken
      else latest cases' evs unknownFarm) = some .broken
    exact if_pos rfl
  · have hold : inForce cases' evs = true := hpast.resolve_right hnow
    have hlatest := hforce hold
    cases heffect : Effect.of cases' ev.1 with
    | nothing => exact hlatest
    | marks farm status now =>
      show (if farm = unknownFarm then some status else _) = _
      by_cases hfarm : farm = unknownFarm
      · subst hfarm
        rw [if_pos rfl, hmeets.named status now heffect hold]
      · rw [if_neg hfarm, hlatest]
    | clears farm =>
      show (if farm = unknownFarm ∧ _ then _ else _) = _
      rw [if_neg fun h => clears_known heffect h.1, hlatest]
    | resets => exact absurd (resets_reset heffect) hreset

theorem shouldRestart_iff (h : Sound tracker) (restart now : ℚ) :
    tracker.shouldRestartGateway restart now = true ↔
      ∃ farm start, tracker.brokenSinceByFarm.lookup farm = some start ∧ restart ≤ now - start := by
  have hleast := h.least (now - restart)
  have hflip : ∀ t : ℚ, t ≤ now - restart ↔ restart ≤ now - t := by
    intro t
    constructor <;> intro h <;> linarith
  simp only [hflip] at hleast
  rw [← hleast]
  unfold FarmHealthTracker.shouldRestartGateway FarmHealthTracker.brokenDuration
  cases tracker.brokenSince with
  | none => simp
  | some since => simp

/-- **The outage clock over every run.** Every lookup succeeds, and the status is broken exactly
when the latest status of some farm is. In a run whose operations report no broken farm connecting
and name no farm as the unidentified one, an unidentified broken event stays in force until the
reset, and the gateway is to be restarted exactly when some farm is broken and first broke, after it
was last ok, long enough ago. -/
theorem farm_outage_clock {evs : List Entry} {tracker : FarmHealthTracker}
    (h : Run (FarmHealthTracker.step cases') anyStep {} evs tracker) :
    (∀ ev ∈ evs, ∃ event, ev.2 = .ok event) ∧
    (tracker.status = .broken ↔ ∃ farm, latest cases' evs farm = some .broken) ∧
    ((∀ past operation answer rest, evs = past ++ (operation, answer) :: rest →
        Meets cases' past operation) →
      (inForce cases' evs = true →
        latest cases' evs unknownFarm = some .broken ∧ tracker.status = .broken) ∧
      ∀ restart now, tracker.shouldRestartGateway restart now = true ↔
        ∃ farm start, latest cases' evs farm = some .broken ∧
          outage cases' evs farm = some start ∧ restart ≤ now - start) := by
  have hkept := run_kept h
  have hstatus : tracker.status = .broken ↔ ∃ farm, latest cases' evs farm = some .broken := by
    rw [hkept.sound.broken]
    simp only [hkept.farms]
  refine ⟨hkept.answered, hstatus, fun hmet => ?_⟩
  obtain ⟨-, hsame, hforce⟩ := h.invariant_met
    (I := fun evs tracker => Kept cases' evs tracker ∧
      (∀ farm, outage cases' evs farm = stretch cases' evs farm) ∧
      (inForce cases' evs = true → latest cases' evs unknownFarm = some .broken))
    (P := fun past operation _ => Meets cases' past operation)
    ⟨.nil, fun _ => rfl, fun h => nomatch h⟩
    (fun evs s operation hI hmeets => by
      obtain ⟨hk, hsame, hforce⟩ := hI
      refine ⟨hk.step operation, ?_, fun hforced => inForce_step hforce hmeets hforced⟩
      intro farm
      rw [outage_snoc, stretch_snoc]
      exact outage_step hk hsame hmeets farm)
    hmet
  refine ⟨fun hforced => ⟨hforce hforced, hstatus.mpr ⟨_, hforce hforced⟩⟩, ?_⟩
  intro restart now
  rw [shouldRestart_iff hkept.sound]
  constructor
  · rintro ⟨farm, start, hstart, hle⟩
    have hbroken := (hkept.sound.clocked farm).mpr (Option.isSome_iff_exists.mpr ⟨_, hstart⟩)
    exact ⟨farm, start, by rw [← hkept.farms, hbroken], by rw [hsame, ← hkept.starts, hstart], hle⟩
  · rintro ⟨farm, start, -, hstart, hle⟩
    exact ⟨farm, start, by rw [hkept.starts, ← hsame, hstart], hle⟩

/-! ## A farm that alternates -/

def asciiCases : CaseMapping := ⟨List.map Char.toLower, Char.toLower⟩

/-- One farm breaks, is reported connecting, and breaks again. -/
def alternating : List FarmHealthTracker.Operation :=
  [.observe 2103 "Market data farm connection is broken:hfarm".toList 0,
    .observe 2119 "Market data farm is connecting:hfarm".toList 100,
    .observe 2103 "Market data farm connection is broken:hfarm".toList 170]

/-- It has not been ok for two hundred seconds, and the restart after 180 is not due. -/
theorem alternating_not_restarted :
    let run := play (FarmHealthTracker.step asciiCases) {} alternating
    Run (FarmHealthTracker.step asciiCases) anyStep {} run.1 run.2 ∧
      latest asciiCases run.1 "hfarm".toList = some .broken ∧
      outage asciiCases run.1 "hfarm".toList = some 0 ∧
      run.2.shouldRestartGateway 180 200 = false := by
  refine ⟨run_play _ _ _, ?_⟩
  decide +kernel

/-- `Meets`, as it is computed. -/
def meets (cases' : CaseMapping) (past : List Entry) (operation : FarmHealthTracker.Operation) :
    Bool :=
  match Effect.of cases' operation with
  | .marks farm status _ =>
    (status ≠ .connecting || latest cases' past farm ≠ some .broken) &&
      (farm ≠ unknownFarm || !inForce cases' past || status = .broken)
  | _ => true

theorem meets_of_computed {past : List Entry} (h : meets cases' past operation = true) :
    Meets cases' past operation := by
  constructor
  · intro farm now heffect hbroken
    simp [meets, heffect, hbroken] at h
  · intro status now heffect hforce
    simp [meets, heffect, hforce] at h
    exact h.2

/-- Two farms break, one of them is ok again and breaks anew, and a link without a name breaks. -/
def twoFarms : List FarmHealthTracker.Operation :=
  [.observe 2103 "Market data farm connection is broken:hfarm".toList 0,
    .observe 2119 "Market data farm is connecting:cashfarm".toList 5,
    .observe 2103 "Market data farm connection is broken:cashfarm".toList 10,
    .observe 2104 "Market data farm connection is OK:hfarm".toList 50,
    .observe 2103 "Market data farm connection is broken:hfarm".toList 100,
    .observe 2103 "The connection is broken".toList 110, .dataFlowLive]

/-- At 200 one farm has been broken for 190 seconds, and the other for 100 since it was last ok. -/
theorem farm_outage_clock_two :
    let run := play (FarmHealthTracker.step asciiCases) {} twoFarms
    (latest asciiCases run.1 unknownFarm = some .broken ∧ run.2.status = .broken) ∧
      outage asciiCases run.1 "hfarm".toList = some 100 ∧
      outage asciiCases run.1 "cashfarm".toList = some 10 ∧
      run.2.shouldRestartGateway 180 200 = true ∧ run.2.shouldRestartGateway 191 200 = false := by
  intro run
  have hmet : ∀ past operation answer rest, run.1 = past ++ (operation, answer) :: rest →
      Meets asciiCases past operation := by
    intro past operation answer rest hsplit
    refine meets_of_computed (forall_split_iff (P := fun past (ev : Entry) =>
      meets asciiCases past ev.1 = true).mpr ?_ past (operation, answer) rest hsplit)
    decide +kernel
  have hruns := run_play (FarmHealthTracker.step asciiCases) twoFarms {}
  obtain ⟨hforce, hrestart⟩ := (farm_outage_clock hruns).2.2 hmet
  have hhfarm : outage asciiCases run.1 "hfarm".toList = some 100 := by decide +kernel
  have hcash : outage asciiCases run.1 "cashfarm".toList = some 10 ∧
      latest asciiCases run.1 "cashfarm".toList = some .broken := by
    decide +kernel
  refine ⟨hforce (by decide +kernel), hhfarm, hcash.1, ?_, by decide +kernel⟩
  exact (hrestart 180 200).mpr ⟨_, 10, hcash.2, hcash.1, by norm_num⟩

end Farm

end SpxSpark.Ibkr
