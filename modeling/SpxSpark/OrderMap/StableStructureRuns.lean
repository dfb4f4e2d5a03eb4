import SpxSpark.Lib.Recent
import SpxSpark.OrderMap.StableStructure

/-!
# StableStructureRuns — when the stable walls move

The samples of a candidate are told from the calls so far: which of them counted, how each lay to
those before it, and that no call in between came back to the stable structure.
-/

namespace SpxSpark.OrderMap.StableStructure

open Lib List

/-! ## Levels that agree -/

/-- The same names, and each level closer than the given distance. -/
structure Within (distance : ℚ) (left right : Levels) : Prop where
  named : ∃ kind, (left kind).isSome
  names : ∀ kind, (left kind).isSome = (right kind).isSome
  close : ∀ kind a b, left kind = some a → right kind = some b → |a - b| < distance

theorem materiallyDifferent_eq_false {left right : Levels} {threshold : ℚ} :
    materiallyDifferent left right threshold = false ↔ Within threshold left right := by
  rw [materiallyDifferent]
  constructor
  · intro h
    split at h
    · cases h
    · next hsame =>
      rw [Bool.or_eq_true, not_or] at hsame
      obtain ⟨hcommon, hnames⟩ := hsame
      rw [Bool.not_eq_true, any_eq_false] at hnames
      have hall : ∀ kind, (left kind).isSome = (right kind).isSome := by
        intro kind
        simpa using hnames kind (LevelKind.mem_all kind)
      refine ⟨?_, hall, ?_⟩
      · rw [List.isEmpty_iff, List.filter_eq_nil_iff, not_forall] at hcommon
        obtain ⟨kind, hkind⟩ := hcommon
        rw [Classical.not_imp, not_not, Bool.and_eq_true] at hkind
        exact ⟨kind, hkind.2.1⟩
      · intro kind a b ha hb
        rw [any_eq_false] at h
        have hfar := h kind (List.mem_filter.mpr ⟨LevelKind.mem_all kind, by simp [ha, hb]⟩)
        simpa [ha, hb] using hfar
  · rintro ⟨⟨kind, hkind⟩, hnames, hclose⟩
    rw [if_neg]
    · rw [any_eq_false]
      intro kind hmem
      have hboth := (List.mem_filter.mp hmem).2
      rw [Bool.and_eq_true, Option.isSome_iff_exists, Option.isSome_iff_exists] at hboth
      obtain ⟨⟨a, ha⟩, b, hb⟩ := hboth
      rw [ha, hb]
      simpa using hclose kind a b ha hb
    · rw [Bool.or_eq_true, not_or]
      constructor
      · rw [List.isEmpty_iff]
        apply List.ne_nil_of_mem (a := kind)
        rw [List.mem_filter, ← hnames kind, hkind]
        exact ⟨LevelKind.mem_all kind, rfl⟩
      · rw [Bool.not_eq_true, any_eq_false]
        intro kind _
        simp [hnames kind]

theorem materiallyDifferent_eq_true {left right : Levels} {threshold : ℚ} :
    materiallyDifferent left right threshold = true ↔ ¬Within threshold left right := by
  rw [← materiallyDifferent_eq_false, Bool.not_eq_false]

/-! ## Samples that have come together -/

/-- The sample a call would give. -/
def sampleOf (settings : StabilitySettings) (tick : Tick) : Option Sample :=
  (usable tick.live).map fun live => ⟨bucketOf settings tick.now, live.levels, tick.now⟩

/-- Samples of later and later buckets, none too long after the one before, each within the band of
the median of all before it. -/
inductive Accumulated (settings : StabilitySettings) : List Sample → Prop
  | first (sample : Sample) : Accumulated settings [sample]
  | next {samples : List Sample} {last sample : Sample} : Accumulated settings samples →
      samples.getLast? = some last → last.bucket < sample.bucket →
      secondsBetween sample.at' last.at' ≤ settings.candidateTtlSeconds →
      Within settings.bandHalfWidthPoints (medianLevels samples) sample.levels →
      Accumulated settings (samples ++ [sample])

/-- The samples among the latest calls, none of which came back to the stable levels. -/
structure Gathered (settings : StabilitySettings) (calls : List Tick) (stable : Levels)
    (samples : List Sample) : Prop where
  among : ∃ before recent, calls = before ++ recent ∧
    samples.Sublist (recent.filterMap (sampleOf settings)) ∧
    ∀ tick ∈ recent, ∀ live, usable tick.live = some live →
      ¬Within settings.switchMinPoints stable live.levels
  accumulated : Accumulated settings samples

theorem Accumulated.ne_nil {settings : StabilitySettings} {samples : List Sample}
    (h : Accumulated settings samples) : samples ≠ [] := by
  cases h <;> simp

theorem Accumulated.buckets {settings : StabilitySettings} {samples : List Sample}
    (h : Accumulated settings samples) : (samples.map (·.bucket)).Pairwise (· < ·) := by
  induction h with
  | first sample => exact pairwise_singleton _ _
  | @next samples last sample _ hlast hlater _ _ ih =>
    rw [map_append, pairwise_append]
    refine ⟨ih, pairwise_singleton _ _, ?_⟩
    intro a ha b hb
    obtain rfl : b = sample.bucket := by simpa using hb
    obtain ⟨front, rfl⟩ := getLast?_eq_some_iff.mp hlast
    rw [map_append, pairwise_append] at ih
    rw [map_append, mem_append] at ha
    rcases ha with ha | ha
    · exact (ih.2.2 a ha last.bucket (by simp)).trans hlater
    · obtain rfl : a = last.bucket := by simpa using ha
      exact hlater

namespace Gathered

variable {settings : StabilitySettings} {calls : List Tick} {stable : Levels}
  {samples : List Sample} {tick : Tick} {live : LiveStructure}

theorem start (hlive : usable tick.live = some live)
    (haway : ¬Within settings.switchMinPoints stable live.levels) :
    Gathered settings (calls ++ [tick]) stable
      [⟨bucketOf settings tick.now, live.levels, tick.now⟩] where
  among := by
    refine ⟨calls, [tick], rfl, ?_, ?_⟩
    · simp [sampleOf, hlive]
    · intro other hother row hrow
      rw [mem_singleton.mp hother, hlive] at hrow
      exact Option.some.inj hrow ▸ haway
  accumulated := .first _

theorem pass (h : Gathered settings calls stable samples)
    (haway : ∀ live, usable tick.live = some live →
      ¬Within settings.switchMinPoints stable live.levels) :
    Gathered settings (calls ++ [tick]) stable samples where
  among := by
    obtain ⟨before, recent, rfl, hsub, hrecent⟩ := h.among
    refine ⟨before, recent ++ [tick], by simp, ?_, ?_⟩
    · rw [filterMap_append]
      exact hsub.trans (sublist_append_left _ _)
    · intro other hother
      rcases mem_append.mp hother with hother | hother
      · exact hrecent other hother
      · rw [mem_singleton.mp hother]
        exact haway
  accumulated := h.accumulated

theorem next {last : Sample} (h : Gathered settings calls stable samples)
    (hlive : usable tick.live = some live)
    (haway : ¬Within settings.switchMinPoints stable live.levels)
    (hlast : samples.getLast? = some last) (hlater : last.bucket < bucketOf settings tick.now)
    (hgap : secondsBetween tick.now last.at' ≤ settings.candidateTtlSeconds)
    (hband : Within settings.bandHalfWidthPoints (medianLevels samples) live.levels) :
    Gathered settings (calls ++ [tick]) stable
      (samples ++ [⟨bucketOf settings tick.now, live.levels, tick.now⟩]) where
  among := by
    obtain ⟨before, recent, rfl, hsub, hrecent⟩ := h.among
    refine ⟨before, recent ++ [tick], by simp, ?_, ?_⟩
    · rw [filterMap_append]
      refine hsub.append ?_
      simp [sampleOf, hlive]
    · intro other hother row hrow
      rcases mem_append.mp hother with hother | hother
      · exact hrecent other hother row hrow
      · rw [mem_singleton.mp hother, hlive] at hrow
        exact Option.some.inj hrow ▸ haway
  accumulated := h.accumulated.next hlast hlater hgap hband

theorem called (h : Gathered settings calls stable samples) {sample : Sample}
    (hsample : sample ∈ samples) :
    ∃ tick ∈ calls, sample.at' = tick.now ∧ sample.bucket = bucketOf settings tick.now := by
  obtain ⟨before, recent, rfl, hsub, -⟩ := h.among
  obtain ⟨tick, htick, heq⟩ := mem_filterMap.mp (hsub.subset hsample)
  rw [sampleOf, Option.map_eq_some_iff] at heq
  obtain ⟨row, -, rfl⟩ := heq
  exact ⟨tick, mem_append_right _ htick, rfl, rfl⟩

end Gathered

/-! ## What the candidate stands for -/

/-- The candidate's samples were gathered against the stable structure, and are too few. -/
structure CandidateTold (settings : StabilitySettings) (calls : List Tick) (state : StabilityState)
    (candidate : Candidate) : Prop where
  gathered : ∃ stable, state.stable = some stable ∧
    Gathered settings calls stable.levels candidate.samples
  median : candidate.levels = medianLevels candidate.samples
  lastSeen : candidate.lastSeenAt = candidate.samples.getLast?.map (·.at')
  few : candidate.samples.length < settings.requiredConfirmations

/-- The candidate, if any, is told by the calls. -/
def Told (settings : StabilitySettings) (calls : List Tick) (state : StabilityState) : Prop :=
  ∀ candidate, state.candidate = some candidate → CandidateTold settings calls state candidate

/-- No second call in bucket zero while the last sample is of bucket zero, which is read as none. -/
def FreshBucket (settings : StabilitySettings) (state : StabilityState) (tick : Tick) : Prop :=
  ∀ candidate, state.candidate = some candidate →
    candidate.samples.getLast?.map (·.bucket) = some 0 → bucketOf settings tick.now ≠ 0

section

variable {settings : StabilitySettings} {calls : List Tick} {state : StabilityState}
  {tick : Tick} {live : LiveStructure} {stable : Stable}

theorem bucketOf_mono (settings : StabilitySettings) {a b : Instant} (h : a ≤ b) :
    bucketOf settings a ≤ bucketOf settings b :=
  Int.ediv_le_ediv settings.interval_pos (Int.tdiv_le_tdiv (by norm_num) h)

theorem refresh_candidate (settings : StabilitySettings) (now : Instant) (state : StabilityState) :
    (refresh settings now state).candidate =
      state.candidate.filter fun candidate => !candidateExpired settings candidate now := by
  rw [refresh]
  cases hcandidate : state.candidate with
  | none => rfl
  | some candidate =>
    dsimp only
    rw [Option.filter_some]
    cases hexpired : candidateExpired settings candidate now <;> simp

theorem adopt_levels (now : Instant) (stable : Stable) :
    (adopt now stable).levels = stable.levels := by
  rw [adopt]
  split <;> rfl

theorem refresh_stable (settings : StabilitySettings) (now : Instant) (state : StabilityState) :
    (refresh settings now state).stable = state.stable.map (adopt now) := by
  rw [refresh]
  cases state.candidate with
  | none => rfl
  | some candidate =>
    dsimp only
    split <;> rfl

theorem nextSamples_of_none (settings : StabilitySettings) (bucket : ℤ) (now : Instant)
    (levels : Levels) : nextSamples settings none bucket now levels = [⟨bucket, levels, now⟩] := by
  rw [nextSamples, if_pos (by simp [lastSampleBucket]), nil_append]
  exact rtake_eq_self settings.required_pos

variable {candidate : Candidate} {now : Instant}

theorem nextSamples_of_far {bucket : ℤ} {levels : Levels}
    (h : ¬Within settings.bandHalfWidthPoints candidate.levels levels) :
    nextSamples settings (some candidate) bucket now levels = [⟨bucket, levels, now⟩] := by
  rw [← nextSamples_of_none settings, nextSamples, nextSamples]
  rw [if_pos (materiallyDifferent_eq_true.mpr h)]

theorem nextSamples_of_near {bucket : ℤ} {levels : Levels}
    (h : Within settings.bandHalfWidthPoints candidate.levels levels)
    (hfew : candidate.samples.length < settings.requiredConfirmations) :
    nextSamples settings (some candidate) bucket now levels =
      if lastSampleBucket candidate.samples ≠ some bucket then
        candidate.samples ++ [⟨bucket, levels, now⟩]
      else candidate.samples := by
  rw [nextSamples, materiallyDifferent_eq_false.mpr h]
  simp only [Bool.false_eq_true, if_false]
  apply rtake_eq_self
  split
  · rw [length_append]
    exact hfew
  · exact hfew.le

theorem gap_of_not_expired {last : Sample} (h : candidateExpired settings candidate now = false)
    (hseen : candidate.lastSeenAt = candidate.samples.getLast?.map (·.at'))
    (hlast : candidate.samples.getLast? = some last) :
    secondsBetween now last.at' ≤ settings.candidateTtlSeconds := by
  rw [candidateExpired, hseen, hlast] at h
  simpa using h

/-- The next samples are gathered against the stable structure, whether the candidate starts anew,
waits in the same bucket or goes on. -/
theorem nextSamples_gathered
    (htold : ∀ candidate, state.candidate = some candidate →
      candidateExpired settings candidate tick.now = false ∧
        Gathered settings calls stable.levels candidate.samples ∧
        candidate.levels = medianLevels candidate.samples ∧
        candidate.lastSeenAt = candidate.samples.getLast?.map (·.at') ∧
        candidate.samples.length < settings.requiredConfirmations)
    (hordered : ∀ call ∈ calls, call.now ≤ tick.now) (hfresh : FreshBucket settings state tick)
    (hlive : usable tick.live = some live)
    (haway : ¬Within settings.switchMinPoints stable.levels live.levels) :
    Gathered settings (calls ++ [tick]) stable.levels
        (nextSamples settings state.candidate (bucketOf settings tick.now) tick.now live.levels) ∧
      (nextSamples settings state.candidate (bucketOf settings tick.now) tick.now
        live.levels).length ≤ settings.requiredConfirmations := by
  have hquiet : ∀ row, usable tick.live = some row →
      ¬Within settings.switchMinPoints stable.levels row.levels := by
    intro row hrow
    rw [hlive] at hrow
    exact Option.some.inj hrow ▸ haway
  cases hcandidate : state.candidate with
  | none =>
    rw [nextSamples_of_none]
    exact ⟨Gathered.start hlive haway, settings.required_pos⟩
  | some candidate =>
    obtain ⟨hyoung, hgathered, hmedian, hseen, hfew⟩ := htold candidate hcandidate
    by_cases hnear : Within settings.bandHalfWidthPoints candidate.levels live.levels
    · rw [nextSamples_of_near hnear hfew]
      split
      · next hbucket =>
        obtain ⟨last, hlast⟩ := Option.isSome_iff_exists.mp
          (getLast?_isSome.mpr hgathered.accumulated.ne_nil)
        have hgap := gap_of_not_expired hyoung hseen hlast
        obtain ⟨call, hcall, hat, hcalled⟩ := hgathered.called (mem_of_getLast? hlast)
        have hle : last.bucket ≤ bucketOf settings tick.now := by
          rw [hcalled]
          exact bucketOf_mono settings (hordered call hcall)
        have hne : last.bucket ≠ bucketOf settings tick.now := by
          intro heq
          rw [lastSampleBucket, hlast] at hbucket
          by_cases hzero : last.bucket = 0
          · -- the slip: bucket zero is read as no bucket
            have hbucketZero : candidate.samples.getLast?.map (·.bucket) = some 0 := by
              rw [hlast, Option.map_some, hzero]
            exact hfresh candidate hcandidate hbucketZero (heq.symm.trans hzero)
          · apply hbucket
            rw [Option.map_some, if_neg hzero, heq]
        rw [hmedian] at hnear
        refine ⟨hgathered.next hlive haway hlast (lt_of_le_of_ne hle hne) hgap hnear, ?_⟩
        rw [length_append]
        exact hfew
      · exact ⟨hgathered.pass hquiet, hfew.le⟩
    · rw [nextSamples_of_far hnear]
      exact ⟨Gathered.start hlive haway, settings.required_pos⟩

/-! ## One call -/

/-- The stable levels, and the expiry they are of. -/
def StabilityState.standing (state : StabilityState) : Option (Levels × String) :=
  state.stable.map fun stable => (stable.levels, stable.expiry)

/-- What a call may do to the stable levels. -/
inductive Change (settings : StabilitySettings) (calls : List Tick) (tick : Tick)
    (before : Option (Levels × String)) (after : Option Levels) : Prop
  | kept : after = before.map Prod.fst → Change settings calls tick before after
  | bootstrap {live : LiveStructure} : before = none → usable tick.live = some live →
      after = some live.levels → Change settings calls tick before after
  | rollover {levels : Levels} {expiry : String} {live : LiveStructure} :
      before = some (levels, expiry) → usable tick.live = some live → live.expiry ≠ "" →
      expiry ≠ "" → live.expiry ≠ expiry → after = some live.levels →
      Change settings calls tick before after
  | promoted {levels : Levels} {expiry : String} {live : LiveStructure} {samples : List Sample} :
      before = some (levels, expiry) → usable tick.live = some live →
      Gathered settings (calls ++ [tick]) levels samples →
      samples.length = settings.requiredConfirmations →
      (samples.map (·.bucket)).Pairwise (· < ·) →
      after = some (medianLevels samples) → Change settings calls tick before after

section

variable (h : Told settings calls state)

include h

theorem Told.publish : Told settings calls (publicState now state) := by
  intro candidate hcandidate
  obtain ⟨⟨stable, hstable, hgathered⟩, hmedian, hseen, hfew⟩ := h candidate hcandidate
  refine ⟨⟨{ stable with
    durationSeconds := max (secondsBetween now (stable.promotedAt.getD now)) 0 }, ?_, hgathered⟩,
    hmedian, hseen, hfew⟩
  rw [publicState, hstable]
  rfl

theorem Told.refresh (now : Instant) :
    Told settings calls (refresh settings now state) := by
  intro candidate hcandidate
  rw [refresh_candidate, Option.filter_eq_some_iff] at hcandidate
  obtain ⟨⟨stable, hstable, hgathered⟩, hmedian, hseen, hfew⟩ := h candidate hcandidate.1
  refine ⟨⟨adopt now stable, ?_, ?_⟩, hmedian, hseen, hfew⟩
  · rw [refresh_stable, hstable]
    rfl
  · rw [adopt_levels]
    exact hgathered

theorem Told.pass (hlive : usable tick.live = none) :
    Told settings (calls ++ [tick]) state := by
  intro candidate hcandidate
  obtain ⟨⟨stable, hstable, hgathered⟩, hmedian, hseen, hfew⟩ := h candidate hcandidate
  refine ⟨⟨stable, hstable, hgathered.pass ?_⟩, hmedian, hseen, hfew⟩
  intro live hsome
  rw [hlive] at hsome
  cases hsome

omit h in
theorem told_of_none (h : state.candidate = none) : Told settings calls state := by
  intro candidate hcandidate
  rw [h] at hcandidate
  cases hcandidate

theorem observeCandidate_spec (hyoung : ∀ candidate, state.candidate = some candidate →
      candidateExpired settings candidate tick.now = false)
    (hstable : state.stable = some stable) (hordered : ∀ call ∈ calls, call.now ≤ tick.now)
    (hfresh : FreshBucket settings state tick) (hlive : usable tick.live = some live)
    (haway : ¬Within settings.switchMinPoints stable.levels live.levels) :
    Told settings (calls ++ [tick]) (observeCandidate settings state stable live tick.now) ∧
      Change settings calls tick state.standing
        ((observeCandidate settings state stable live tick.now).stable.map (·.levels)) := by
  have hcurrent : ∀ candidate, state.candidate = some candidate →
      candidateExpired settings candidate tick.now = false ∧
        Gathered settings calls stable.levels candidate.samples ∧
        candidate.levels = medianLevels candidate.samples ∧
        candidate.lastSeenAt = candidate.samples.getLast?.map (·.at') ∧
        candidate.samples.length < settings.requiredConfirmations := by
    intro candidate hcandidate
    obtain ⟨⟨stable', hstable', hgathered⟩, hmedian, hseen, hfew⟩ := h candidate hcandidate
    obtain rfl := Option.some.inj (hstable.symm.trans hstable')
    exact ⟨hyoung candidate hcandidate, hgathered, hmedian, hseen, hfew⟩
  have hstanding : state.standing = some (stable.levels, stable.expiry) := by
    rw [StabilityState.standing, hstable]
    rfl
  obtain ⟨hgathered, hlength⟩ := nextSamples_gathered hcurrent hordered hfresh hlive haway
  rw [observeCandidate]
  generalize nextSamples settings state.candidate (bucketOf settings tick.now) tick.now
    live.levels = samples at hgathered hlength
  split
  · next henough =>
    refine ⟨told_of_none rfl, ?_⟩
    exact .promoted hstanding hlive hgathered (le_antisymm hlength henough)
      hgathered.accumulated.buckets rfl
  · next hshort =>
    refine ⟨?_, .kept ?_⟩
    · intro candidate hcandidate
      obtain rfl := Option.some.inj hcandidate
      exact ⟨⟨stable, hstable, hgathered⟩, rfl, rfl, not_le.mp hshort⟩
    · rw [hstanding, hstable]
      rfl

theorem observeLive_spec (hyoung : ∀ candidate, state.candidate = some candidate →
      candidateExpired settings candidate tick.now = false)
    (hordered : ∀ call ∈ calls, call.now ≤ tick.now) (hfresh : FreshBucket settings state tick)
    (hlive : usable tick.live = some live) :
    Told settings (calls ++ [tick]) (observeLive settings state live tick.now) ∧
      Change settings calls tick state.standing
        ((observeLive settings state live tick.now).stable.map (·.levels)) := by
  rw [observeLive]
  cases hstable : state.stable with
  | none =>
    refine ⟨told_of_none rfl, .bootstrap ?_ hlive rfl⟩
    rw [StabilityState.standing, hstable]
    rfl
  | some stable =>
    have hstanding : state.standing = some (stable.levels, stable.expiry) := by
      rw [StabilityState.standing, hstable]
      rfl
    dsimp only
    split
    · next hexpiry =>
      exact ⟨told_of_none rfl,
        .rollover hstanding hlive hexpiry.1 hexpiry.2.1 hexpiry.2.2 rfl⟩
    split
    · refine ⟨told_of_none rfl, .kept ?_⟩
      rw [hstanding]
      rfl
    · next haway =>
      rw [Bool.not_eq_true', Bool.not_eq_false] at haway
      exact observeCandidate_spec h hyoung hstable hordered hfresh hlive
        (materiallyDifferent_eq_true.mp haway)

omit h in
theorem refresh_standing (settings : StabilitySettings) (now : Instant) (state : StabilityState) :
    (refresh settings now state).standing = state.standing := by
  rw [StabilityState.standing, StabilityState.standing, refresh_stable, Option.map_map]
  cases state.stable with
  | none => rfl
  | some stable =>
    show some ((adopt now stable).levels, (adopt now stable).expiry) = _
    rw [adopt]
    split <;> rfl

theorem advance_spec
    (hordered : ∀ call ∈ calls, call.now ≤ tick.now) (hfresh : FreshBucket settings state tick) :
    Told settings (calls ++ [tick]) (advanceStableStructure settings state tick).2 ∧
      Change settings calls tick state.standing
        ((advanceStableStructure settings state tick).1.map (·.levels)) ∧
      (usable tick.live = none → (advanceStableStructure settings state tick).1.map (·.levels) =
        state.standing.map Prod.fst) ∧
      (advanceStableStructure settings state tick).2.stable.map (·.levels) =
        (advanceStableStructure settings state tick).1.map (·.levels) := by
  have hrefreshed : Told settings calls (refresh settings tick.now state) := h.refresh tick.now
  have hlevels : (refresh settings tick.now state).stable.map (·.levels) =
      state.standing.map Prod.fst := by
    rw [← refresh_standing settings tick.now, StabilityState.standing, Option.map_map]
    rfl
  have hpublic : ∀ state : StabilityState, (publicState tick.now state).stable.map (·.levels) =
      state.stable.map (·.levels) := by
    intro state
    rw [publicState, Option.map_map]
    rfl
  rw [advanceStableStructure]
  cases hlive : usable tick.live with
  | none =>
    exact ⟨(hrefreshed.pass hlive).publish, .kept hlevels, fun _ => hlevels, hpublic _⟩
  | some live =>
    have hyoung : ∀ candidate, (refresh settings tick.now state).candidate = some candidate →
        candidateExpired settings candidate tick.now = false := by
      intro candidate hcandidate
      rw [refresh_candidate, Option.filter_eq_some_iff] at hcandidate
      simpa using hcandidate.2
    have hstill : FreshBucket settings (refresh settings tick.now state) tick := by
      intro candidate hcandidate
      rw [refresh_candidate, Option.filter_eq_some_iff] at hcandidate
      exact hfresh candidate hcandidate.1
    obtain ⟨htold, hchange⟩ := observeLive_spec hrefreshed hyoung hordered hstill hlive
    rw [refresh_standing] at hchange
    refine ⟨htold.publish, hchange, ?_, hpublic _⟩
    intro hnone
    cases hnone

end

end

/-! ## Along a run -/

/-- The calls of a run come at times that do not go back. -/
def InOrder (calls : List Tick) : Prop := calls.Pairwise fun a b => a.now ≤ b.now

theorem run_told {settings : StabilitySettings} {start state : StabilityState}
    {evs : List (Tick × Option Stable)} (hstart : start.candidate = none)
    (hrun : Run (advanceStableStructure settings) (FreshBucket settings) start evs state)
    (hordered : InOrder (evs.map Prod.fst)) : Told settings (evs.map Prod.fst) state := by
  induction hrun with
  | nil => exact told_of_none hstart
  | @snoc evs state tick _ hfresh ih =>
    rw [map_append, InOrder, pairwise_append] at hordered
    rw [map_append]
    refine (advance_spec (ih hordered.1) ?_ hfresh).1
    intro call hcall
    exact hordered.2.2 call hcall tick (by simp)

/-- **The stable levels move only for a reason.** In every run that starts without a candidate and
never takes a second call of bucket zero for a new sample, each call keeps the stable levels, or
starts them, or follows an expiry change, or promotes the median of enough gathered samples; and a
missing or unusable live structure keeps them. -/
theorem stable_levels_move_for_reason {settings : StabilitySettings}
    {start state : StabilityState} {evs : List (Tick × Option Stable)}
    (hstart : start.candidate = none)
    (hrun : Run (advanceStableStructure settings) (FreshBucket settings) start evs state)
    (tick : Tick) (hordered : InOrder (evs.map Prod.fst ++ [tick]))
    (hfresh : FreshBucket settings state tick) :
    Change settings (evs.map Prod.fst) tick state.standing
        ((advanceStableStructure settings state tick).1.map (·.levels)) ∧
      (usable tick.live = none → (advanceStableStructure settings state tick).1.map (·.levels) =
        state.standing.map Prod.fst) ∧
      (advanceStableStructure settings state tick).2.stable.map (·.levels) =
        (advanceStableStructure settings state tick).1.map (·.levels) := by
  rw [InOrder, pairwise_append] at hordered
  refine (advance_spec (run_told hstart hrun hordered.1) ?_ hfresh).2
  intro call hcall
  exact hordered.2.2 call hcall tick (by simp)

/-! ## Two runs by hand -/

/-- A call at a second, with a put wall only. -/
def putWallAt (seconds : ℤ) (put : ℚ) : Tick where
  now := seconds * 1000000
  live := some {
    levels := fun kind => if kind = .putWall then some put else none
    expiry := "20260714" }

theorem putWall_moves : ∃ evs state,
    Run (advanceStableStructure {}) (FreshBucket {}) {} evs state ∧
      evs.map Prod.fst = [putWallAt 1000000 7500, putWallAt 1000300 7475] ∧
      Change {} [putWallAt 1000000 7500, putWallAt 1000300 7475] (putWallAt 1000600 7476)
        state.standing
        ((advanceStableStructure {} state (putWallAt 1000600 7476)).1.map (·.levels)) := by
  have hrun : Run (advanceStableStructure {}) (FreshBucket {}) {} _ _ :=
    Run.snoc (putWallAt 1000300 7475)
      (Run.snoc (putWallAt 1000000 7500) .nil (fun _ _ _ => by decide +kernel))
      (fun _ _ _ => by decide +kernel)
  have hordered : InOrder [putWallAt 1000000 7500, putWallAt 1000300 7475,
      putWallAt 1000600 7476] := by
    rw [InOrder]
    simp [putWallAt]
  exact ⟨_, _, hrun, rfl, (stable_levels_move_for_reason rfl hrun (putWallAt 1000600 7476) hordered
    (fun _ _ _ => by decide +kernel)).1⟩

/-- In the first five minutes of the epoch the same bucket counts twice, and two calls one second
apart move the stable wall. -/
theorem bucket_zero_counts_twice : ∃ evs state,
    Run (advanceStableStructure {}) anyStep {} evs state ∧
      evs.map Prod.fst = [putWallAt 1 7500, putWallAt 2 7475] ∧
      (∀ call ∈ [putWallAt 1 7500, putWallAt 2 7475, putWallAt 3 7475],
        bucketOf {} call.now = 0 ∧ (usable call.live).map (·.expiry) = some "20260714") ∧
      state.standing.map (fun standing => (standing.1 .putWall, standing.2)) =
        some (some 7500, "20260714") ∧
      (advanceStableStructure {} state (putWallAt 3 7475)).1.map (·.levels .putWall) =
        some (some 7475) := by
  refine ⟨_, _, Run.snoc (putWallAt 2 7475) (Run.snoc (putWallAt 1 7500) .nil trivial) trivial,
    rfl, ?_, ?_, ?_⟩ <;> decide +kernel

end SpxSpark.OrderMap.StableStructure
