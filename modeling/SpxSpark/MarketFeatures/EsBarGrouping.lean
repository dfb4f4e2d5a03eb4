import Mathlib.Data.List.Chain
import SpxSpark.Lib.Grouping
import SpxSpark.Lib.Recent
import SpxSpark.MarketFeatures.EsBarState

/-!
# EsBarGrouping — the bars are the grouping of the accepted samples

The observations accepted since the last contract reset are kept beside the state, where no step
reads them.
-/

namespace SpxSpark.MarketFeatures

open Grouping Lib List

def bucketOf (o : EsObservation) : Instant := bucketStart o.sourceAt

/-! ## Buckets -/

theorem timedelta_interval : timedelta intervalSeconds = 300000000 := by
  have h : ((intervalSeconds : ℕ) : ℚ) * 1000000 = ((300000000 : Int) : ℚ) := by
    norm_num [intervalSeconds]
  rw [timedelta, h, roundHalfEven_intCast]

theorem bucketEnd_eq (start : Instant) : bucketEnd start = start + 300000000 := by
  rw [bucketEnd, timedelta_interval]

theorem bucketStart_mono {a b : Instant} (h : a ≤ b) : bucketStart a ≤ bucketStart b := by
  have hstamp : a.tdiv 1000000 ≤ b.tdiv 1000000 := Int.tdiv_le_tdiv (by norm_num) h
  have hfloor : ∀ x y : Int, x ≤ y → (x - x % 300) * 1000000 ≤ (y - y % 300) * 1000000 := by
    intro x y hxy
    omega
  exact hfloor _ _ hstamp

theorem bucketEnd_le {a b : Instant} (h : bucketStart a < bucketStart b) :
    bucketEnd (bucketStart a) ≤ bucketStart b := by
  have hfloor : ∀ x y : Int, (x - x % 300) * 1000000 < (y - y % 300) * 1000000 →
      (x - x % 300) * 1000000 + 300000000 ≤ (y - y % 300) * 1000000 := by
    intro x y hxy
    omega
  rw [bucketEnd_eq]
  exact hfloor _ _ h

/-! ## What a bar says of its group -/

/-- The bar has the prices, the count and the times of the group. -/
structure Summarises (bar : EsBar) (start : Instant) (group : List EsObservation) : Prop where
  barStart : bar.barStart = start
  barEnd : bar.barEnd = bucketEnd start
  interval : bar.intervalSeconds = intervalSeconds
  openPrice : (group.map (·.price)).head? = some bar.openPrice
  high : (group.map (·.price)).max? = some bar.high
  low : (group.map (·.price)).min? = some bar.low
  close : (group.map (·.price)).getLast? = some bar.close
  sampleCount : group.length = bar.sampleCount
  firstSourceAt : (group.map (·.sourceAt)).head? = some bar.firstSourceAt
  lastSourceAt : (group.map (·.sourceAt)).getLast? = some bar.lastSourceAt

/-- The observations of one bucket are dense, reach near both of its ends, and carry one contract
or none. -/
structure OkGroup (start : Instant) (group : List EsObservation) : Prop where
  samples : minOkSamples ≤ group.length
  gaps : group.IsChain fun a b => secondsBetween b.sourceAt a.sourceAt ≤ maxOkGapSeconds
  leading : ∀ o ∈ group.head?, secondsBetween o.sourceAt start ≤ maxEdgeGapSeconds
  trailing : ∀ o ∈ group.getLast?, secondsBetween (bucketEnd start) o.sourceAt ≤ maxEdgeGapSeconds
  oneContract : ∃ identity, ∀ o ∈ group, o.contractIdentity = identity

/-- What the open bar remembers of its group, for its quality. -/
structure Remembers (bar : EsBar) (group : List EsObservation) : Prop where
  gaps : group.IsChain fun a b => secondsBetween b.sourceAt a.sourceAt ≤ bar.maxSampleGapSeconds
  oneContract : bar.contractIdentityAmbiguous = false →
    ∀ o ∈ group, o.contractIdentity = bar.contractIdentity
  unrated : bar.quality = .openBar

variable {clock : SessionClock} {bar : EsBar} {start : Instant} {group : List EsObservation}
  {o : EsObservation}

theorem max?_snoc {xs : List ℚ} {m x : ℚ} (h : xs.max? = some m) :
    (xs ++ [x]).max? = some (max m x) := by
  cases xs with
  | nil => cases h
  | cons a xs =>
    rw [max?_cons'] at h
    rw [cons_append, max?_cons', foldl_append, ← Option.some.inj h]
    rfl

theorem min?_snoc {xs : List ℚ} {m x : ℚ} (h : xs.min? = some m) :
    (xs ++ [x]).min? = some (min m x) := by
  cases xs with
  | nil => cases h
  | cons a xs =>
    rw [min?_cons'] at h
    rw [cons_append, min?_cons', foldl_append, ← Option.some.inj h]
    rfl

theorem newBar_summarises (gapBefore ambiguous : Bool) :
    Summarises (newBar clock o gapBefore ambiguous) (bucketOf o) [o] := by
  constructor <;> rfl

theorem newBar_remembers (gapBefore ambiguous : Bool) :
    Remembers (newBar clock o gapBefore ambiguous) [o] where
  gaps := .singleton _
  oneContract _ o' ho := by
    rw [mem_singleton.mp ho]
    rfl
  unrated := rfl

theorem Summarises.addObservation (h : Summarises bar start group) :
    Summarises (addObservation bar o) start (group ++ [o]) where
  barStart := h.barStart
  barEnd := h.barEnd
  interval := h.interval
  openPrice := by
    rw [map_append, head?_append, h.openPrice]
    rfl
  high := by
    rw [map_append]
    exact max?_snoc h.high
  low := by
    rw [map_append]
    exact min?_snoc h.low
  close := by simp [MarketFeatures.addObservation]
  sampleCount := by
    rw [length_append, h.sampleCount]
    rfl
  firstSourceAt := by
    rw [map_append, head?_append, h.firstSourceAt]
    rfl
  lastSourceAt := by simp [MarketFeatures.addObservation]

theorem mixesContracts_false {identity : Option String} (h : mixesContracts bar identity = false) :
    bar.contractIdentityAmbiguous = false ∧ identity = bar.contractIdentity := by
  simp only [mixesContracts, Bool.or_eq_false_iff] at h
  obtain ⟨⟨hambiguous, hknown⟩, hsame⟩ := h
  refine ⟨hambiguous, ?_⟩
  cases hbar : bar.contractIdentity with
  | none =>
    rw [hbar] at hknown
    cases identity with
    | none => rfl
    | some id => simp at hknown
  | some old => simpa [hbar] using hsame

theorem Remembers.addObservation (h : Remembers bar group) (hs : Summarises bar start group) :
    Remembers (addObservation bar o) (group ++ [o]) where
  gaps := by
    rw [isChain_append]
    refine ⟨h.gaps.imp fun a b hgap => hgap.trans (le_max_left _ _), .singleton _, ?_⟩
    intro last hlast x hx
    obtain rfl : o = x := by simpa using hx
    have hat : last.sourceAt = bar.lastSourceAt := by
      have hmap := hs.lastSourceAt
      rw [getLast?_map, hlast] at hmap
      exact Option.some.inj hmap
    rw [hat]
    exact (le_max_left _ _).trans (le_max_right _ _)
  oneContract hambiguous x hx := by
    obtain ⟨hmixed, -⟩ := Bool.or_eq_false_iff.mp hambiguous
    obtain ⟨hclear, hsame⟩ := mixesContracts_false hmixed
    have hkept : (MarketFeatures.addObservation bar o).contractIdentity = bar.contractIdentity := by
      simp [MarketFeatures.addObservation, hmixed]
    rw [hkept]
    rcases mem_append.mp hx with hx | hx
    · exact h.oneContract hclear x hx
    · rw [mem_singleton.mp hx, hsame]
  unrated := h.unrated

theorem Summarises.finalizeBar (h : Summarises bar start group) :
    Summarises (finalizeBar bar) start group :=
  { h with }

theorem finalizeBar_ok (h : Summarises bar start group) (hr : Remembers bar group)
    (hok : (finalizeBar bar).quality = .okBar) : OkGroup start group := by
  have hrated : isOk bar = true := by
    by_contra hnot
    simp [MarketFeatures.finalizeBar, hnot] at hok
  simp only [isOk, Bool.and_eq_true, decide_eq_true_eq, Bool.not_eq_true'] at hrated
  obtain ⟨⟨⟨⟨hcount, hgap⟩, hclear⟩, -, hleading⟩, -, htrailing⟩ := hrated
  refine ⟨h.sampleCount ▸ hcount, hr.gaps.imp fun a b hab => hab.trans hgap, ?_, ?_,
    bar.contractIdentity, hr.oneContract hclear⟩
  · intro x hx
    have hfirst := h.firstSourceAt
    rw [head?_map, hx] at hfirst
    have hat : x.sourceAt = bar.firstSourceAt := Option.some.inj hfirst
    rw [hat, ← h.barStart]
    exact hleading
  · intro x hx
    have hlast := h.lastSourceAt
    rw [getLast?_map, hx] at hlast
    have hat : x.sourceAt = bar.lastSourceAt := Option.some.inj hlast
    rw [hat, ← h.barEnd]
    exact htrailing

/-! ## The stored rows -/

theorem closedRows_eq {rows : List EsBar} (hinterval : ∀ row ∈ rows, row.intervalSeconds = 300)
    (hsorted : (rows.map (·.barStart)).Pairwise (· < ·)) : closedRows rows = rows := by
  have hkeep : rows.filter (fun row => row.intervalSeconds = intervalSeconds) = rows := by
    rw [filter_eq_self]
    intro row hrow
    exact decide_eq_true (hinterval row hrow)
  rw [closedRows, barRows, hkeep]
  exact List.Pairwise.insertionSort_eq ((pairwise_map.mp hsorted).imp fun h => le_of_lt h)

theorem upsertClosed_eq {rows : List EsBar} (hsorted : (rows.map (·.barStart)).Pairwise (· < ·))
    (hafter : ∀ row ∈ rows, row.barStart < bar.barStart) :
    upsertClosed rows bar = rows ++ [bar] := by
  have hkeep : rows.filter (fun row => row.barStart ≠ bar.barStart) = rows := by
    rw [filter_eq_self]
    intro row hrow
    simpa using (hafter row hrow).ne
  rw [upsertClosed, upsert, hkeep]
  refine List.Pairwise.insertionSort_eq (pairwise_append.mpr ⟨?_, pairwise_singleton _ _, ?_⟩)
  · exact (pairwise_map.mp hsorted).imp fun h => le_of_lt h
  · intro row hrow last hlast
    rw [mem_singleton.mp hlast]
    exact le_of_lt (hafter row hrow)

/-! ## The state and the observations behind it -/

/-- A closed bar sums up its group, and is ok only if the group is. -/
def ClosedGroup (obs : List EsObservation) (bar : EsBar) (start : Instant) : Prop :=
  Summarises bar start (groupAt bucketOf obs start) ∧
    (bar.quality = .okBar → OkGroup start (groupAt bucketOf obs start))

/-- The open bar sums up its group and remembers it for its quality. -/
def OpenGroup (obs : List EsObservation) (bar : EsBar) (start : Instant) : Prop :=
  Summarises bar start (groupAt bucketOf obs start) ∧
    Remembers bar (groupAt bucketOf obs start)

/-- The bars stand for the groups of the observations: the open bar for the last group, the closed
bars for the newest of the others. -/
structure BarsOf (obs : List EsObservation) (closed : List EsBar) (current : Option EsBar) :
    Prop where
  closed : List.Forall₂ (ClosedGroup obs) closed
    ((groupKeys bucketOf obs).dropLast.rtake maxClosedBars)
  current : Option.Rel (OpenGroup obs) current (groupKeys bucketOf obs).getLast?

/-- Along the calls: what is known of the state, given the observations since the last reset. -/
structure Grouped (obs : List EsObservation) (state : EsBarState) : Prop where
  increasing : obs.Pairwise fun a b => a.sourceAt < b.sourceAt
  lastSourceAt : state.lastSourceAt = obs.getLast?.map (·.sourceAt)
  bars : BarsOf obs state.closedBars state.currentBar

variable {obs : List EsObservation} {state : EsBarState} {closed : List EsBar}
  {current : Option EsBar}

theorem grouped_initial (diagnostics : EsDiagnostics) :
    Grouped [] { diagnostics := diagnostics } where
  increasing := .nil
  lastSourceAt := rfl
  bars := ⟨.nil, .none⟩

theorem nondecreasing_of_increasing (h : obs.Pairwise fun a b => a.sourceAt < b.sourceAt) :
    Nondecreasing bucketOf obs :=
  h.imp fun hlt => bucketStart_mono (le_of_lt hlt)

theorem BarsOf.starts (h : BarsOf obs closed current) :
    closed.map (·.barStart) = (groupKeys bucketOf obs).dropLast.rtake maxClosedBars := by
  rw [← forall₂_eq_eq_eq, forall₂_map_left_iff]
  exact h.closed.imp fun _ _ hgroup => hgroup.1.barStart

theorem BarsOf.sorted (h : BarsOf obs closed current) (hkeys : Nondecreasing bucketOf obs) :
    (closed.map (·.barStart)).Pairwise (· < ·) := by
  rw [h.starts]
  have hall := groupKeys_pairwise hkeys
  exact (hall.sublist (dropLast_sublist _)).sublist (drop_sublist _ _)

theorem BarsOf.closedRows_eq (h : BarsOf obs closed current) (hkeys : Nondecreasing bucketOf obs) :
    closedRows closed = closed := by
  refine MarketFeatures.closedRows_eq ?_ (h.sorted hkeys)
  intro row hrow
  have hall : List.Forall₂ (fun bar _ => bar.intervalSeconds = 300 ∧ True) closed _ :=
    h.closed.imp fun _ _ hgroup => ⟨hgroup.1.interval, trivial⟩
  exact (forall₂_and_left _ _ |>.mp hall).1 row hrow

theorem BarsOf.same {last : EsObservation} (h : BarsOf obs closed (some bar))
    (hkeys : Nondecreasing bucketOf obs) (hlast : obs.getLast? = some last)
    (hsame : bucketOf o = bucketOf last) :
    BarsOf (obs ++ [o]) closed (some (addObservation bar o)) := by
  obtain ⟨ks, hks⟩ := groupKeys_of_getLast? bucketOf hlast
  have hkept : groupKeys bucketOf (obs ++ [o]) = ks ++ [bucketOf last] := by
    rw [groupKeys_snoc_same hlast hsame, hks]
  have hbefore : ∀ k ∈ ks, k < bucketOf last := by
    have hpair := groupKeys_pairwise hkeys
    rw [hks] at hpair
    intro k hk
    exact (pairwise_append.mp hpair).2.2 k hk _ mem_cons_self
  obtain ⟨hclosed, hcurrent⟩ := h
  rw [hks, dropLast_concat] at hclosed
  rw [hks, getLast?_concat] at hcurrent
  constructor
  · rw [hkept, dropLast_concat]
    refine forall₂_imp_mem hclosed fun row k hk hgroup => ?_
    have hne : bucketOf o ≠ k := hsame ▸ (hbefore k (mem_of_mem_drop hk)).ne'
    rw [ClosedGroup, groupAt_snoc_of_ne hne]
    exact hgroup
  · rw [hkept, getLast?_concat]
    cases hcurrent with
    | some hgroup =>
      refine .some ?_
      rw [OpenGroup, ← hsame, groupAt_snoc_self, hsame]
      exact ⟨hgroup.1.addObservation, hgroup.2.addObservation hgroup.1⟩

theorem BarsOf.next {last : EsObservation} (h : BarsOf obs closed (some bar))
    (hlast : obs.getLast? = some last) (hlater : ∀ x ∈ obs, bucketOf x < bucketOf o)
    (gapBefore ambiguous : Bool) :
    BarsOf (obs ++ [o]) ((closed ++ [finalizeBar bar]).rtake maxClosedBars)
      (some (newBar clock o gapBefore ambiguous)) := by
  have hnew : ∀ x ∈ obs, bucketOf x ≠ bucketOf o := fun x hx => (hlater x hx).ne
  have hstay : ∀ k ∈ groupKeys bucketOf obs, groupAt bucketOf (obs ++ [o]) k =
      groupAt bucketOf obs k := by
    intro k hk
    obtain ⟨x, hx, rfl⟩ := mem_groupKeys.mp hk
    exact groupAt_snoc_of_ne (hnew x hx).symm
  obtain ⟨ks, hks⟩ := groupKeys_of_getLast? bucketOf hlast
  have hkept : groupKeys bucketOf (obs ++ [o]) = ks ++ [bucketOf last] ++ [bucketOf o] := by
    rw [groupKeys_snoc_new hnew, hks]
  obtain ⟨hclosed, hcurrent⟩ := h
  rw [hks, dropLast_concat] at hclosed
  rw [hks, getLast?_concat] at hcurrent
  constructor
  · rw [hkept, dropLast_concat]
    have hwindow : maxClosedBars = 431 + 1 := rfl
    rw [hwindow, rtake_concat_succ, rtake_concat_succ]
    -- All but the newest closed group: the newest of the groups that were closed before.
    have hold : List.Forall₂ (ClosedGroup (obs ++ [o])) (closed.rtake 431) (ks.rtake 431) := by
      have htake := forall₂_rtake hclosed 431
      rw [rtake_rtake (by decide)] at htake
      refine forall₂_imp_mem htake fun row k hk hgroup => ?_
      have hmem : k ∈ groupKeys bucketOf obs := by
        rw [hks]
        exact mem_append_left _ (mem_of_mem_drop hk)
      rw [ClosedGroup, hstay k hmem]
      exact hgroup
    refine rel_append hold (.cons ?_ .nil)
    cases hcurrent with
    | some hgroup =>
      have hmem : bucketOf last ∈ groupKeys bucketOf obs := by simp [hks]
      rw [ClosedGroup, hstay _ hmem]
      exact ⟨hgroup.1.finalizeBar, finalizeBar_ok hgroup.1 hgroup.2⟩
  · rw [hkept, getLast?_concat]
    refine .some ?_
    rw [OpenGroup, groupAt_snoc_self, groupAt_of_notMem hnew]
    exact ⟨newBar_summarises _ _, newBar_remembers _ _⟩

theorem BarsOf.first (h : BarsOf [] closed current) (clock : SessionClock) (o : EsObservation)
    (gapBefore ambiguous : Bool) : current = none ∧ closed = [] ∧
      BarsOf [o] closed (some (newBar clock o gapBefore ambiguous)) := by
  obtain ⟨hclosed, hcurrent⟩ := h
  have hnone : closed = [] := forall₂_nil_right_iff.mp hclosed
  have hkeys : groupKeys bucketOf [o] = [bucketOf o] := rfl
  have hgroup : groupAt bucketOf [o] (bucketOf o) = [o] := by simp [groupAt]
  subst hnone
  refine ⟨by cases hcurrent; rfl, rfl, ?_, ?_⟩
  · rw [hkeys, dropLast_singleton, rtake_nil]
    exact .nil
  rw [hkeys, getLast?_singleton]
  refine .some ?_
  rw [OpenGroup, hgroup]
  exact ⟨newBar_summarises _ _, newBar_remembers _ _⟩

theorem BarsOf.rtake (h : BarsOf obs closed current) :
    BarsOf obs (closed.rtake maxClosedBars) current where
  closed := by
    have htake := forall₂_rtake h.closed maxClosedBars
    rwa [rtake_rtake le_rfl] at htake
  current := h.current

theorem BarsOf.starts_before (h : BarsOf obs closed current) (hkeys : Nondecreasing bucketOf obs)
    {last : EsObservation} (hlast : obs.getLast? = some last) :
    ∀ row ∈ closed, row.barStart < bucketOf last := by
  obtain ⟨ks, hks⟩ := groupKeys_of_getLast? bucketOf hlast
  have hpair := groupKeys_pairwise hkeys
  rw [hks] at hpair
  intro row hrow
  have hmem : row.barStart ∈ ks.rtake maxClosedBars := by
    have hmem := mem_map_of_mem (f := fun row : EsBar => row.barStart) hrow
    rwa [h.starts, hks, dropLast_concat] at hmem
  exact (pairwise_append.mp hpair).2.2 _ (mem_of_mem_drop hmem) _ mem_cons_self

theorem BarsOf.advance (h : BarsOf obs state.closedBars state.currentBar)
    (hkeys : Nondecreasing bucketOf obs) (hlater : ∀ x ∈ obs, x.sourceAt < o.sourceAt)
    (identity : Option String) :
    let bars := advanceBars clock state identity o
    BarsOf (obs ++ [o]) (bars.2.1.rtake maxClosedBars) (some bars.1) := by
  have hrows := h.closedRows_eq hkeys
  cases hlast : obs.getLast? with
  | none =>
    obtain rfl := getLast?_eq_none_iff.mp hlast
    obtain ⟨hnone, hclosed, hfirst⟩ := h.first clock o false
      (identity.isSome && o.contractIdentity.isNone)
    simp only [advanceBars, hnone, hrows]
    exact hfirst.rtake
  | some last =>
    obtain ⟨ks, hks⟩ := groupKeys_of_getLast? bucketOf hlast
    have hcurrent := h.current
    rw [hks, getLast?_concat] at hcurrent
    cases hbar : state.currentBar with
    | none =>
      rw [hbar] at hcurrent
      cases hcurrent
    | some bar =>
      rw [hbar] at hcurrent h
      cases hcurrent with
      | some hgroup =>
        have hstart : bar.barStart = bucketOf last := hgroup.1.barStart
        by_cases hsame : bucketOf o = bucketOf last
        · have hthen : bar.barStart = bucketStart o.sourceAt := hstart.trans hsame.symm
          simp only [advanceBars, hbar, hrows, if_pos hthen]
          exact (h.same hkeys hlast hsame).rtake
        · have helse : bar.barStart ≠ bucketStart o.sourceAt := fun heq =>
            hsame (heq.symm.trans hstart)
          have hbefore : ∀ x ∈ obs, bucketOf x < bucketOf o := by
            intro x hx
            have hlast' : bucketOf last < bucketOf o := by
              have hmem := mem_of_getLast? hlast
              exact lt_of_le_of_ne (bucketStart_mono (le_of_lt (hlater last hmem)))
                (Ne.symm hsame)
            exact lt_of_le_of_lt (hkeys.le_getLast hlast x hx) hlast'
          have hput : upsertClosed state.closedBars (finalizeBar bar) =
              state.closedBars ++ [finalizeBar bar] := by
            refine upsertClosed_eq (h.sorted hkeys) fun row hrow => ?_
            exact lt_of_lt_of_eq (h.starts_before hkeys hlast row hrow) hstart.symm
          simp only [advanceBars, hbar, hrows, if_neg helse, hput]
          exact h.next hlast hbefore _ _

theorem BarsOf.ordered (h : BarsOf obs closed current) (hkeys : Nondecreasing bucketOf obs) :
    (closed ++ current.toList).Pairwise fun a b =>
      a.barStart < b.barStart ∧ a.barEnd ≤ b.barStart := by
  let ends (k : Instant) : Instant × Instant := (k, bucketEnd k)
  let keys := groupKeys bucketOf obs
  have hends : (closed ++ current.toList).map (fun bar => (bar.barStart, bar.barEnd)) =
      (keys.dropLast.rtake maxClosedBars ++ keys.getLast?.toList).map ends := by
    rw [← forall₂_eq_eq_eq, forall₂_map_left_iff, forall₂_map_right_iff]
    refine rel_append (h.closed.imp fun bar k hgroup => ?_)
      ((forall₂_toList h.current).imp fun bar k hgroup => ?_)
    · exact Prod.ext hgroup.1.barStart hgroup.1.barEnd
    · exact Prod.ext hgroup.1.barStart hgroup.1.barEnd
  have hsub : (keys.dropLast.rtake maxClosedBars ++ keys.getLast?.toList).Sublist keys := by
    have hwhole : keys.dropLast ++ keys.getLast?.toList = keys := by
      rcases eq_nil_or_concat keys with hnil | ⟨ks, k, hks⟩
      · rw [hnil]
        rfl
      · rw [hks, concat_eq_append, dropLast_concat, getLast?_concat]
        rfl
    have hdrop := (drop_sublist (keys.dropLast.length - maxClosedBars) keys.dropLast).append
      (List.Sublist.refl keys.getLast?.toList)
    rwa [hwhole] at hdrop
  have hapart : keys.Pairwise fun a b => a < b ∧ bucketEnd a ≤ b := by
    refine (groupKeys_pairwise hkeys).imp_of_mem fun ha hb hlt => ⟨hlt, ?_⟩
    obtain ⟨x, -, rfl⟩ := mem_groupKeys.mp ha
    obtain ⟨y, -, rfl⟩ := mem_groupKeys.mp hb
    exact bucketEnd_le hlt
  have hpair : ((closed ++ current.toList).map fun bar => (bar.barStart, bar.barEnd)).Pairwise
      fun a b => a.1 < b.1 ∧ a.2 ≤ b.1 := by
    rw [hends, pairwise_map]
    exact hapart.sublist hsub
  exact pairwise_map.mp hpair

/-! ## One call and a run of calls -/

variable {sample : EsSample} {now : Instant}

theorem rejectionReason_ok {sourceAt : Option Instant} {price : Option ℚ}
    {lastSourceAt : Option Instant} {s : Instant} {p : ℚ}
    (h : rejectionReason sourceAt price now lastSourceAt = .ok (s, p)) :
    ∀ last, lastSourceAt = some last → last < s := by
  intro last hlast
  unfold rejectionReason at h
  split at h
  · cases h
  · split at h
    · cases h
    · split_ifs at h with _ _ hlate
      cases h
      rw [hlast] at hlate
      simpa using hlate

theorem observe_later (h : observe state sample now = .ok o) :
    ∀ last, state.lastSourceAt = some last → last < o.sourceAt := by
  unfold observe at h
  dsimp only at h
  split_ifs at h
  cases hreason : rejectionReason (sample.quote.getD {}).sourceAt (sample.quote.getD {}).price now
      state.lastSourceAt with
  | error e =>
    rw [hreason] at h
    cases h
  | ok found =>
    rw [hreason] at h
    cases h
    exact rejectionReason_ok hreason

theorem advance_rejected (clock : SessionClock) {previous : Option EsBarState} {rejection : String}
    (h : observe (previous.getD {}) sample now = .error rejection) :
    ∃ diagnostics, advanceEsBarState clock previous sample now =
      { previous.getD {} with diagnostics := diagnostics } := by
  unfold advanceEsBarState
  dsimp only
  rw [h]
  exact ⟨_, rfl⟩

/-- The observations since the last contract reset, with one more. -/
def sinceReset (state : EsBarState) (now : Instant) (o : EsObservation)
    (obs : List EsObservation) : List EsObservation :=
  match contractReset state now o with
  | some _ => [o]
  | none => obs ++ [o]

theorem accept_bars (clock : SessionClock) (state : EsBarState) (now : Instant)
    (o : EsObservation) :
    let bars := advanceBars clock (stateFor state now o) (known state.contractIdentity) o
    (accept clock state now o).closedBars = bars.2.1.rtake maxClosedBars ∧
      (accept clock state now o).currentBar = some bars.1 := by
  simp [accept]

theorem Grouped.accept (h : Grouped obs state) (ho : observe state sample now = .ok o) :
    Grouped (sinceReset state now o obs) (accept clock state now o) := by
  obtain ⟨before, hsince, hfor, hlater⟩ : ∃ before, sinceReset state now o obs = before ++ [o] ∧
      Grouped before (stateFor state now o) ∧ ∀ x ∈ before, x.sourceAt < o.sourceAt := by
    cases hreset : contractReset state now o with
    | some reset =>
      simp only [sinceReset, stateFor, hreset]
      exact ⟨[], rfl, grouped_initial _, by simp⟩
    | none =>
      simp only [sinceReset, stateFor, hreset]
      refine ⟨obs, rfl, h, fun x hx => ?_⟩
      cases hlast : obs.getLast? with
      | none => simp [getLast?_eq_none_iff.mp hlast] at hx
      | some last =>
        have hseen : last.sourceAt < o.sourceAt := by
          refine observe_later ho _ ?_
          rw [h.lastSourceAt, hlast]
          rfl
        obtain ⟨ys, rfl⟩ := getLast?_eq_some_iff.mp hlast
        rcases mem_append.mp hx with hx | hx
        · exact ((pairwise_append.mp h.increasing).2.2 x hx last
            mem_cons_self).trans hseen
        · rw [mem_singleton.mp hx]
          exact hseen
  rw [hsince]
  refine ⟨?_, ?_, ?_⟩
  · rw [pairwise_append]
    refine ⟨hfor.increasing, pairwise_singleton _ _, fun x hx y hy => ?_⟩
    rw [mem_singleton.mp hy]
    exact hlater x hx
  · rw [getLast?_concat]
    rfl
  · obtain ⟨hclosed, hcurrent⟩ := accept_bars clock state now o
    rw [hclosed, hcurrent]
    exact hfor.bars.advance (nondecreasing_of_increasing hfor.increasing) hlater _

/-- One call, with the observations accepted since the last contract reset kept beside the state. -/
def call (clock : SessionClock) (run : Option EsBarState × List EsObservation)
    (input : EsSample × Instant) : Option EsBarState × List EsObservation :=
  let obs :=
    match observe (run.1.getD {}) input.1 input.2 with
    | .error _ => run.2
    | .ok o => sinceReset (run.1.getD {}) input.2 o run.2
  (some (advanceEsBarState clock run.1 input.1 input.2), obs)

/-- The calls made from no state at all. -/
def calls (clock : SessionClock) (inputs : List (EsSample × Instant)) :
    Option EsBarState × List EsObservation :=
  inputs.foldl (call clock) (none, [])

theorem Grouped.call {run : Option EsBarState × List EsObservation} (input : EsSample × Instant)
    (h : Grouped run.2 (run.1.getD {})) :
    Grouped (call clock run input).2 ((call clock run input).1.getD {}) := by
  unfold MarketFeatures.call
  dsimp only
  cases ho : observe (run.1.getD {}) input.1 input.2 with
  | error rejection =>
    obtain ⟨diagnostics, hstate⟩ := advance_rejected clock ho
    rw [Option.getD_some, hstate]
    exact ⟨h.increasing, h.lastSourceAt, h.bars⟩
  | ok o =>
    have hstate : advanceEsBarState clock run.1 input.1 input.2 =
        MarketFeatures.accept clock (run.1.getD {}) input.2 o := by
      unfold advanceEsBarState
      dsimp only
      rw [ho]
    rw [Option.getD_some, hstate]
    exact h.accept ho

theorem grouped_calls (clock : SessionClock) (inputs : List (EsSample × Instant)) :
    Grouped (calls clock inputs).2 ((calls clock inputs).1.getD {}) := by
  have hstep : ∀ run : Option EsBarState × List EsObservation, Grouped run.2 (run.1.getD {}) →
      ∀ input ∈ inputs, Grouped (call clock run input).2 ((call clock run input).1.getD {}) :=
    fun run h input _ => h.call input
  have hfirst : Grouped ((none, []) : Option EsBarState × List EsObservation).2 {} :=
    grouped_initial {}
  exact List.foldlRecOn (motive := fun run => Grouped run.2 (run.1.getD {})) inputs (call clock)
    hfirst hstep

/-- **The bars are the grouping of the accepted samples.** After any calls, the observations
accepted since the last contract reset have increasing source times; the closed bars and the open
bar summarise the groups they make by bucket, the open bar the last group and the closed bars the
newest of the others, in order and without overlap, and an ok bar stands for a dense group of one
contract; and a rejected sample changes only the diagnostics. -/
theorem es_bars_grouping (clock : SessionClock) (inputs : List (EsSample × Instant)) :
    let state := (calls clock inputs).1.getD {}
    let obs := (calls clock inputs).2
    (obs.Pairwise fun a b => a.sourceAt < b.sourceAt) ∧
      BarsOf obs state.closedBars state.currentBar ∧
      ((state.closedBars ++ state.currentBar.toList).Pairwise fun a b =>
        a.barStart < b.barStart ∧ a.barEnd ≤ b.barStart) ∧
      ∀ sample now rejection, observe state sample now = .error rejection →
        ∃ diagnostics, advanceEsBarState clock (calls clock inputs).1 sample now =
          { state with diagnostics := diagnostics } := by
  have h := grouped_calls clock inputs
  refine ⟨h.increasing, h.bars, h.bars.ordered (nondecreasing_of_increasing h.increasing), ?_⟩
  intro sample now rejection hrejected
  exact advance_rejected clock hrejected

end SpxSpark.MarketFeatures
