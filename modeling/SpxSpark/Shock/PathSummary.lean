import Mathlib.Data.List.Sort
import SpxSpark.Lib.Clock

/-!
# PathSummary — the fall and the rally of one path window

One pass over the timed prices keeps the highest and the lowest price so far, and the largest fall
and rise that end at the current price.
-/

namespace SpxSpark.Shock

open List

/-- A sample as `_time` and `_finite_number` read it. -/
structure PathRow where
  observedAt : Option Instant
  price : Option ℚ

abbrev Point := Instant × ℚ

/-- `PATH_SAMPLE_SECONDS`. -/
def pathSampleSeconds : ℚ := 5

/-- The running extrema of the loop. -/
structure Extrema where
  peak : Point
  trough : Point
  drawdown : ℚ
  rallyBase : Point
  rallyPeak : Point
  rally : ℚ

def Extrema.start (point : Point) : Extrema := ⟨point, point, 0, point, point, 0⟩

/-- One round of the loop. -/
def Extrema.observe (e : Extrema) (point : Point) : Extrema :=
  let peak := if e.peak.2 < point.2 then point else e.peak
  let fell := peak.2 - point.2
  let rallyBase := if point.2 < e.rallyBase.2 then point else e.rallyBase
  let rose := point.2 - rallyBase.2
  { peak
    trough := if e.drawdown ≤ fell then point else e.trough
    drawdown := if e.drawdown ≤ fell then fell else e.drawdown
    rallyBase
    rallyPeak := if e.rally ≤ rose then point else e.rallyPeak
    rally := if e.rally ≤ rose then rose else e.rally }

/-- `_empirical_midrank`. -/
def empiricalMidrank (value : ℚ) (references : List ℚ) : ℚ :=
  100 * (references.countP (· < value) + 1 / 2 * references.countP (· = value)) / references.length

structure PathSummary where
  windowStartedAt : Instant
  windowEndedAt : Instant
  sampleCount : Nat
  maxSampleGapSeconds : ℚ
  start : ℚ
  finish : ℚ
  peak : Point
  trough : Point
  drawdownPoints : ℚ
  recoveryPoints : ℚ
  rallyPoints : ℚ
  rallyBase : Point
  rallyPeak : Point
  pullbackPoints : ℚ
  positionPercentile : ℚ

/-- The rows in the order of their times, those without a time at the end of the window, and of
them the ones with a time and a price. -/
def pathPoints (rows : List PathRow) (windowEnd : Instant) : List Point :=
  (rows.insertionSort fun a b =>
    a.observedAt.getD windowEnd ≤ b.observedAt.getD windowEnd).filterMap
    fun row => row.observedAt.bind fun observedAt => row.price.map (observedAt, ·)

def pathWindowSummary (rows : List PathRow) (windowStart windowEnd : Instant)
    (requireFullWindow : Bool) : Option PathSummary :=
  match pathPoints rows windowEnd with
  | first :: second :: rest =>
    let points := first :: second :: rest
    let last := points.getLast (cons_ne_nil _ _)
    if requireFullWindow ∧ (secondsBetween first.1 windowStart > pathSampleSeconds * 2 ∨
        secondsBetween windowEnd last.1 > pathSampleSeconds * 2) then none
    else
      let extrema := (second :: rest).foldl Extrema.observe (.start first)
      let gaps := (points.zip points.tail).map fun pair => secondsBetween pair.2.1 pair.1.1
      some
        { windowStartedAt := windowStart
          windowEndedAt := windowEnd
          sampleCount := points.length
          maxSampleGapSeconds := gaps.max?.getD 0
          start := first.2
          finish := last.2
          peak := extrema.peak
          trough := extrema.trough
          drawdownPoints := extrema.drawdown
          recoveryPoints := max 0 (last.2 - extrema.trough.2)
          rallyPoints := extrema.rally
          rallyBase := extrema.rallyBase
          rallyPeak := extrema.rallyPeak
          pullbackPoints := max 0 (extrema.rallyPeak.2 - last.2)
          positionPercentile := empiricalMidrank last.2 (points.map (·.2)) }
  | _ => none

/-! ## Falls and rises -/

/-- One point stands in the list, and the other at the same place or later. -/
def Before (points : List Point) (earlier later : Point) : Prop :=
  ∃ i j : Nat, i ≤ j ∧ points[i]? = some earlier ∧ points[j]? = some later

def fall (earlier later : Point) : ℚ := earlier.2 - later.2

def rise (earlier later : Point) : ℚ := later.2 - earlier.2

/-- The values a measure has between a point and a later one. -/
def measured (measure : Point → Point → ℚ) (points : List Point) : Set ℚ :=
  {value | ∃ earlier later, Before points earlier later ∧ measure earlier later = value}

/-- A largest rise begins at a lowest price. -/
def RallyFromLow (points : List Point) : Prop :=
  ∃ earlier later : Point, Before points earlier later ∧
    IsGreatest (measured rise points) (rise earlier later) ∧
      ∀ point ∈ points, earlier.2 ≤ point.2

section

variable {points : List Point} {point earlier later : Point} {measure : Point → Point → ℚ}
  {e : Extrema}

theorem Before.mem (h : Before points earlier later) : earlier ∈ points ∧ later ∈ points := by
  obtain ⟨i, j, -, hi, hj⟩ := h
  exact ⟨mem_of_getElem? hi, mem_of_getElem? hj⟩

theorem before_snoc : Before (points ++ [point]) earlier later ↔
    Before points earlier later ∨ later = point ∧ earlier ∈ points ++ [point] := by
  constructor
  · rintro ⟨i, j, hij, hi, hj⟩
    obtain ⟨hlt, -⟩ := List.getElem?_eq_some_iff.mp hj
    rw [List.length_append, List.length_singleton] at hlt
    rcases Nat.lt_or_ge j points.length with hold | hnew
    · rw [List.getElem?_append_left hold] at hj
      rw [List.getElem?_append_left (by omega)] at hi
      exact .inl ⟨i, j, hij, hi, hj⟩
    · obtain rfl : j = points.length := by omega
      rw [List.getElem?_concat_length, Option.some.injEq] at hj
      exact .inr ⟨hj.symm, mem_of_getElem? hi⟩
  · rintro (⟨i, j, hij, hi, hj⟩ | ⟨rfl, hmem⟩)
    · have hlt := (List.getElem?_eq_some_iff.mp hj).1
      refine ⟨i, j, hij, ?_, ?_⟩
      · rw [List.getElem?_append_left (by omega), hi]
      · rw [List.getElem?_append_left hlt, hj]
    · obtain ⟨i, hi⟩ := mem_iff_getElem?.mp hmem
      have hlt := (List.getElem?_eq_some_iff.mp hi).1
      rw [List.length_append, List.length_singleton] at hlt
      exact ⟨i, points.length, by omega, hi, List.getElem?_concat_length⟩

/-- **The largest value after one more point** is the largest before it or the largest that ends at
it. -/
theorem isGreatest_snoc {value ending : ℚ} (hold : IsGreatest (measured measure points) value)
    (hmem : ∃ p ∈ points ++ [point], measure p point = ending)
    (hle : ∀ p ∈ points ++ [point], measure p point ≤ ending) :
    IsGreatest (measured measure (points ++ [point]))
      (if value ≤ ending then ending else value) := by
  obtain ⟨⟨a, b, hab, hvalue⟩, hupper⟩ := hold
  obtain ⟨p, hp, hending⟩ := hmem
  constructor
  · split
    · exact ⟨p, point, before_snoc.mpr (.inr ⟨rfl, hp⟩), hending⟩
    · exact ⟨a, b, before_snoc.mpr (.inl hab), hvalue⟩
  · rintro other ⟨c, d, hcd, rfl⟩
    have hother : measure c d ≤ value ∨ measure c d ≤ ending := by
      rcases before_snoc.mp hcd with hcd | ⟨rfl, hc⟩
      · exact .inl (hupper ⟨c, d, hcd, rfl⟩)
      · exact .inr (hle c hc)
    split
    · rename_i hmore
      rcases hother with h | h
      · exact h.trans hmore
      · exact h
    · rename_i hless
      rcases hother with h | h
      · exact h
      · exact h.trans (le_of_not_ge hless)

/-! ## The pass -/

/-- What the running extrema say about the points seen. -/
structure Seen (points : List Point) (e : Extrema) : Prop where
  peak : e.peak ∈ points ∧ ∀ p ∈ points, p.2 ≤ e.peak.2
  base : e.rallyBase ∈ points ∧ ∀ p ∈ points, e.rallyBase.2 ≤ p.2
  fallen : IsGreatest (measured fall points) e.drawdown
  trough : ∃ start, Before points start e.trough ∧ fall start e.trough = e.drawdown
  risen : IsGreatest (measured rise points) e.rally
  rally : RallyFromLow points →
    Before points e.rallyBase e.rallyPeak ∧ e.rally = rise e.rallyBase e.rallyPeak

theorem Seen.start (point : Point) : Seen [point] (.start point) := by
  have hself : ∀ earlier later, Before [point] earlier later → earlier = point ∧ later = point := by
    intro earlier later h
    exact ⟨mem_singleton.mp h.mem.1, mem_singleton.mp h.mem.2⟩
  have hbefore : Before [point] point point := ⟨0, 0, le_refl 0, rfl, rfl⟩
  have hzero : ∀ measure : Point → Point → ℚ, measure point point = 0 →
      IsGreatest (measured measure [point]) 0 := by
    intro measure hmeasure
    refine ⟨⟨point, point, hbefore, hmeasure⟩, ?_⟩
    rintro value ⟨earlier, later, h, rfl⟩
    obtain ⟨rfl, rfl⟩ := hself earlier later h
    exact hmeasure.le
  have hown : ∀ p ∈ [point], p = point := fun p hp => mem_singleton.mp hp
  exact
    { peak := ⟨mem_singleton_self point, fun p hp => (hown p hp ▸ le_refl _)⟩
      base := ⟨mem_singleton_self point, fun p hp => (hown p hp ▸ le_refl _)⟩
      fallen := hzero fall (sub_self _)
      trough := ⟨point, hbefore, sub_self _⟩
      risen := hzero rise (sub_self _)
      rally := fun _ => ⟨hbefore, (sub_self _).symm⟩ }

/-- **One round keeps it.** -/
theorem Seen.observe (h : Seen points e) (point : Point) :
    Seen (points ++ [point]) (e.observe point) := by
  obtain ⟨hpeak, hhigh⟩ := h.peak
  obtain ⟨hbase, hlow⟩ := h.base
  have hpeak' : (e.observe point).peak ∈ points ++ [point] ∧
      ∀ p ∈ points ++ [point], p.2 ≤ (e.observe point).peak.2 := by
    unfold Extrema.observe
    dsimp only
    split
    · rename_i hmore
      refine ⟨by simp, forall_mem_append.mpr ⟨fun p hp => ?_, by simp⟩⟩
      exact (hhigh p hp).trans hmore.le
    · rename_i hless
      refine ⟨mem_append_left _ hpeak, forall_mem_append.mpr ⟨hhigh, ?_⟩⟩
      exact forall_mem_singleton.mpr (not_lt.mp hless)
  have hbase' : (e.observe point).rallyBase ∈ points ++ [point] ∧
      ∀ p ∈ points ++ [point], (e.observe point).rallyBase.2 ≤ p.2 := by
    unfold Extrema.observe
    dsimp only
    split
    · rename_i hless
      refine ⟨by simp, forall_mem_append.mpr ⟨fun p hp => ?_, by simp⟩⟩
      exact hless.le.trans (hlow p hp)
    · rename_i hmore
      refine ⟨mem_append_left _ hbase, forall_mem_append.mpr ⟨hlow, ?_⟩⟩
      exact forall_mem_singleton.mpr (not_lt.mp hmore)
  have hfallen : IsGreatest (measured fall (points ++ [point])) (e.observe point).drawdown :=
    isGreatest_snoc h.fallen ⟨_, hpeak'.1, rfl⟩ fun p hp => sub_le_sub_right (hpeak'.2 p hp) _
  have hrisen : IsGreatest (measured rise (points ++ [point])) (e.observe point).rally :=
    isGreatest_snoc h.risen ⟨_, hbase'.1, rfl⟩ fun p hp => sub_le_sub_left (hbase'.2 p hp) _
  refine ⟨hpeak', hbase', hfallen, ?_, hrisen, ?_⟩
  · by_cases hfell : e.drawdown ≤ (e.observe point).peak.2 - point.2
    · have htrough : (e.observe point).trough = point := if_pos hfell
      have hdrawdown : (e.observe point).drawdown = (e.observe point).peak.2 - point.2 :=
        if_pos hfell
      rw [htrough, hdrawdown]
      exact ⟨_, before_snoc.mpr (.inr ⟨rfl, hpeak'.1⟩), rfl⟩
    · have htrough : (e.observe point).trough = e.trough := if_neg hfell
      have hdrawdown : (e.observe point).drawdown = e.drawdown := if_neg hfell
      obtain ⟨start, hbefore, hfall⟩ := h.trough
      rw [htrough, hdrawdown]
      exact ⟨start, before_snoc.mpr (.inl hbefore), hfall⟩
  · rintro ⟨earlier, later, hbefore, hgreatest, hlowest⟩
    have hrally := hgreatest.unique hrisen
    by_cases hrose : e.rally ≤ point.2 - (e.observe point).rallyBase.2
    · -- The largest rise ends here, at the running base.
      have hend : (e.observe point).rallyPeak = point := if_pos hrose
      have hvalue : (e.observe point).rally = point.2 - (e.observe point).rallyBase.2 :=
        if_pos hrose
      rw [hend, hvalue]
      exact ⟨before_snoc.mpr (.inr ⟨rfl, hbase'.1⟩), rfl⟩
    · have hend : (e.observe point).rallyPeak = e.rallyPeak := if_neg hrose
      have hvalue : (e.observe point).rally = e.rally := if_neg hrose
      rw [hvalue] at hrally hrisen
      have hbelow := hbase'.2 point (by simp)
      -- It ended before: the later point is an old one, or its rise would be no larger than this.
      have hold : Before points earlier later := by
        rcases before_snoc.mp hbefore with hold | ⟨rfl, hmem⟩
        · exact hold
        · have hsame : earlier.2 = (e.observe later).rallyBase.2 :=
            le_antisymm (hlowest _ hbase'.1) (hbase'.2 _ hmem)
          unfold rise at hrally
          rw [hsame] at hrally
          exact absurd hrally.ge hrose
      have hkept : (e.observe point).rallyBase = e.rallyBase := by
        refine if_neg fun hless => ?_
        have hmem := hold.mem.1
        have hlow' := (hlowest point (by simp)).trans_lt hless
        exact absurd (hlow earlier hmem) (not_le.mpr hlow')
      obtain ⟨hbase, hpoints⟩ := h.rally ⟨earlier, later, hold, hrally ▸ h.risen,
        fun p hp => hlowest p (mem_append_left _ hp)⟩
      rw [hend, hkept, hvalue]
      exact ⟨before_snoc.mpr (.inl hbase), hpoints⟩

theorem Seen.foldl (rest : List Point) (h : Seen points e) :
    Seen (points ++ rest) (rest.foldl Extrema.observe e) := by
  induction rest generalizing points e with
  | nil =>
    rw [append_nil]
    exact h
  | cons point rest ih =>
    have hrest := ih (h.observe point)
    rw [append_assoc] at hrest
    exact hrest

/-- What the summary says of the largest fall and the largest rise is true of the points. -/
structure PathSummary.Real (s : PathSummary) (points : List Point) : Prop where
  fallen : IsGreatest (measured fall points) s.drawdownPoints
  trough : ∃ start, Before points start s.trough ∧ fall start s.trough = s.drawdownPoints
  risen : IsGreatest (measured rise points) s.rallyPoints
  rally : Before points s.rallyBase s.rallyPeak ∧ s.rallyPoints = rise s.rallyBase s.rallyPeak

/-- **The summary is real exactly when a largest rise begins at a lowest price.** -/
theorem path_summary_real {rows : List PathRow} {windowStart windowEnd : Instant} {full : Bool}
    {s : PathSummary} (h : pathWindowSummary rows windowStart windowEnd full = some s) :
    s.Real (pathPoints rows windowEnd) ↔ RallyFromLow (pathPoints rows windowEnd) := by
  unfold pathWindowSummary at h
  split at h
  · rename_i first second rest hpoints
    dsimp only at h
    split at h
    · cases h
    · rw [hpoints]
      have hseen := (Seen.start first).foldl (second :: rest)
      cases h
      constructor
      · intro hreal
        obtain ⟨hbefore, hrally⟩ := hreal.rally
        exact ⟨_, _, hbefore, hrally ▸ hreal.risen, hseen.base.2⟩
      · intro hlow
        exact ⟨hseen.fallen, hseen.trough, hseen.risen, hseen.rally hlow⟩
  · cases h

end

/-- Prices five seconds apart, from the first instant on. -/
def priced (prices : List ℚ) : List PathRow :=
  prices.mapIdx fun i price => ⟨some (5000000 * i), some price⟩

theorem path_summary_real_climb : ∃ s, pathWindowSummary (priced [10, 12]) 0 5000000 true = some s ∧
      s.Real (pathPoints (priced [10, 12]) 5000000) := by
  have hsome : (pathWindowSummary (priced [10, 12]) 0 5000000 true).isSome := by decide +kernel
  obtain ⟨s, hs⟩ := Option.isSome_iff_exists.mp hsome
  have hseen := (Seen.start (0, 10)).foldl [(5000000, 12)]
  have hrise : ([(5000000, 12)].foldl Extrema.observe (.start (0, 10))).rally =
      rise (0, 10) (5000000, 12) := by decide +kernel
  refine ⟨s, hs, (path_summary_real hs).mpr ⟨(0, 10), (5000000, 12), ?_, ?_, hseen.base.2⟩⟩
  · exact ⟨0, 1, by decide, rfl, rfl⟩
  · exact hrise ▸ hseen.risen

/-- After a climb from 10 to 15 and a fall to 5 the rally is still 5, and its base is the 5. -/
theorem path_summary_base_after_peak : ¬ ∀ rows windowStart windowEnd full s,
      pathWindowSummary rows windowStart windowEnd full = some s →
        s.Real (pathPoints rows windowEnd) := by
  intro hall
  have hrally : (pathWindowSummary (priced [10, 15, 5]) 0 10000000 true).map
      (fun s => (s.rallyPoints, s.rallyBase, s.rallyPeak)) =
        some (5, (10000000, 5), (5000000, 15)) := by decide +kernel
  obtain ⟨s, hs, hfigures⟩ := Option.map_eq_some_iff.mp hrally
  obtain ⟨hpoints, hends⟩ := Prod.mk.injEq .. ▸ hfigures
  obtain ⟨hbase, hpeak⟩ := Prod.mk.injEq .. ▸ hends
  have hreal := (hall _ _ _ _ s hs).rally.2
  rw [hpoints, hbase, hpeak] at hreal
  exact absurd hreal (by decide +kernel)

end SpxSpark.Shock
