import Mathlib.Data.List.GetD
import SpxSpark.Options.PolicyBatch

/-!
# BatchReplay — the batch replay gives every path the label of its own replay

The array program and the loop are compared at one position of one path. There the columns the array
program chooses from hold exactly when the loop leaves at that mark, with the same precedence, and
its running extremes are the loop's variables.
-/

namespace SpxSpark.Options

open Arrays List

variable (a : PolicyArguments) (hardExit : Instant)

def timetableOf (rows : List PolicyMark) : Timetable where
  arguments := a
  hardExit := hardExit
  times := rows.map (·.at')

def valuesOf (rows : List PolicyMark) : List ℚ := rows.map (·.liquidationValue)

/-! ## The columns the exit is chosen from -/

def sessionColumns (rows : List PolicyMark) : List (List Bool × ExitReason) :=
  [((timetableOf a hardExit rows).gapCumulative.map a.gapTooLong, .quoteGap),
    (rows.map fun mark => decide (hardExit ≤ mark.at'), .hardClose)]

def sideColumns (rows : List PolicyMark) : List (List Bool × ExitReason) :=
  match a.policy.entrySide with
  | .credit =>
    [(rows.map fun mark => a.takesProfit mark.liquidationValue, .profitTake),
      (rows.map fun mark => a.stopsLoss mark.liquidationValue, .stopLoss)]
  | .debit =>
    [(rows.map fun mark => a.stopsOnTime mark.at', .timeStop),
      (rows.map fun mark => a.stopsOnPremium mark.liquidationValue, .premiumStop),
      ((timetableOf a hardExit rows).trailMask (valuesOf rows), .trail)]

/-- The rules in their order of precedence, each with the marks it holds at. -/
def exitColumns (rows : List PolicyMark) : List (List Bool × ExitReason) :=
  sessionColumns a hardExit rows ++ sideColumns a hardExit rows

variable {a hardExit} {rows pre post : List PolicyMark} {mark : PolicyMark}

theorem length_offsets : (timetableOf a hardExit rows).offsets.length = rows.length := by
  simp [Timetable.offsets, timetableOf]

theorem length_gapCumulative :
    (timetableOf a hardExit rows).gapCumulative.length = rows.length := by
  simp [Timetable.gapCumulative, length_offsets]

theorem length_peaks :
    ((timetableOf a hardExit rows).peaks (valuesOf rows)).length = rows.length := by
  simp [Timetable.peaks, valuesOf]

theorem length_trailMask :
    ((timetableOf a hardExit rows).trailMask (valuesOf rows)).length = rows.length := by
  rw [Timetable.trailMask, length_zipWith, Timetable.trails, length_map, length_peaks,
    length_zipIdx, valuesOf, length_map, min_self]

theorem length_exitColumns : ∀ column ∈ exitColumns a hardExit rows,
    column.1.length = rows.length := by
  intro column hmem
  rcases mem_append.mp hmem with h | h
  · simp only [sessionColumns, mem_cons, not_mem_nil, or_false] at h
    rcases h with rfl | rfl <;> simp [length_gapCumulative]
  · unfold sideColumns at h
    cases hside : a.policy.entrySide with
    | credit =>
      simp only [hside, mem_cons, not_mem_nil, or_false] at h
      rcases h with rfl | rfl <;> simp
    | debit =>
      simp only [hside, mem_cons, not_mem_nil, or_false] at h
      rcases h with rfl | rfl | rfl <;> simp [length_trailMask]

theorem searchsorted_offsets (at' : Instant) :
    searchsortedLeft (timetableOf a hardExit rows).offsets (secondsBetween at' a.entryAt) =
      firstHit (rows.map fun mark => decide (at' ≤ mark.at')) := by
  have hsame : ∀ mark : PolicyMark,
      decide (secondsBetween at' a.entryAt ≤ secondsBetween mark.at' a.entryAt) =
        decide (at' ≤ mark.at') := fun _ => by simp only [secondsBetween_le_iff]
  simp [searchsortedLeft, firstHit, Timetable.offsets, timetableOf, Function.comp_def, hsame]

theorem markCount_eq : (timetableOf a hardExit rows).markCount = rows.length := by
  simp [Timetable.markCount, timetableOf]

theorem gapIndex_eq : (timetableOf a hardExit rows).gapIndex =
    firstHit ((timetableOf a hardExit rows).gapCumulative.map a.gapTooLong) := by
  unfold Timetable.gapIndex
  have harguments : (timetableOf a hardExit rows).arguments.maxQuoteGapSeconds =
      a.maxQuoteGapSeconds := rfl
  rw [harguments]
  have hlen : (timetableOf a hardExit rows).markCount =
      (timetableOf a hardExit rows).gapCumulative.length := by
    rw [length_gapCumulative, markCount_eq]
  cases h : a.maxQuoteGapSeconds with
  | none =>
    have hoff : ∀ gap, a.gapTooLong gap = false := by simp [PolicyArguments.gapTooLong, h]
    have hall : firstHit ((timetableOf a hardExit rows).gapCumulative.map a.gapTooLong) =
        ((timetableOf a hardExit rows).gapCumulative.map a.gapTooLong).length :=
      findIdx_eq_length.mpr (by simp [hoff])
    rw [hall, length_map]
    exact hlen
  | some longest =>
    have hon : a.gapTooLong = fun gap => decide (longest < gap) := by
      funext gap
      simp [PolicyArguments.gapTooLong, h]
    rw [hon]

theorem sessionExit_eq : (timetableOf a hardExit rows).sessionExit =
    firstExit (rows.length, .marksExhausted) (sessionColumns a hardExit rows) := by
  have hgap : (timetableOf a hardExit rows).gapIndex ≤ rows.length := by
    rw [gapIndex_eq]
    exact (firstHit_le _).trans (by rw [length_map, length_gapCumulative])
  have hhard : (timetableOf a hardExit rows).hardIndex =
      firstHit (rows.map fun mark => decide (hardExit ≤ mark.at')) := searchsorted_offsets hardExit
  have hhardLe : (timetableOf a hardExit rows).hardIndex ≤ rows.length := by
    rw [hhard]
    exact (firstHit_le _).trans (by rw [length_map])
  have hpair : firstExit (rows.length, .marksExhausted) (sessionColumns a hardExit rows) =
      takeFirst (takeFirst (rows.length, .marksExhausted) (timetableOf a hardExit rows).gapIndex
        .quoteGap) (timetableOf a hardExit rows).hardIndex .hardClose := by
    rw [gapIndex_eq, hhard]
    rfl
  rw [hpair, takeFirst_pair hgap hhardLe, Timetable.sessionExit, markCount_eq]

theorem valuesOf_map (p : ℚ → Bool) :
    (valuesOf rows).map p = rows.map fun mark => p mark.liquidationValue := by
  simp [valuesOf, Function.comp_def]

theorem creditExit_eq {taken : ℕ × ExitReason} (h : taken.1 ≤ rows.length) :
    (timetableOf a hardExit rows).creditExit (valuesOf rows) taken =
      firstExit taken
        [(rows.map fun mark => a.takesProfit mark.liquidationValue, .profitTake),
          (rows.map fun mark => a.stopsLoss mark.liquidationValue, .stopLoss)] := by
  have hlen : taken.1 ≤ (valuesOf rows).length := by simpa [valuesOf] using h
  have hprofit := takeWhen_mask hlen a.takeProfitLevel
    (fun level value => decide (-value ≤ level)) ExitReason.profitTake
  have hloss := fun profit => takeWhen_mask (takeFirst_le hlen profit ExitReason.profitTake)
    a.stopLossLevel (fun level value => decide (level ≤ -value)) ExitReason.stopLoss
  rw [valuesOf_map] at hprofit
  rw [Timetable.creditExit]
  exact (congrArg (takeWhen · _ _ _) hprofit).trans ((hloss _).trans (by rw [valuesOf_map]; rfl))

theorem firstHit_trailMask_none (h : a.armLevel = none) :
    firstHit ((timetableOf a hardExit rows).trailMask (valuesOf rows)) = rows.length := by
  have harm : (timetableOf a hardExit rows).armIndex (valuesOf rows) = rows.length := by
    unfold Timetable.armIndex
    have harguments : (timetableOf a hardExit rows).arguments.armLevel = none := h
    rw [harguments]
    exact markCount_eq
  have hoff : ∀ hit ∈ (timetableOf a hardExit rows).trailMask (valuesOf rows), hit = false := by
    intro hit hmem
    obtain ⟨i, hi, rfl⟩ := getElem_of_mem hmem
    have hlt : i < rows.length := lt_of_lt_of_eq hi length_trailMask
    have hnot : ¬ rows.length < i := by omega
    simp [Timetable.trailMask, harm, hnot]
  have hall : firstHit ((timetableOf a hardExit rows).trailMask (valuesOf rows)) =
      ((timetableOf a hardExit rows).trailMask (valuesOf rows)).length :=
    findIdx_eq_length.mpr (by simpa using hoff)
  rw [hall, length_trailMask]

theorem debitExit_eq {taken : ℕ × ExitReason} (h : taken.1 ≤ rows.length)
    (hfraction : 0 < a.policy.trailAfterArmFraction) :
    (timetableOf a hardExit rows).debitExit (valuesOf rows) taken =
      firstExit taken
        [(rows.map fun mark => a.stopsOnTime mark.at', .timeStop),
          (rows.map fun mark => a.stopsOnPremium mark.liquidationValue, .premiumStop),
          ((timetableOf a hardExit rows).trailMask (valuesOf rows), .trail)] := by
  have hlen : taken.1 ≤ (valuesOf rows).length := by simpa [valuesOf] using h
  have htime : takeWhen taken a.timeStopAt (fun at' =>
      searchsortedLeft (timetableOf a hardExit rows).offsets (secondsBetween at' a.entryAt))
        ExitReason.timeStop =
      takeFirst taken (firstHit (rows.map fun mark => a.stopsOnTime mark.at')) .timeStop := by
    simp only [searchsorted_offsets]
    exact takeWhen_mask h a.timeStopAt (fun at' mark => decide (at' ≤ mark.at')) _
  have hpremium := fun time => takeWhen_mask (takeFirst_le hlen time ExitReason.timeStop)
    a.stopLevel (fun level value =>
      decide (value ≤ level + policyPriceEpsilon)) ExitReason.premiumStop
  have htrail : ∀ taken : ℕ × ExitReason, taken.1 ≤ rows.length →
      takeWhen taken a.armLevel
        (fun _ => firstHit ((timetableOf a hardExit rows).trailMask (valuesOf rows))) .trail =
      takeFirst taken (firstHit
        ((timetableOf a hardExit rows).trailMask (valuesOf rows))) .trail := by
    intro taken hle
    cases harm : a.armLevel with
    | some level => rfl
    | none =>
      rw [firstHit_trailMask_none harm, takeFirst_of_le hle]
      rfl
  refine Eq.trans (if_pos hfraction) ?_
  dsimp only [timetableOf] at htime htrail ⊢
  rw [htime, hpremium, htrail]
  · rw [valuesOf_map]
    rfl
  · exact takeFirst_le (takeFirst_le h _ _) _ _

theorem pathExit_eq (hfraction : 0 < a.policy.trailAfterArmFraction) :
    (timetableOf a hardExit rows).pathExit (valuesOf rows) =
      firstExit (rows.length, .marksExhausted) (exitColumns a hardExit rows) := by
  have happend : firstExit (rows.length, .marksExhausted) (exitColumns a hardExit rows) =
      firstExit (timetableOf a hardExit rows).sessionExit (sideColumns a hardExit rows) := by
    rw [sessionExit_eq, exitColumns, firstExit, foldl_append]
    rfl
  have hle : (timetableOf a hardExit rows).sessionExit.1 ≤ rows.length := by
    rw [sessionExit_eq]
    exact takeFirst_le (takeFirst_le le_rfl _ _) _ _
  rw [happend, Timetable.pathExit, sideColumns]
  change (match a.policy.entrySide with | .credit => _ | .debit => _) = _
  cases a.policy.entrySide with
  | credit => exact creditExit_eq hle
  | debit => exact debitExit_eq hle hfraction

/-! ## The loop's variables after some marks -/

variable (a) in
/-- The loop's variables with one more mark seen. -/
def seeMark (s : ReplayState) (mark : PolicyMark) : ReplayState :=
  { s with
    gapMax := max s.gapMax (secondsBetween mark.at' s.previousAt)
    previousAt := mark.at'
    mfe := max s.mfe (a.entryCashflow + mark.liquidationValue)
    mae := min s.mae (a.entryCashflow + mark.liquidationValue) }

variable (a) in
/-- What a mark that ends nothing does to the arming of a debit. -/
def armMark (s : ReplayState) (mark : PolicyMark) : ReplayState :=
  if s.armed then { s with peak := max s.peak mark.liquidationValue }
  else if a.arms mark.liquidationValue then
    { s with
      armed := true
      timeToArm := some (secondsBetween mark.at' a.entryAt)
      peak := mark.liquidationValue }
  else s

variable (a) in
/-- What a mark that ends nothing leaves in the loop's variables. -/
def passMark (s : ReplayState) (mark : PolicyMark) : ReplayState :=
  match a.policy.entrySide with
  | .credit => seeMark a s mark
  | .debit => armMark a (seeMark a s mark) mark

variable (a) in
/-- The loop's variables once some marks have passed. -/
def stateAfter (pre : List PolicyMark) : ReplayState := pre.foldl (passMark a) (.start a)

theorem stateAfter_concat : stateAfter a (pre ++ [mark]) = passMark a (stateAfter a pre) mark := by
  rw [stateAfter, foldl_append]
  rfl

variable {s : ReplayState}

theorem creditStep_none (h : (creditStep a s mark).2 = none) : (creditStep a s mark).1 = s := by
  unfold creditStep at *
  split_ifs at h ⊢
  rfl

theorem debitStep_none (h : (debitStep a s mark).2 = none) :
    (debitStep a s mark).1 = armMark a s mark := by
  unfold debitStep armMark at *
  cases harmed : s.armed with
  | false =>
    simp only [harmed, Bool.not_false, Bool.true_and, Bool.false_eq_true, if_false] at h ⊢
    split_ifs at h ⊢ <;> rfl
  | true =>
    simp only [harmed, Bool.not_true, Bool.false_and, Bool.false_eq_true, if_false, if_true] at h ⊢
    split_ifs at h ⊢
    rfl

theorem markStep_side
    (hgap : a.gapTooLong (max s.gapMax (secondsBetween mark.at' s.previousAt)) = false)
    (hhard : ¬ hardExit ≤ mark.at') :
    markStep a hardExit s mark =
      match a.policy.entrySide with
      | .credit => creditStep a (seeMark a s mark) mark
      | .debit => debitStep a (seeMark a s mark) mark := by
  unfold markStep
  dsimp only
  rw [if_neg (by simp [hgap]), if_neg hhard]
  rfl

theorem markStep_gap
    (hgap : a.gapTooLong (max s.gapMax (secondsBetween mark.at' s.previousAt)) = true) :
    markStep a hardExit s mark =
      ({ s with gapMax := max s.gapMax (secondsBetween mark.at' s.previousAt) },
        some .quoteGap) := by
  unfold markStep
  dsimp only
  rw [if_pos hgap]

theorem markStep_hard
    (hgap : a.gapTooLong (max s.gapMax (secondsBetween mark.at' s.previousAt)) = false)
    (hhard : hardExit ≤ mark.at') :
    markStep a hardExit s mark = (seeMark a s mark, some .hardClose) := by
  unfold markStep
  dsimp only
  rw [if_neg (by simp [hgap]), if_pos hhard]
  rfl

theorem markStep_none (h : (markStep a hardExit s mark).2 = none) :
    (markStep a hardExit s mark).1 = passMark a s mark := by
  cases hgap : a.gapTooLong (max s.gapMax (secondsBetween mark.at' s.previousAt)) with
  | true =>
    rw [markStep_gap hgap] at h
    cases h
  | false =>
    by_cases hhard : hardExit ≤ mark.at'
    · rw [markStep_hard hgap hhard] at h
      cases h
    · rw [markStep_side hgap hhard] at h ⊢
      unfold passMark
      cases hside : a.policy.entrySide with
      | credit =>
        rw [hside] at h
        exact creditStep_none h
      | debit =>
        rw [hside] at h
        exact debitStep_none h

variable (a hardExit) in
/-- The loop leaves at none of these marks, having passed `past` before them. -/
def Passes (past rows : List PolicyMark) : Prop :=
  ∀ pre mark post, rows = pre ++ mark :: post →
    (markStep a hardExit (stateAfter a (past ++ pre)) mark).2 = none

theorem passes_cons {past : List PolicyMark} {first : PolicyMark} {rest : List PolicyMark}
    (hfirst : (markStep a hardExit (stateAfter a past) first).2 = none)
    (hrest : Passes a hardExit (past ++ [first]) rest) :
    Passes a hardExit past (first :: rest) := by
  intro pre mark post hsplit
  cases pre with
  | nil =>
    obtain ⟨rfl, -⟩ := List.cons.inj hsplit
    rwa [append_nil]
  | cons b pre =>
    obtain ⟨rfl, htail⟩ := List.cons.inj hsplit
    have hnext := hrest pre mark post htail
    rwa [append_assoc] at hnext

variable (a hardExit) in
theorem replay_split (rest past : List PolicyMark) : (Passes a hardExit past rest ∧
      replay a hardExit rest (stateAfter a past) = (stateAfter a (past ++ rest), none)) ∨
    ∃ pre mark post reason, rest = pre ++ mark :: post ∧ Passes a hardExit past pre ∧
      (markStep a hardExit (stateAfter a (past ++ pre)) mark).2 = some reason ∧
      replay a hardExit rest (stateAfter a past) =
        ((markStep a hardExit (stateAfter a (past ++ pre)) mark).1, some (mark, reason)) := by
  induction rest generalizing past with
  | nil =>
    left
    refine ⟨fun pre mark post h => by simp at h, ?_⟩
    rw [append_nil]
    rfl
  | cons first rest ih =>
    cases hfirst : markStep a hardExit (stateAfter a past) first with
    | mk s exit =>
      have hsecond : (markStep a hardExit (stateAfter a past) first).2 = exit := by rw [hfirst]
      cases exit with
      | some reason =>
        right
        refine ⟨[], first, rest, reason, rfl, fun pre mark post h => by simp at h, ?_, ?_⟩
        · rw [append_nil, hfirst]
        · rw [append_nil, replay, hfirst]
      | none =>
        have hpassed : s = stateAfter a (past ++ [first]) := by
          have hstep := markStep_none hsecond
          rw [hfirst] at hstep
          rw [stateAfter_concat]
          exact hstep
        have hreplay : replay a hardExit (first :: rest) (stateAfter a past) =
            replay a hardExit rest (stateAfter a (past ++ [first])) := by
          rw [replay, hfirst, ← hpassed]
        rw [hreplay]
        rcases ih (past ++ [first]) with ⟨hnone, hend⟩
          | ⟨pre, m, post, r, hsplit, hpre, hexit, hend⟩
        · left
          refine ⟨passes_cons hsecond hnone, ?_⟩
          rw [hend, append_assoc]
          rfl
        · right
          rw [append_assoc] at hexit hend
          exact ⟨first :: pre, m, post, r, by rw [hsplit]; rfl, passes_cons hsecond hpre,
            hexit, hend⟩

/-! ## The variables in closed form -/

variable (a) in
def offsetsOf (rows : List PolicyMark) : List ℚ :=
  rows.map fun mark => secondsBetween mark.at' a.entryAt

variable (a) in
/-- The profit and loss of every mark. -/
def pnlOf (rows : List PolicyMark) : List ℚ :=
  rows.map fun mark => a.entryCashflow + mark.liquidationValue

/-- The observed marks in the loop's variables. -/
structure Observed (a : PolicyArguments) (pre : List PolicyMark) (s : ReplayState) : Prop where
  previousAt : s.previousAt = (pre.getLast?.map (·.at')).getD a.entryAt
  gapMax : s.gapMax = (differences 0 (offsetsOf a pre)).foldl max 0
  mfe : s.mfe = (pnlOf a pre).foldl max 0
  mae : s.mae = (pnlOf a pre).foldl min 0

theorem gap_eq (h : Observed a pre s) : secondsBetween mark.at' s.previousAt =
      secondsBetween mark.at' a.entryAt - (offsetsOf a pre).getLast?.getD 0 := by
  rw [h.previousAt, offsetsOf, getLast?_map]
  cases pre.getLast? with
  | none => simp
  | some last =>
    simp only [Option.map_some, Option.getD_some, secondsBetween]
    push_cast
    ring

theorem gapMax_next (h : Observed a pre s) : max s.gapMax (secondsBetween mark.at' s.previousAt) =
      (differences 0 (offsetsOf a (pre ++ [mark]))).foldl max 0 := by
  have happend : offsetsOf a (pre ++ [mark]) =
      offsetsOf a pre ++ secondsBetween mark.at' a.entryAt :: [] := by simp [offsetsOf]
  rw [happend, differences_append, foldl_append, ← h.gapMax, gap_eq h]
  rfl

theorem Observed.see (h : Observed a pre s) : Observed a (pre ++ [mark]) (seeMark a s mark) where
  previousAt := by
    rw [getLast?_concat]
    rfl
  gapMax := gapMax_next h
  mfe := by
    rw [pnlOf, map_append, foldl_append]
    exact congrArg (max · _) h.mfe
  mae := by
    rw [pnlOf, map_append, foldl_append]
    exact congrArg (min · _) h.mae

theorem Observed.arm (h : Observed a pre s) : Observed a pre (armMark a s mark) := by
  unfold armMark
  split_ifs <;> exact ⟨h.previousAt, h.gapMax, h.mfe, h.mae⟩

theorem observed_stateAfter (pre : List PolicyMark) : Observed a pre (stateAfter a pre) := by
  induction pre using List.reverseRecOn with
  | nil => exact ⟨rfl, rfl, rfl, rfl⟩
  | append_singleton pre mark ih =>
    rw [stateAfter_concat, passMark]
    cases a.policy.entrySide with
    | credit => exact ih.see
    | debit => exact ih.see.arm

theorem armed_credit (hside : a.policy.entrySide = .credit) (pre : List PolicyMark) :
    (stateAfter a pre).armed = false ∧ (stateAfter a pre).timeToArm = none := by
  induction pre using List.reverseRecOn with
  | nil => exact ⟨rfl, rfl⟩
  | append_singleton pre mark ih =>
    rw [stateAfter_concat, passMark, hside]
    exact ih

variable (a) in
def armsAt (mark : PolicyMark) : Bool := a.arms mark.liquidationValue

theorem armed_debit (hside : a.policy.entrySide = .debit) (pre : List PolicyMark) :
    (stateAfter a pre).armed = pre.any (armsAt a) ∧
      (stateAfter a pre).timeToArm =
        (pre.find? (armsAt a)).map fun mark => secondsBetween mark.at' a.entryAt := by
  induction pre using List.reverseRecOn with
  | nil => exact ⟨rfl, rfl⟩
  | append_singleton pre mark ih =>
    obtain ⟨harmed, htime⟩ := ih
    rw [stateAfter_concat, passMark, hside, any_append, find?_append]
    have hseen : (seeMark a (stateAfter a pre) mark).armed = pre.any (armsAt a) := harmed
    dsimp only
    unfold armMark
    rw [hseen]
    cases hany : pre.any (armsAt a) with
    | true =>
      obtain ⟨m, hm, hp⟩ := any_eq_true.mp hany
      have hsome : (pre.find? (armsAt a)).isSome := by
        rw [find?_isSome]
        exact ⟨m, hm, hp⟩
      obtain ⟨first, hfirst⟩ := Option.isSome_iff_exists.mp hsome
      rw [hfirst] at htime ⊢
      rw [if_pos rfl]
      exact ⟨rfl, htime⟩
    | false =>
      have hnone : pre.find? (armsAt a) = none := by
        rw [find?_eq_none]
        exact fun m hm hp => by simp [any_eq_false.mp hany m hm] at hp
      rw [hnone]
      by_cases harms : a.arms mark.liquidationValue = true
      · simp [harms, armsAt]
      · have hnot : a.arms mark.liquidationValue = false := by simpa using harms
        rw [hnone] at htime
        simp [armsAt, hnot, seeMark, harmed, hany, htime]

/-! ## The peak -/

theorem armIndex_eq : (timetableOf a hardExit rows).armIndex (valuesOf rows) =
    firstHit (rows.map (armsAt a)) := by
  unfold Timetable.armIndex
  have harguments : (timetableOf a hardExit rows).arguments.armLevel = a.armLevel := rfl
  rw [harguments]
  cases harm : a.armLevel with
  | some level =>
    have harms : armsAt a = fun mark =>
        decide (level - policyPriceEpsilon ≤ mark.liquidationValue) := by
      funext mark
      simp [armsAt, PolicyArguments.arms, harm]
    have hmap : (valuesOf rows).map (fun value => decide (level - policyPriceEpsilon ≤ value)) =
        rows.map (armsAt a) := by rw [valuesOf_map, harms]
    exact congrArg firstHit hmap
  | none =>
    have harms : ∀ mark, armsAt a mark = false := by simp [armsAt, PolicyArguments.arms, harm]
    have hall : firstHit (rows.map (armsAt a)) = (rows.map (armsAt a)).length :=
      findIdx_eq_length.mpr (by simp [harms])
    rw [hall, length_map]
    exact markCount_eq

theorem armIndex_lt_iff (pre post : List PolicyMark) :
    (timetableOf a hardExit (pre ++ post)).armIndex (valuesOf (pre ++ post)) < pre.length ↔
      pre.any (armsAt a) = true := by
  rw [armIndex_eq]
  exact firstHit_lt_length_iff _

variable (a hardExit) in
/-- The values from the arming on, and `-inf` before. -/
def maskedOf (rows : List PolicyMark) : List (WithBot ℚ) :=
  (valuesOf rows).zipIdx.map fun (value, i) =>
    if (timetableOf a hardExit rows).armIndex (valuesOf rows) ≤ i then value else ⊥

theorem maskedOf_getElem? (pre : List PolicyMark) (mark : PolicyMark) (post : List PolicyMark) :
    (maskedOf a hardExit (pre ++ mark :: post))[pre.length]? =
    some (if (pre ++ [mark]).any (armsAt a) then (mark.liquidationValue : WithBot ℚ) else ⊥) := by
  have hsplit : pre ++ mark :: post = (pre ++ [mark]) ++ post := by simp
  have hlt : (timetableOf a hardExit (pre ++ mark :: post)).armIndex
      (valuesOf (pre ++ mark :: post)) ≤ pre.length ↔ (pre ++ [mark]).any (armsAt a) = true := by
    rw [hsplit, ← armIndex_lt_iff (a := a) (pre ++ [mark]) post, length_append,
      length_singleton]
    exact Nat.lt_succ_iff.symm
  have hvalue : (valuesOf (pre ++ mark :: post))[pre.length]? = some mark.liquidationValue := by
    rw [valuesOf, getElem?_map, getElem?_append_right le_rfl, Nat.sub_self,
      getElem?_cons_zero]
    rfl
  rw [maskedOf, getElem?_map, getElem?_zipIdx, hvalue]
  simp [hlt]

theorem peak_stateAfter (hside : a.policy.entrySide = .debit) (pre post : List PolicyMark) :
    ((maskedOf a hardExit (pre ++ post)).take pre.length).foldl max ⊥ =
      if (stateAfter a pre).armed then ((stateAfter a pre).peak : WithBot ℚ) else ⊥ := by
  induction pre using List.reverseRecOn generalizing post with
  | nil => rfl
  | append_singleton pre mark ih =>
    have hsplit : pre ++ [mark] ++ post = pre ++ mark :: post := by simp
    rw [hsplit, length_append, length_singleton, take_add_one,
      maskedOf_getElem?, foldl_append, ih (mark :: post), (armed_debit hside _).1,
      stateAfter_concat, passMark, hside]
    dsimp only
    unfold armMark
    have harmed : (seeMark a (stateAfter a pre) mark).armed = pre.any (armsAt a) :=
      (armed_debit hside pre).1
    rw [harmed, any_append]
    cases hany : pre.any (armsAt a) with
    | true =>
      simp only [Bool.true_or, if_true, Option.toList_some, foldl_cons, foldl_nil]
      rfl
    | false =>
      by_cases harms : a.arms mark.liquidationValue = true
      · simp [harms, armsAt]
      · have hnot : a.arms mark.liquidationValue = false := by simpa using harms
        simp [armsAt, hnot, seeMark, (armed_debit hside pre).1, hany]

/-! ## One position of the columns -/

variable (a) in
/-- The kept times: in order, from the entry on. -/
def KeptTimes (rows : List PolicyMark) : Prop :=
  (a.entryAt :: rows.map (·.at')).Pairwise (· ≤ ·)

theorem offsets_eq : (timetableOf a hardExit rows).offsets = offsetsOf a rows := by
  simp [Timetable.offsets, timetableOf, offsetsOf, Function.comp_def]

theorem gapCumulative_nonneg (hardExit : Instant) (hkept : KeptTimes a rows) :
    ∀ gap ∈ (timetableOf a hardExit rows).gapCumulative, 0 ≤ gap := by
  refine le_of_mem_accumulate_max (differences_nonneg ?_)
  rw [offsets_eq]
  have hmap : (0 : ℚ) :: offsetsOf a rows =
      (a.entryAt :: rows.map (·.at')).map (secondsBetween · a.entryAt) := by
    simp [offsetsOf, secondsBetween, Function.comp_def]
  rw [hmap, pairwise_map]
  exact hkept.imp fun h => secondsBetween_le_iff.mpr h

theorem gapCumulative_at (hkept : KeptTimes a (pre ++ mark :: post)) :
    (timetableOf a hardExit (pre ++ mark :: post)).gapCumulative[pre.length]? =
      some (max (stateAfter a pre).gapMax
        (secondsBetween mark.at' (stateAfter a pre).previousAt)) := by
  have hoffsets : (timetableOf a hardExit (pre ++ mark :: post)).offsets =
      offsetsOf a pre ++ secondsBetween mark.at' a.entryAt :: offsetsOf a post := by
    simp [offsets_eq, offsetsOf]
  have hlen : (differences 0 (offsetsOf a pre)).length = pre.length := by simp [offsetsOf]
  have hobserved := observed_stateAfter (a := a) pre
  have hsplit := accumulate_split (f := max) (0 : ℚ) (differences 0 (offsetsOf a pre))
    (secondsBetween mark.at' a.entryAt - (offsetsOf a pre).getLast?.getD 0)
    (differences (secondsBetween mark.at' a.entryAt) (offsetsOf a post))
  rw [← differences_append, ← hoffsets, hlen, foldl_append, ← hobserved.gapMax,
    ← gap_eq hobserved] at hsplit
  obtain ⟨gap, hgap, hmax⟩ := Option.map_eq_some_iff.mp hsplit
  have hnonneg : 0 ≤ gap :=
    gapCumulative_nonneg hardExit hkept gap (mem_of_getElem? hgap)
  rw [max_eq_right hnonneg] at hmax
  exact hgap.trans (congrArg some hmax)

theorem trailMask_at (hside : a.policy.entrySide = .debit) :
    ((timetableOf a hardExit (pre ++ mark :: post)).trailMask
        (valuesOf (pre ++ mark :: post)))[pre.length]? =
      some ((stateAfter a pre).armed && decide (mark.liquidationValue <
        a.trailUnder (max (stateAfter a pre).peak mark.liquidationValue) -
          policyPriceEpsilon)) := by
  have hvalue : (valuesOf (pre ++ mark :: post))[pre.length]? = some mark.liquidationValue := by
    rw [valuesOf, getElem?_map, getElem?_append_right le_rfl, Nat.sub_self,
      getElem?_cons_zero]
    rfl
  have hmasked : maskedOf a hardExit (pre ++ mark :: post) =
      (maskedOf a hardExit (pre ++ mark :: post)).take pre.length ++
        (if (pre ++ [mark]).any (armsAt a) then (mark.liquidationValue : WithBot ℚ) else ⊥) ::
          (maskedOf a hardExit (pre ++ mark :: post)).drop (pre.length + 1) := by
    have hentry : (maskedOf a hardExit (pre ++ mark :: post))[pre.length]? = _ :=
      maskedOf_getElem? pre mark post
    obtain ⟨hlt, hget⟩ := List.getElem?_eq_some_iff.mp hentry
    rw [← hget, List.getElem_cons_drop, List.take_append_drop]
  have hlen : ((maskedOf a hardExit (pre ++ mark :: post)).take pre.length).length =
      pre.length := by
    simp [maskedOf, valuesOf]
  have hpeak : ((timetableOf a hardExit (pre ++ mark :: post)).peaks
      (valuesOf (pre ++ mark :: post)))[pre.length]? =
      some (if (stateAfter a pre).armed then
          ((max (stateAfter a pre).peak mark.liquidationValue : ℚ) : WithBot ℚ)
        else if (pre ++ [mark]).any (armsAt a) then
          (mark.liquidationValue : WithBot ℚ) else ⊥) := by
    have hsplit := accumulate_split (f := max) (⊥ : WithBot ℚ)
      ((maskedOf a hardExit (pre ++ mark :: post)).take pre.length)
      (if (pre ++ [mark]).any (armsAt a) then (mark.liquidationValue : WithBot ℚ) else ⊥)
      ((maskedOf a hardExit (pre ++ mark :: post)).drop (pre.length + 1))
    rw [← hmasked, hlen, foldl_append, peak_stateAfter hside] at hsplit
    obtain ⟨peak, hget, hmax⟩ := Option.map_eq_some_iff.mp hsplit
    rw [max_eq_right bot_le] at hmax
    refine hget.trans (congrArg some (hmax.trans ?_))
    cases harmed : (stateAfter a pre).armed with
    | true =>
      have hany : (pre ++ [mark]).any (armsAt a) = true := by
        rw [any_append, ← (armed_debit hside pre).1, harmed, Bool.true_or]
      simp [hany]
    | false => simp
  have hindex : (timetableOf a hardExit (pre ++ mark :: post)).armIndex
      (valuesOf (pre ++ mark :: post)) < pre.length ↔ (stateAfter a pre).armed = true := by
    rw [armIndex_lt_iff, (armed_debit hside pre).1]
  rw [Timetable.trailMask, getElem?_zipWith, getElem?_zipIdx, hvalue, Timetable.trails,
    getElem?_map, hpeak]
  simp only [Option.map_some, Nat.zero_add, hindex]
  cases harmed : (stateAfter a pre).armed with
  | false => simp
  | true =>
    simp only [if_true, decide_true, Bool.true_and, WithBot.map_coe]
    let peak := max (stateAfter a pre).peak mark.liquidationValue
    have htrail : (if a.policy.trailFloorIsEntryDebit then
          max ((peak * a.policy.trailAfterArmFraction : ℚ) : WithBot ℚ) (a.entryPrice : WithBot ℚ)
        else ((peak * a.policy.trailAfterArmFraction : ℚ) : WithBot ℚ)) =
        ((a.trailUnder peak : ℚ) : WithBot ℚ) := by
      unfold PolicyArguments.trailUnder
      dsimp only
      split_ifs
      · exact (WithBot.coe_max _ _).symm
      · rfl
    refine congrArg some (decide_eq_decide.mpr ?_)
    refine Iff.trans (Iff.of_eq (congrArg (fun trail =>
      (mark.liquidationValue : WithBot ℚ) < trail.map (· - policyPriceEpsilon)) htrail)) ?_
    rw [WithBot.map_coe, WithBot.coe_lt_coe]

/-- **At every mark the columns say what the loop does**, with the same precedence. -/
theorem reasonAt_exitColumns (hkept : KeptTimes a (pre ++ mark :: post)) :
    reasonAt (exitColumns a hardExit (pre ++ mark :: post)) pre.length =
      (markStep a hardExit (stateAfter a pre) mark).2 := by
  let gap := max (stateAfter a pre).gapMax (secondsBetween mark.at' (stateAfter a pre).previousAt)
  have hgapColumn : ((timetableOf a hardExit (pre ++ mark :: post)).gapCumulative.map
      a.gapTooLong)[pre.length]? = some (a.gapTooLong gap) := by
    rw [getElem?_map, gapCumulative_at hkept]
    rfl
  have hcolumn : ∀ p : PolicyMark → Bool, ((pre ++ mark :: post).map p)[pre.length]? =
      some (p mark) := by
    intro p
    rw [getElem?_map, getElem?_append_right le_rfl, Nat.sub_self,
      getElem?_cons_zero]
    rfl
  rw [exitColumns, sessionColumns, cons_append, cons_append, nil_append,
    reasonAt_cons hgapColumn, reasonAt_cons (hcolumn _)]
  cases hgap : a.gapTooLong gap with
  | true => rw [if_pos rfl, markStep_gap hgap]
  | false =>
    by_cases hhard : hardExit ≤ mark.at'
    · rw [markStep_hard hgap hhard]
      simp [hhard]
    · rw [markStep_side hgap hhard, sideColumns]
      simp only [Bool.false_eq_true, if_false, hhard, decide_false]
      cases hside : a.policy.entrySide with
      | credit =>
        dsimp only
        rw [reasonAt_cons (hcolumn _), reasonAt_cons (hcolumn _), creditStep]
        split_ifs <;> rfl
      | debit =>
        dsimp only
        rw [reasonAt_cons (hcolumn _), reasonAt_cons (hcolumn _),
          reasonAt_cons (trailMask_at hside), debitStep]
        have hpeak : (seeMark a (stateAfter a pre) mark).peak = (stateAfter a pre).peak := rfl
        have harmed : (seeMark a (stateAfter a pre) mark).armed = (stateAfter a pre).armed := rfl
        rw [hpeak, harmed]
        cases (stateAfter a pre).armed with
        | true =>
          simp only [Bool.not_true, Bool.false_and, Bool.true_and, Bool.false_eq_true, if_false,
            if_true, decide_eq_true_eq]
          split_ifs <;> rfl
        | false =>
          simp only [Bool.not_false, Bool.false_and, Bool.true_and, Bool.false_eq_true, if_false]
          split_ifs <;> rfl

/-! ## The place and the reason of the exit -/

theorem exists_split {i : ℕ} (h : i < rows.length) :
    ∃ pre mark post, rows = pre ++ mark :: post ∧ pre.length = i := by
  refine ⟨rows.take i, rows[i], rows.drop (i + 1), ?_, by simp; omega⟩
  rw [List.getElem_cons_drop, List.take_append_drop]

theorem reasonAt_passes (hkept : KeptTimes a (pre ++ post)) (hpasses : Passes a hardExit [] pre)
    {i : ℕ} (hi : i < pre.length) : reasonAt (exitColumns a hardExit (pre ++ post)) i = none := by
  obtain ⟨before, mark, after, hsplit, rfl⟩ := exists_split hi
  have hrows : pre ++ post = before ++ mark :: (after ++ post) := by simp [hsplit]
  rw [hrows] at hkept ⊢
  rw [reasonAt_exitColumns hkept]
  exact hpasses before mark after hsplit

theorem pathExit_passes (hfraction : 0 < a.policy.trailAfterArmFraction) (hkept : KeptTimes a rows)
    (hpasses : Passes a hardExit [] rows) :
    (timetableOf a hardExit rows).pathExit (valuesOf rows) = (rows.length, .marksExhausted) := by
  have hlen : ∀ column ∈ exitColumns a hardExit rows, column.1.length = rows.length :=
    length_exitColumns
  rw [pathExit_eq hfraction]
  rcases (firstExit_spec ExitReason.marksExhausted hlen).2 with hnone | hreason
  · exact hnone
  · have hat := lt_of_reasonAt hlen hreason
    have hkept' : KeptTimes a (rows ++ []) := by rwa [append_nil]
    have hpass := reasonAt_passes hkept' hpasses hat
    rw [append_nil, hreason] at hpass
    cases hpass

variable {reason : ExitReason}

theorem pathExit_exit (hfraction : 0 < a.policy.trailAfterArmFraction)
    (hkept : KeptTimes a (pre ++ mark :: post)) (hpasses : Passes a hardExit [] pre)
    (hexit : (markStep a hardExit (stateAfter a pre) mark).2 = some reason) :
    (timetableOf a hardExit (pre ++ mark :: post)).pathExit (valuesOf (pre ++ mark :: post)) =
      (pre.length, reason) := by
  have hlen : ∀ column ∈ exitColumns a hardExit (pre ++ mark :: post),
      column.1.length = (pre ++ mark :: post).length := length_exitColumns
  have hhere : reasonAt (exitColumns a hardExit (pre ++ mark :: post)) pre.length = some reason :=
    (reasonAt_exitColumns hkept).trans hexit
  rw [pathExit_eq hfraction]
  obtain ⟨hbefore, hchosen⟩ := firstExit_spec ExitReason.marksExhausted hlen
  have hle : (firstExit ((pre ++ mark :: post).length, .marksExhausted)
      (exitColumns a hardExit (pre ++ mark :: post))).1 ≤ pre.length := by
    by_contra hgt
    have hnone := hbefore pre.length (Nat.lt_of_not_le hgt)
    rw [hhere] at hnone
    cases hnone
  rcases hchosen with hnone | hreason
  · rw [hnone, length_append, length_cons] at hle
    omega
  · have hplace : (firstExit ((pre ++ mark :: post).length, .marksExhausted)
        (exitColumns a hardExit (pre ++ mark :: post))).1 = pre.length := by
      refine le_antisymm hle (Nat.le_of_not_lt fun hlt => ?_)
      rw [reasonAt_passes hkept hpasses hlt] at hreason
      cases hreason
    rw [hplace, hhere] at hreason
    exact Prod.ext hplace (Option.some.inj hreason).symm

/-! ## The label -/

/-- What the mark the loop leaves at changes in its variables. -/
structure LeftAt (a : PolicyArguments) (s s' : ReplayState) (mark : PolicyMark)
    (reason : ExitReason) : Prop where
  gapMax : s'.gapMax = max s.gapMax (secondsBetween mark.at' s.previousAt)
  unobserved : reason = .quoteGap → s'.mfe = s.mfe ∧ s'.mae = s.mae
  observed : reason ≠ .quoteGap → s'.mfe = max s.mfe (a.entryCashflow + mark.liquidationValue) ∧
    s'.mae = min s.mae (a.entryCashflow + mark.liquidationValue)
  taken : reason = .profitTake → a.policy.entrySide = .credit ∧ s'.armed = true ∧
    s'.timeToArm = some (secondsBetween mark.at' a.entryAt)
  kept : reason ≠ .profitTake → s'.armed = s.armed ∧ s'.timeToArm = s.timeToArm

theorem creditStep_left {s' : ReplayState} (hside : a.policy.entrySide = .credit)
    (h : creditStep a (seeMark a s mark) mark = (s', some reason)) : LeftAt a s s' mark reason := by
  unfold creditStep at h
  split_ifs at h <;> obtain ⟨rfl, hreason⟩ := Prod.mk.inj h <;> cases hreason
  · exact ⟨rfl, (nomatch ·), fun _ => ⟨rfl, rfl⟩, fun _ => ⟨hside, rfl, rfl⟩, (absurd rfl ·)⟩
  · exact ⟨rfl, (nomatch ·), fun _ => ⟨rfl, rfl⟩, (nomatch ·), fun _ => ⟨rfl, rfl⟩⟩

theorem debitStep_left {s' : ReplayState}
    (h : debitStep a (seeMark a s mark) mark = (s', some reason)) : LeftAt a s s' mark reason := by
  unfold debitStep at h
  dsimp only at h
  split_ifs at h <;> obtain ⟨rfl, hreason⟩ := Prod.mk.inj h <;> cases hreason <;>
    exact ⟨rfl, (nomatch ·), fun _ => ⟨rfl, rfl⟩, (nomatch ·), fun _ => ⟨rfl, rfl⟩⟩

theorem markStep_left (h : (markStep a hardExit s mark).2 = some reason) :
    LeftAt a s (markStep a hardExit s mark).1 mark reason := by
  cases hgap : a.gapTooLong (max s.gapMax (secondsBetween mark.at' s.previousAt)) with
  | true =>
    rw [markStep_gap hgap] at h ⊢
    cases h
    exact ⟨rfl, fun _ => ⟨rfl, rfl⟩, (absurd rfl ·), (nomatch ·), fun _ => ⟨rfl, rfl⟩⟩
  | false =>
    by_cases hhard : hardExit ≤ mark.at'
    · rw [markStep_hard hgap hhard] at h ⊢
      cases h
      exact ⟨rfl, (nomatch ·), fun _ => ⟨rfl, rfl⟩, (nomatch ·), fun _ => ⟨rfl, rfl⟩⟩
    · rw [markStep_side hgap hhard] at h ⊢
      cases hside : a.policy.entrySide with
      | credit =>
        rw [hside] at h
        exact creditStep_left hside (Prod.ext rfl h)
      | debit =>
        rw [hside] at h
        exact debitStep_left (Prod.ext rfl h)

theorem extreme_at (f : ℚ → ℚ → ℚ) [Std.Associative f] (default : ℚ) (pre : List PolicyMark)
    (mark : PolicyMark) (post : List PolicyMark) :
    f 0 ((accumulate f ((valuesOf (pre ++ mark :: post)).map (a.entryCashflow + ·))).getD
      pre.length default) = (pnlOf a (pre ++ [mark])).foldl f 0 := by
  have hsplit := accumulate_getD (f := f) (0 : ℚ) (pnlOf a pre)
    (a.entryCashflow + mark.liquidationValue) (pnlOf a post) default
  simpa [valuesOf, pnlOf, Function.comp_def] using hsplit

theorem armed_at (hardExit : Instant) (hside : a.policy.entrySide = .debit)
    (pre post : List PolicyMark) :
    let t := timetableOf a hardExit (pre ++ post)
    let armIndex := t.armIndex (valuesOf (pre ++ post))
    decide (armIndex < pre.length) = (stateAfter a pre).armed ∧
      (if decide (armIndex < pre.length) then
        some (roundTo 6 (t.offsets.getD (min armIndex (t.markCount - 1)) 0)) else none) =
          (stateAfter a pre).timeToArm := by
  intro t armIndex
  obtain ⟨harmed, htime⟩ := armed_debit hside pre
  have hlt : armIndex < pre.length ↔ pre.any (armsAt a) = true := armIndex_lt_iff pre post
  have hdecide : decide (armIndex < pre.length) = pre.any (armsAt a) := by
    cases hany : pre.any (armsAt a) with
    | true => exact decide_eq_true (hlt.mpr hany)
    | false => exact decide_eq_false fun h => by simp [hlt.mp h] at hany
  refine ⟨hdecide.trans harmed.symm, ?_⟩
  rw [htime, hdecide]
  cases hfind : pre.find? (armsAt a) with
  | none =>
    have hany : pre.any (armsAt a) = false := by
      rw [any_eq_false]
      exact fun m hm hp => find?_eq_none.mp hfind m hm hp
    rw [hany]
    rfl
  | some first =>
    have hany : pre.any (armsAt a) = true :=
      any_eq_true.mpr ⟨first, mem_of_find?_eq_some hfind, find?_some hfind⟩
    have hindex : armIndex < pre.length := hlt.mpr hany
    have hmark : (pre ++ post)[armIndex]? = some first := by
      have hrows : (pre ++ post).find? (armsAt a) = some first := by
        rw [find?_append, hfind]
        rfl
      rw [← hrows, find?_eq_getElem?_firstHit]
      exact congrArg ((pre ++ post)[·]?) armIndex_eq
    have hlast : min armIndex (t.markCount - 1) = armIndex := by
      have hcount : t.markCount = (pre ++ post).length := markCount_eq
      rw [length_append] at hcount
      omega
    rw [hany, if_pos rfl, hlast, getD_eq_getElem?_getD, offsets_eq, offsetsOf,
      getElem?_map, hmark]
    exact congrArg some (roundTo_secondsBetween _ _)

@[simp] theorem timetableOf_arguments : (timetableOf a hardExit rows).arguments = a := rfl

/-- The arming the label states is the arming of a loop's variables. -/
def StatesArming (t : Timetable) (values : List ℚ) (exit : ℕ × ExitReason) (safeIndex : ℕ)
    (s : ReplayState) : Prop :=
  (t.armedAt values exit safeIndex).1 = s.armed ∧
    (if s.armed then some (roundTo 6 (t.armedAt values exit safeIndex).2) else none) = s.timeToArm

theorem statesArming_kept (hreason : reason ≠ .profitTake)
    (hkept : s.armed = (stateAfter a pre).armed ∧ s.timeToArm = (stateAfter a pre).timeToArm)
    (safeIndex : ℕ) : StatesArming (timetableOf a hardExit (pre ++ post)) (valuesOf (pre ++ post))
      (pre.length, reason) safeIndex s := by
  unfold StatesArming Timetable.armedAt
  rw [timetableOf_arguments, hkept.1, hkept.2]
  cases hside : a.policy.entrySide with
  | credit =>
    obtain ⟨harmed, htime⟩ := armed_credit hside pre
    simp [harmed, htime, hreason]
  | debit =>
    obtain ⟨harmed, htime⟩ := armed_at hardExit hside pre post
    rw [harmed] at htime
    exact ⟨harmed, htime⟩

theorem statesArming_taken (hside : a.policy.entrySide = .credit) (harmed : s.armed = true)
    (htime : s.timeToArm = some (secondsBetween mark.at' a.entryAt)) :
    StatesArming (timetableOf a hardExit (pre ++ mark :: post)) (valuesOf (pre ++ mark :: post))
      (pre.length, .profitTake) pre.length s := by
  have hoffset : (timetableOf a hardExit (pre ++ mark :: post)).offsets.getD pre.length 0 =
      secondsBetween mark.at' a.entryAt := by
    simp [offsets_eq, offsetsOf, getD_eq_getElem?_getD]
  unfold StatesArming Timetable.armedAt
  rw [timetableOf_arguments, hside, harmed, htime, hoffset, roundTo_secondsBetween]
  exact ⟨rfl, rfl⟩

theorem pathLabel_passes (hfraction : 0 < a.policy.trailAfterArmFraction) (hne : rows ≠ [])
    (hkept : KeptTimes a rows) (hpasses : Passes a hardExit [] rows) :
    (timetableOf a hardExit rows).pathLabel (valuesOf rows) =
      policyLabel a (stateAfter a rows) none .marksExhausted := by
  have hexit := pathExit_passes hfraction hkept hpasses
  have hcount : (timetableOf a hardExit rows).markCount = rows.length := markCount_eq
  have harming : ∀ safeIndex, StatesArming (timetableOf a hardExit rows) (valuesOf rows)
      (rows.length, .marksExhausted) safeIndex (stateAfter a rows) := by
    intro safeIndex
    have hkeep : StatesArming (timetableOf a hardExit (rows ++ [])) (valuesOf (rows ++ []))
        (rows.length, .marksExhausted) safeIndex (stateAfter a rows) :=
      statesArming_kept (by decide) ⟨rfl, rfl⟩ safeIndex
    rwa [append_nil] at hkeep
  obtain ⟨pre, mark, rfl⟩ : ∃ pre mark, rows = pre ++ [mark] :=
    ⟨rows.dropLast, rows.getLast hne, (dropLast_append_getLast hne).symm⟩
  have hobserved := observed_stateAfter (a := a) (pre ++ [mark])
  have hgap : (timetableOf a hardExit (pre ++ [mark])).gapCumulative.getD pre.length 0 =
      (stateAfter a (pre ++ [mark])).gapMax := by
    rw [getD_eq_getElem?_getD, gapCumulative_at hkept, Option.getD_some, hobserved.gapMax,
      gapMax_next (observed_stateAfter pre)]
  have hlast : (pre ++ [mark]).length - 1 = pre.length := by simp
  obtain ⟨harmed, htime⟩ := harming pre.length
  unfold Timetable.pathLabel
  rw [hexit]
  simp only [hcount, lt_irrefl, decide_false, Bool.false_and, Bool.false_eq_true, if_false, hlast,
    timetableOf_arguments, extreme_at, reduceCtorEq, hgap, ← hobserved.mfe, ← hobserved.mae,
    htime, harmed]
  rfl

theorem pathLabel_exit (hfraction : 0 < a.policy.trailAfterArmFraction)
    (hkept : KeptTimes a (pre ++ mark :: post)) (hpasses : Passes a hardExit [] pre)
    (hexit : (markStep a hardExit (stateAfter a pre) mark).2 = some reason) :
    (timetableOf a hardExit (pre ++ mark :: post)).pathLabel (valuesOf (pre ++ mark :: post)) =
      policyLabel a (markStep a hardExit (stateAfter a pre) mark).1
        (if reason = .quoteGap then none else some mark) reason := by
  have hplace := pathExit_exit hfraction hkept hpasses hexit
  have hleft := markStep_left hexit
  have hobserved := observed_stateAfter (a := a) pre
  generalize (markStep a hardExit (stateAfter a pre) mark).1 = s at hleft
  have hcount : (timetableOf a hardExit (pre ++ mark :: post)).markCount =
      (pre ++ mark :: post).length := markCount_eq
  have hlt : pre.length < (pre ++ mark :: post).length := by simp
  have harming : StatesArming (timetableOf a hardExit (pre ++ mark :: post))
      (valuesOf (pre ++ mark :: post)) (pre.length, reason) pre.length s := by
    by_cases htaken : reason = .profitTake
    · obtain ⟨hside, harmed, htime⟩ := hleft.taken htaken
      rw [htaken]
      exact statesArming_taken hside harmed htime
    · exact statesArming_kept htaken (hleft.kept htaken) _
  obtain ⟨harmed, htime⟩ := harming
  have hgap : (timetableOf a hardExit (pre ++ mark :: post)).gapCumulative.getD pre.length 0 =
      s.gapMax := by
    rw [getD_eq_getElem?_getD, gapCumulative_at hkept, Option.getD_some, hleft.gapMax]
  have hvalue : (valuesOf (pre ++ mark :: post)).getD pre.length 0 = mark.liquidationValue := by
    simp [valuesOf, getD_eq_getElem?_getD]
  have hat : (timetableOf a hardExit (pre ++ mark :: post)).times.getD pre.length 0 = mark.at' := by
    simp [timetableOf, getD_eq_getElem?_getD]
  have hlast : min pre.length ((pre ++ mark :: post).length - 1) = pre.length := by omega
  unfold Timetable.pathLabel
  rw [hplace]
  by_cases hquote : reason = .quoteGap
  · -- The gap came before this mark: the extremes are those of the marks before it.
    obtain ⟨hmfe, hmae⟩ := hleft.unobserved hquote
    have hmfe' : (if decide (pre.length = 0) = true then 0
        else max 0 ((accumulate max ((valuesOf (pre ++ mark :: post)).map
          (a.entryCashflow + ·))).getD (max (pre.length - 1) 0) 0)) = s.mfe := by
      rw [hmfe, hobserved.mfe]
      rcases eq_nil_or_concat pre with rfl | ⟨before, last, rfl⟩
      · rfl
      · simpa using extreme_at max 0 before last (mark :: post)
    have hmae' : (if decide (pre.length = 0) = true then 0
        else min 0 ((accumulate min ((valuesOf (pre ++ mark :: post)).map
          (a.entryCashflow + ·))).getD (max (pre.length - 1) 0) 0)) = s.mae := by
      rw [hmae, hobserved.mae]
      rcases eq_nil_or_concat pre with rfl | ⟨before, last, rfl⟩
      · rfl
      · simpa using extreme_at min 0 before last (mark :: post)
    simp only [hcount, hlt, hlast, hquote, decide_true, Bool.not_true, Bool.and_false,
      Bool.true_and,
      Bool.false_eq_true, if_false, if_true, timetableOf_arguments, hmfe', hmae', hgap]
    rw [hquote] at harmed htime
    rw [harmed, htime]
    rfl
  · obtain ⟨hmfe, hmae⟩ := hleft.observed hquote
    have hmfe' : (pnlOf a (pre ++ [mark])).foldl max 0 = s.mfe := by
      rw [hmfe, hobserved.mfe, pnlOf, map_append, foldl_append]
      rfl
    have hmae' : (pnlOf a (pre ++ [mark])).foldl min 0 = s.mae := by
      rw [hmae, hobserved.mae, pnlOf, map_append, foldl_append]
      rfl
    simp only [hcount, hlt, decide_true, hquote, decide_false, Bool.not_false, Bool.and_true,
      Bool.false_and, Bool.false_eq_true, if_false, if_true, timetableOf_arguments, extreme_at,
      hmfe', hmae', hgap, hvalue, hat, harmed, htime]
    rfl

theorem pathLabel_eq (hfraction : 0 < a.policy.trailAfterArmFraction) (hne : rows ≠ [])
    (hkept : KeptTimes a rows) :
    (timetableOf a hardExit rows).pathLabel (valuesOf rows) = replayLabel a hardExit rows := by
  have hstart : ReplayState.start a = stateAfter a [] := rfl
  rw [replayLabel, hstart]
  rcases replay_split a hardExit rows [] with
    ⟨hpasses, hend⟩ | ⟨pre, mark, post, reason, hsplit, hpasses, hexit, hend⟩
  · rw [hend, nil_append]
    exact pathLabel_passes hfraction hne hkept hpasses
  · rw [hend, nil_append]
    subst hsplit
    rw [pathLabel_exit hfraction hkept hpasses hexit]
    cases reason <;> rfl

/-! ## The two replays -/

def marksOf (markTimes : List Instant) (path : List ℚ) : List PolicyMark :=
  List.zipWith PolicyMark.mk markTimes path

variable (a) in
/-- The marks the loop runs over. -/
def keptMarks (marks : List PolicyMark) : List PolicyMark :=
  (marks.filter fun mark => a.entryAt ≤ mark.at').insertionSort fun x y => x.at' ≤ y.at'

theorem keptMarks_kept (marks : List PolicyMark) : KeptTimes a (keptMarks a marks) := by
  have hsorted : (keptMarks a marks).Pairwise fun x y => x.at' ≤ y.at' := by
    have : IsTrans PolicyMark fun x y => x.at' ≤ y.at' := ⟨fun _ _ _ hxy hyz => le_trans hxy hyz⟩
    have : Std.Total fun x y : PolicyMark => x.at' ≤ y.at' := ⟨fun x y => le_total x.at' y.at'⟩
    exact pairwise_insertionSort _ _
  rw [KeptTimes, pairwise_cons, pairwise_map]
  refine ⟨fun at' hat => ?_, hsorted⟩
  obtain ⟨mark, hmark, rfl⟩ := mem_map.mp hat
  have hmem := (perm_insertionSort _ _).mem_iff.mp hmark
  simpa using (mem_filter.mp hmem).2

/-- The positions a condition keeps, read back, are the entries it keeps. -/
theorem map_getD_filter_range {α : Type} (p : α → Bool) (d : α) (xs : List α) :
    ((List.range xs.length).filter fun i => p (xs.getD i d)).map (xs.getD · d) = xs.filter p := by
  have hself : (List.range xs.length).map (xs.getD · d) = xs := by
    refine ext_getElem (by simp) fun i h₁ h₂ => ?_
    simp [getD_eq_getElem?_getD, getElem?_eq_getElem h₂]
  conv_rhs => rw [← hself, filter_map]
  rfl

variable (a) in
theorem keptMarks_eq {markTimes : List Instant} {path : List ℚ}
    (hlen : path.length = markTimes.length) : keptColumns a.entryAt markTimes 0 markTimes =
        (keptMarks a (marksOf markTimes path)).map (·.at') ∧
      keptColumns a.entryAt markTimes 0 path = valuesOf (keptMarks a (marksOf markTimes path)) := by
  let times := (markOrder markTimes).map (markTimes.getD · 0)
  let row := (markOrder markTimes).map (path.getD · 0)
  let keep := (List.range times.length).filter fun i => a.entryAt ≤ times.getD i 0
  change keep.map (times.getD · 0) = _ ∧ keep.map (row.getD · 0) = _
  let markAt (i : ℕ) : PolicyMark := ⟨markTimes.getD i 0, path.getD i 0⟩
  let sorted := (markOrder markTimes).map markAt
  have hmarks : marksOf markTimes path = (List.range markTimes.length).map markAt := by
    refine ext_getElem (by simp [marksOf, hlen]) fun i h₁ h₂ => ?_
    have hi : i < markTimes.length := by simpa using h₂
    simp [marksOf, markAt, getD_eq_getElem?_getD, hi, hlen ▸ hi]
  have hsorted : (marksOf markTimes path).insertionSort (fun x y => x.at' ≤ y.at') = sorted := by
    rw [hmarks]
    exact (map_insertionSort _ _ markAt _ fun _ _ _ _ => Iff.rfl).symm
  have htimes : times = sorted.map (·.at') := by simp [times, sorted, markAt, Function.comp_def]
  have hrow : row = sorted.map (·.liquidationValue) := by
    simp [row, sorted, markAt, Function.comp_def]
  have hat : ∀ i, times.getD i 0 = (sorted.getD i ⟨0, 0⟩).at' := by
    intro i
    rw [htimes]
    exact getD_map sorted ⟨0, 0⟩ fun mark => mark.at'
  have hvalue : ∀ i, row.getD i 0 = (sorted.getD i ⟨0, 0⟩).liquidationValue := by
    intro i
    rw [hrow]
    exact getD_map sorted ⟨0, 0⟩ fun mark => mark.liquidationValue
  have hkept : keep.map (sorted.getD · ⟨0, 0⟩) = keptMarks a (marksOf markTimes path) := by
    have hkeep : keep = (List.range sorted.length).filter fun i =>
        decide (a.entryAt ≤ (sorted.getD i ⟨0, 0⟩).at') := by
      have hlength : times.length = sorted.length := by rw [htimes, length_map]
      simp only [keep, hat, hlength]
    have : IsTrans PolicyMark fun x y => x.at' ≤ y.at' := ⟨fun _ _ _ hxy hyz => le_trans hxy hyz⟩
    have : Std.Total fun x y : PolicyMark => x.at' ≤ y.at' := ⟨fun x y => le_total x.at' y.at'⟩
    rw [hkeep, map_getD_filter_range (fun mark : PolicyMark => decide (a.entryAt ≤ mark.at')),
      ← hsorted, filter_insertionSort]
    rfl
  constructor
  · rw [← hkept, map_map]
    exact map_congr_left fun i _ => hat i
  · rw [← hkept, valuesOf, map_map]
    exact map_congr_left fun i _ => hvalue i

theorem simulate_eq (hardExitAt : HardExitAt) (marks : List PolicyMark) :
    simulateManagementPolicy a hardExitAt marks = (do
      a.check
      let hardExit ← a.hardExit hardExitAt
      if hardExit ≤ a.entryAt then
        return policyLabel a (.start a) none .sessionError
      else return replayLabel a hardExit (keptMarks a marks)) := rfl

theorem emptyPolicyLabel_eq (reason : ExitReason) :
    emptyPolicyLabel a reason = policyLabel a (.start a) none reason := by
  have hzero : ∀ digits, roundTo digits 0 = 0 := by
    intro digits
    have hround := roundHalfEven_intCast 0
    rw [Int.cast_zero] at hround
    rw [roundTo, zero_mul, hround, Int.cast_zero, zero_div]
  simp [emptyPolicyLabel, policyLabel, ReplayState.start, hzero]

/-- **The batch replay gives every path the label of its own replay.** For every policy with a
positive trail fraction and every array of paths over one timetable of marks, the batch replay
returns one label a path, which is the label the replay of the path's marks returns; and where the
arguments are refused, both refuse them. -/
theorem batch_replays_paths (a : PolicyArguments) (hardExitAt : HardExitAt) (values : PathArray)
    (markTimes : List Instant) (hwidth : markTimes.length = values.columns)
    (hfraction : 0 < a.policy.trailAfterArmFraction) :
    (∃ labels, simulateManagementPolicyBatch a hardExitAt values markTimes = .ok labels ∧
      List.Forall₂ (fun path label =>
        simulateManagementPolicy a hardExitAt (marksOf markTimes path) = .ok label)
        values.rows labels) ∨
    ∃ refusal, simulateManagementPolicyBatch a hardExitAt values markTimes = .error refusal ∧
      ∀ marks, simulateManagementPolicy a hardExitAt marks = .error refusal := by
  have hbatch : simulateManagementPolicyBatch a hardExitAt values markTimes = (do
      a.check
      let hardExit ← a.hardExit hardExitAt
      let times := keptColumns a.entryAt markTimes 0 markTimes
      let rows := values.rows.map (keptColumns a.entryAt markTimes 0)
      if times.length = 0 ∨ hardExit ≤ a.entryAt then
        let reason := if hardExit ≤ a.entryAt then .sessionError else .marksExhausted
        return rows.map fun _ => emptyPolicyLabel a reason
      else return rows.map ({ arguments := a, hardExit, times } : Timetable).pathLabel) := by
    unfold simulateManagementPolicyBatch
    simp [hwidth]
  rw [hbatch]
  simp only [simulate_eq]
  cases hcheck : a.check with
  | error refusal => exact .inr ⟨refusal, rfl, fun _ => rfl⟩
  | ok u =>
    cases hhard : a.hardExit hardExitAt with
    | error refusal => exact .inr ⟨refusal, rfl, fun _ => rfl⟩
    | ok hardExit =>
      left
      -- Path by path: the kept columns are the marks the loop runs over.
      have hpath : ∀ path ∈ values.rows, ∀ rows, rows = keptMarks a (marksOf markTimes path) →
          keptColumns a.entryAt markTimes 0 markTimes = rows.map (·.at') ∧
            keptColumns a.entryAt markTimes 0 path = valuesOf rows := by
        rintro path hmem rows rfl
        exact keptMarks_eq a ((values.width path hmem).trans hwidth.symm)
      by_cases hempty : (keptColumns a.entryAt markTimes 0 markTimes).length = 0 ∨
          hardExit ≤ a.entryAt
      · refine ⟨(values.rows.map (keptColumns a.entryAt markTimes 0)).map fun _ =>
          emptyPolicyLabel a (if hardExit ≤ a.entryAt then .sessionError else .marksExhausted),
          if_pos hempty, ?_⟩
        rw [map_map, forall₂_map_right_iff, forall₂_same]
        intro path hmem
        by_cases hlate : hardExit ≤ a.entryAt
        · simp only [if_pos hlate, Function.comp_apply, emptyPolicyLabel_eq]
          exact if_pos hlate
        · obtain ⟨htimes, -⟩ := hpath path hmem _ rfl
          have hnone : keptMarks a (marksOf markTimes path) = [] := by
            rw [htimes, length_map, length_eq_zero_iff] at hempty
            exact hempty.resolve_right hlate
          simp only [if_neg hlate, Function.comp_apply, emptyPolicyLabel_eq, hnone]
          exact if_neg hlate
      · refine ⟨(values.rows.map (keptColumns a.entryAt markTimes 0)).map
          ({ arguments := a, hardExit, times := keptColumns a.entryAt markTimes 0 markTimes } :
            Timetable).pathLabel, if_neg hempty, ?_⟩
        rw [map_map, forall₂_map_right_iff, forall₂_same]
        intro path hmem
        obtain ⟨hsome, hearly⟩ := not_or.mp hempty
        obtain ⟨htimes, hvalues⟩ := hpath path hmem _ rfl
        have hne : keptMarks a (marksOf markTimes path) ≠ [] := by
          intro hnil
          rw [htimes, hnil] at hsome
          exact hsome rfl
        have hlabel : (timetableOf a hardExit (keptMarks a (marksOf markTimes path))).pathLabel _ =
            _ := pathLabel_eq hfraction hne (keptMarks_kept _)
        simp only [Function.comp_apply, htimes, hvalues]
        exact (if_neg hearly).trans (congrArg Except.ok hlabel.symm)

/-- An entry at four points, with two marks of two paths. -/
def sampleArguments : PolicyArguments where
  entryPrice := 4
  contractCount := 1
  entryAt := 0

def samplePaths : PathArray where
  columns := 2
  rows := [[6, 4], [5, 1]]
  width := by decide

/-- A hard exit an hour after the entry. -/
def sampleHardExit : HardExitAt := fun at' _ _ => .ok (at' + 3600000000)

theorem batch_replays_two_paths : ∃ labels,
    simulateManagementPolicyBatch sampleArguments sampleHardExit samplePaths
      [60000000, 120000000] = .ok labels ∧
    List.Forall₂ (fun path label =>
      simulateManagementPolicy sampleArguments sampleHardExit
        (marksOf [60000000, 120000000] path) = .ok label) samplePaths.rows labels := by
  have hfraction : 0 < sampleArguments.policy.trailAfterArmFraction := by
    norm_num [sampleArguments]
  rcases batch_replays_paths sampleArguments sampleHardExit samplePaths [60000000, 120000000] rfl
    hfraction with hlabels | ⟨refusal, -, hrefused⟩
  · exact hlabels
  · have hcheck : sampleArguments.check = .ok () := by
      norm_num [PolicyArguments.check, sampleArguments]
    have hscalar := hrefused []
    rw [simulate_eq, hcheck] at hscalar
    have hlater : ¬ (0 : Instant) + 3600000000 ≤ 0 := by decide
    change (if (0 : Instant) + 3600000000 ≤ 0 then
      Except.ok (policyLabel sampleArguments
        (.start sampleArguments) none .sessionError) else _) = _
        at hscalar
    rw [if_neg hlater] at hscalar
    cases hscalar

end SpxSpark.Options
