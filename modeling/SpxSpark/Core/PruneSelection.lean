import Mathlib.Algebra.Order.BigOperators.Group.List
import Mathlib.Algebra.Order.Ring.Nat
import Mathlib.Data.List.Sort
import SpxSpark.Core.RawLog

/-!
# PruneSelection — what the plan selects, and why no less

The plan makes two passes over one running total. What they mark is told by one number: how many of
the completed segments that the cutoff spares are taken to meet the limit, oldest first.
-/

namespace SpxSpark.Core

open Domain Lib.Calendar List

/-! ## The plan -/

structure SegmentFile where
  name : String
  date : NaiveDate
  index : Nat
  bytes : Nat

/-- The order `(date, index, path)`. -/
def SegmentFile.before (left right : SegmentFile) : Prop :=
  left.date < right.date ∨ left.date = right.date ∧
    (left.index < right.index ∨ left.index = right.index ∧ left.name ≤ right.name)

instance : DecidableRel SegmentFile.before := fun left right =>
  inferInstanceAs (Decidable (left.date < right.date ∨ left.date = right.date ∧
    (left.index < right.index ∨ left.index = right.index ∧ left.name ≤ right.name)))

def segmentFile (entry : FileName × Entry) : Option SegmentFile :=
  match entry with
  | (.text name, .file content) =>
    (parseSegmentName name).map fun parsed => ⟨name, parsed.1, parsed.2, content.length⟩
  | _ => none

def scanSegmentFiles (directory : Directory) : List SegmentFile × Nat :=
  let segments := (directory.entries.map fun e => (e.1, e.2)).filterMap segmentFile
  (segments.insertionSort SegmentFile.before, directory.entries.length - segments.length)

def totalSegmentBytes (segments : List SegmentFile) : Except RawLogError Nat :=
  segments.foldlM (fun total segment => do
    require (total + segment.bytes < 2 ^ 64) .freeSpaceArithmeticOverflow
    pure (total + segment.bytes)) 0

structure PruneSelection where
  selected : List Bool
  projectedBytesAfter : Nat
  plannedFiles : Nat
  plannedBytes : Nat

def marked (segments : List SegmentFile) (selected : List Bool) : List SegmentFile :=
  (segments.zip selected).filterMap fun entry => if entry.2 then some entry.1 else none

/-- The first loop of `select_segments`: everything older than the cutoff. -/
def selectExpired (keepCutoff : NaiveDate) : List SegmentFile → Nat → List Bool × Nat
  | [], projected => ([], projected)
  | segment :: rest, projected =>
    if segment.date < keepCutoff then
      let tail := selectExpired keepCutoff rest (projected - segment.bytes)
      (true :: tail.1, tail.2)
    else
      let tail := selectExpired keepCutoff rest projected
      (false :: tail.1, tail.2)

/-- The second loop of `select_segments`: the oldest completed ones, until the limit is met. -/
def selectOverLimit (currentUtcDate : NaiveDate) (maxTotalBytes : Nat) :
    List (SegmentFile × Bool) → Nat → List Bool × Nat
  | [], projected => ([], projected)
  | (segment, chosen) :: rest, projected =>
    if projected ≤ maxTotalBytes then (chosen :: rest.map (·.2), projected)
    else if chosen = false ∧ segment.date < currentUtcDate then
      let tail := selectOverLimit currentUtcDate maxTotalBytes rest (projected - segment.bytes)
      (true :: tail.1, tail.2)
    else
      let tail := selectOverLimit currentUtcDate maxTotalBytes rest projected
      (chosen :: tail.1, tail.2)

def selectSegments (segments : List SegmentFile) (currentUtcDate keepCutoff : NaiveDate)
    (maxTotalBytes totalBytesBefore : Nat) : Except RawLogError PruneSelection := do
  let expired := selectExpired keepCutoff segments totalBytesBefore
  let chosen := selectOverLimit currentUtcDate maxTotalBytes (segments.zip expired.1) expired.2
  let planned := marked segments chosen.1
  let plannedBytes ← totalSegmentBytes planned
  pure
    { selected := chosen.1
      projectedBytesAfter := chosen.2
      plannedFiles := planned.length
      plannedBytes }

/-- `NaiveDate::MIN`. -/
def minNaiveDate : NaiveDate := dayOfCivil ⟨-262143, 1, 1⟩

/-- `checked_sub_days`. -/
def checkedSubDays (date : NaiveDate) (days : Nat) : Option NaiveDate :=
  if minNaiveDate ≤ date - days then some (date - days) else none

/-- The policy's plan for a directory: its segments, their size, and what is selected. -/
def prunePlan (directory : Directory) (currentUtcDate : NaiveDate) (keepCompletedDays : Nat)
    (maxTotalBytes : Nat) : Except RawLogError (List SegmentFile × Nat × PruneSelection) := do
  require (keepCompletedDays ≤ 365)
    (.invalidRetentionPolicy "keep_completed_days must be within 0..=365")
  require (maxTotalBytes ≠ 0) (.invalidRetentionPolicy "max_total_bytes must be positive")
  match checkedSubDays currentUtcDate keepCompletedDays with
  | none => .error (.invalidRetentionPolicy "completed-day cutoff is not representable")
  | some keepCutoff => do
      let segments := (scanSegmentFiles directory).1
      let totalBytesBefore ← totalSegmentBytes segments
      let selection ←
        selectSegments segments currentUtcDate keepCutoff maxTotalBytes totalBytesBefore
      pure (segments, totalBytesBefore, selection)

/-! ## The marks -/

def totalBytes (segments : List SegmentFile) : Nat := (segments.map (·.bytes)).sum

/-- Completed, and not older than the cutoff. -/
def isSpared (currentUtcDate keepCutoff : NaiveDate) (segment : SegmentFile) : Bool :=
  keepCutoff ≤ segment.date && segment.date < currentUtcDate

/-- The expired segments are marked, and the first so many of the spared ones. -/
def marksOf (currentUtcDate keepCutoff : NaiveDate) : Nat → List SegmentFile → List Bool
  | _, [] => []
  | taken, segment :: rest =>
    if isSpared currentUtcDate keepCutoff segment then
      decide (0 < taken) :: marksOf currentUtcDate keepCutoff (taken - 1) rest
    else decide (segment.date < keepCutoff) :: marksOf currentUtcDate keepCutoff taken rest

section

variable {currentUtcDate keepCutoff : NaiveDate} {maxTotalBytes taken : Nat}
  {segments : List SegmentFile} {segment : SegmentFile}

@[simp] theorem totalBytes_cons (segment : SegmentFile) (rest : List SegmentFile) :
    totalBytes (segment :: rest) = segment.bytes + totalBytes rest := by
  unfold totalBytes
  rw [map_cons, sum_cons]

theorem isSpared_iff : isSpared currentUtcDate keepCutoff segment = true ↔
    keepCutoff ≤ segment.date ∧ segment.date < currentUtcDate := by
  unfold isSpared
  rw [Bool.and_eq_true, decide_eq_true_eq, decide_eq_true_eq]

theorem mem_marked {selected : List Bool} :
    segment ∈ marked segments selected ↔ (segment, true) ∈ segments.zip selected := by
  unfold marked
  rw [mem_filterMap]
  constructor
  · rintro ⟨⟨found, chosen⟩, hmem, h⟩
    cases chosen with
    | false => cases h
    | true =>
      cases h
      exact hmem
  · intro hmem
    exact ⟨_, hmem, rfl⟩

theorem mem_scanSegmentFiles {directory : Directory}
    (h : segment ∈ (scanSegmentFiles directory).1) :
    parseSegmentName segment.name = some (segment.date, segment.index) ∧
      ∃ content, directory.read segment.name = some content ∧ content.length = segment.bytes := by
  unfold scanSegmentFiles at h
  rw [mem_insertionSort, mem_filterMap] at h
  obtain ⟨⟨file, kind⟩, hentry, hsegment⟩ := h
  unfold segmentFile at hsegment
  split at hsegment
  · rename_i name content heq
    cases heq
    obtain ⟨parsed, hparse, rfl⟩ := Option.map_eq_some_iff.mp hsegment
    exact ⟨hparse, content, Directory.read_eq_some.mpr hentry, rfl⟩
  · cases hsegment

/-! ## The two loops -/

theorem selectExpired_eq (keepCutoff : NaiveDate) (segments : List SegmentFile) (projected : Nat) :
    selectExpired keepCutoff segments projected =
      (segments.map fun segment => decide (segment.date < keepCutoff),
        projected - totalBytes (segments.filter fun segment => segment.date < keepCutoff)) := by
  induction segments generalizing projected with
  | nil => rfl
  | cons segment rest ih =>
    unfold selectExpired
    by_cases hold : segment.date < keepCutoff
    · rw [if_pos hold, ih, map_cons, decide_eq_true hold,
        filter_cons_of_pos (by simpa using hold), totalBytes_cons, Nat.sub_sub]
    · rw [if_neg hold, ih, map_cons, decide_eq_false hold,
        filter_cons_of_neg (by simpa using hold)]

theorem marksOf_zero (segments : List SegmentFile) : marksOf currentUtcDate keepCutoff 0 segments =
      segments.map fun segment => decide (segment.date < keepCutoff) := by
  induction segments with
  | nil => rfl
  | cons segment rest ih =>
    rw [marksOf, map_cons]
    split
    · rename_i hspared
      rw [isSpared_iff] at hspared
      rw [ih, decide_eq_false (Nat.lt_irrefl 0), decide_eq_false (not_lt.mpr hspared.1)]
    · rw [ih]

/-- **The second loop takes the shortest prefix of the spared segments** that meets the limit, or
all of them. -/
theorem selectOverLimit_eq (currentUtcDate keepCutoff : NaiveDate) (maxTotalBytes : Nat)
    (segments : List SegmentFile) (projected : Nat) :
    ∃ taken ≤ (segments.filter (isSpared currentUtcDate keepCutoff)).length,
      selectOverLimit currentUtcDate maxTotalBytes
          (segments.map fun segment => (segment, decide (segment.date < keepCutoff))) projected =
        (marksOf currentUtcDate keepCutoff taken segments, projected -
          totalBytes ((segments.filter (isSpared currentUtcDate keepCutoff)).take taken)) ∧
      (∀ fewer < taken, maxTotalBytes < projected -
        totalBytes ((segments.filter (isSpared currentUtcDate keepCutoff)).take fewer)) ∧
      (projected - totalBytes ((segments.filter (isSpared currentUtcDate keepCutoff)).take taken) ≤
          maxTotalBytes ∨
        taken = (segments.filter (isSpared currentUtcDate keepCutoff)).length) := by
  induction segments generalizing projected with
  | nil =>
    exact ⟨0, le_refl 0, rfl, fun _ hfewer => absurd hfewer (Nat.not_lt_zero _), .inr rfl⟩
  | cons segment rest ih =>
    rw [map_cons]
    unfold selectOverLimit
    by_cases hmet : projected ≤ maxTotalBytes
    · refine ⟨0, Nat.zero_le _, ?_, fun _ hfewer => absurd hfewer (Nat.not_lt_zero _), .inl ?_⟩
      · rw [if_pos hmet, marksOf_zero, map_map, take_zero]
        rfl
      · rw [take_zero]
        exact hmet
    · rw [if_neg hmet]
      by_cases hspared : isSpared currentUtcDate keepCutoff segment = true
      · obtain ⟨taken, hle, heq, hfewer, hends⟩ := ih (projected - segment.bytes)
        have hchosen : decide (segment.date < keepCutoff) = false ∧
            segment.date < currentUtcDate := by
          rw [isSpared_iff] at hspared
          exact ⟨decide_eq_false (not_lt.mpr hspared.1), hspared.2⟩
        rw [if_pos hchosen, filter_cons_of_pos hspared]
        refine ⟨taken + 1, Nat.succ_le_succ hle, ?_, ?_, ?_⟩
        · rw [heq, marksOf, if_pos hspared, take_succ_cons, totalBytes_cons, Nat.sub_sub,
            decide_eq_true (Nat.succ_pos taken)]
          rfl
        · intro fewer hlt
          cases fewer with
          | zero =>
            rw [take_zero]
            exact not_le.mp hmet
          | succ fewer =>
            rw [take_succ_cons, totalBytes_cons, ← Nat.sub_sub]
            exact hfewer fewer (Nat.lt_of_succ_lt_succ hlt)
        · rw [take_succ_cons, totalBytes_cons, ← Nat.sub_sub, length_cons]
          exact hends.imp_right fun hall => by rw [hall]
      · obtain ⟨taken, hle, heq, hfewer, hends⟩ := ih projected
        have hkept : ¬(decide (segment.date < keepCutoff) = false ∧
            segment.date < currentUtcDate) := by
          rw [isSpared_iff] at hspared
          rintro ⟨hyoung, hcompleted⟩
          exact hspared ⟨not_lt.mp (of_decide_eq_false hyoung), hcompleted⟩
        rw [if_neg hkept, filter_cons_of_neg hspared]
        refine ⟨taken, hle, ?_, hfewer, hends⟩
        rw [heq, marksOf, if_neg hspared]

theorem zip_marks (mark : SegmentFile → Bool) (segments : List SegmentFile) :
    segments.zip (segments.map mark) = segments.map fun segment => (segment, mark segment) := by
  induction segments with
  | nil => rfl
  | cons segment rest ih => rw [map_cons, map_cons, zip_cons_cons, ih]

/-! ## What is marked -/

theorem getElem?_marksOf (currentUtcDate keepCutoff : NaiveDate) (taken : Nat)
    (segments : List SegmentFile) (i : Nat) :
    (marksOf currentUtcDate keepCutoff taken segments)[i]? = segments[i]?.map fun segment =>
      decide (segment.date < keepCutoff) || (isSpared currentUtcDate keepCutoff segment &&
        decide ((segments.take i).countP (isSpared currentUtcDate keepCutoff) < taken)) := by
  induction segments generalizing taken i with
  | nil => rfl
  | cons segment rest ih =>
    rw [marksOf]
    by_cases hspared : isSpared currentUtcDate keepCutoff segment = true
    · have hyoung := decide_eq_false (not_lt.mpr (isSpared_iff.mp hspared).1)
      rw [if_pos hspared]
      cases i with
      | zero =>
        simp only [hspared, hyoung, getElem?_cons_zero, Option.map_some, take_zero,
          countP_nil, Bool.false_or, Bool.true_and]
        rfl
      | succ i =>
        rw [getElem?_cons_succ, getElem?_cons_succ, ih, take_succ_cons,
          List.countP_cons_of_pos hspared]
        simp only [Nat.lt_sub_iff_add_lt]
    · rw [if_neg hspared]
      cases i with
      | zero => simp [hspared]
      | succ i =>
        rw [getElem?_cons_succ, getElem?_cons_succ, ih, take_succ_cons,
          countP_cons_of_neg hspared]

theorem selectSegments_ok {totalBytesBefore : Nat} {selection : PruneSelection}
    (h : selectSegments segments currentUtcDate keepCutoff maxTotalBytes totalBytesBefore =
      .ok selection) (hmem : segment ∈ marked segments selection.selected) :
    segment ∈ segments ∧ (segment.date < keepCutoff ∨ segment.date < currentUtcDate) := by
  unfold selectSegments at h
  rw [bind_ok] at h
  obtain ⟨planned, -, h⟩ := h
  cases h
  obtain ⟨taken, -, heq, -⟩ := selectOverLimit_eq currentUtcDate keepCutoff maxTotalBytes segments
    (totalBytesBefore - totalBytes (segments.filter fun segment => segment.date < keepCutoff))
  rw [selectExpired_eq] at hmem
  dsimp only at hmem
  rw [zip_marks, heq, mem_marked] at hmem
  refine ⟨(of_mem_zip hmem).1, ?_⟩
  obtain ⟨i, hi⟩ := mem_iff_getElem?.mp hmem
  obtain ⟨hsegment, hmark⟩ := getElem?_zip_eq_some.mp hi
  rw [getElem?_marksOf, hsegment, Option.map_some, Option.some.injEq, Bool.or_eq_true,
    decide_eq_true_eq, Bool.and_eq_true, isSpared_iff] at hmark
  exact hmark.imp_right fun hspared => hspared.1.2

theorem marked_cons (segment : SegmentFile) (rest : List SegmentFile) (mark : Bool)
    (marks : List Bool) : marked (segment :: rest) (mark :: marks) =
      if mark then segment :: marked rest marks else marked rest marks := by
  cases mark <;> rfl

theorem totalBytes_marked (currentUtcDate keepCutoff : NaiveDate) (taken : Nat)
    (segments : List SegmentFile) :
    totalBytes (marked segments (marksOf currentUtcDate keepCutoff taken segments)) =
      totalBytes (segments.filter fun segment => segment.date < keepCutoff) +
        totalBytes ((segments.filter (isSpared currentUtcDate keepCutoff)).take taken) := by
  induction segments generalizing taken with
  | nil => cases taken <;> rfl
  | cons segment rest ih =>
    rw [marksOf]
    by_cases hspared : isSpared currentUtcDate keepCutoff segment = true
    · have hyoung : ¬segment.date < keepCutoff := not_lt.mpr (isSpared_iff.mp hspared).1
      rw [if_pos hspared, marked_cons, filter_cons_of_pos hspared,
        filter_cons_of_neg (by simpa using hyoung)]
      cases taken with
      | zero =>
        have hrest := ih 0
        rw [take_zero] at hrest ⊢
        exact hrest
      | succ taken =>
        rw [decide_eq_true (Nat.succ_pos taken), if_pos rfl, take_succ_cons,
          totalBytes_cons, totalBytes_cons, Nat.add_sub_cancel, ih]
        omega
    · rw [if_neg hspared, marked_cons, filter_cons_of_neg hspared]
      by_cases hold : segment.date < keepCutoff
      · rw [decide_eq_true hold, if_pos rfl, filter_cons_of_pos (by simpa using hold),
          totalBytes_cons, totalBytes_cons, ih, Nat.add_assoc]
      · rw [decide_eq_false hold, filter_cons_of_neg (by simpa using hold), ← ih]
        rfl

theorem marked_sublist (segments : List SegmentFile) (marks : List Bool) :
    (marked segments marks).Sublist segments := by
  induction segments generalizing marks with
  | nil => exact List.Sublist.refl _
  | cons segment rest ih =>
    cases marks with
    | nil => exact nil_sublist _
    | cons mark marks =>
      rw [marked_cons]
      split
      · exact (ih marks).cons_cons segment
      · exact (ih marks).cons segment

theorem totalBytes_marked_le (segments : List SegmentFile) (marks : List Bool) :
    totalBytes (marked segments marks) ≤ totalBytes segments :=
  ((marked_sublist segments marks).map _).sum_le_sum fun _ _ => Nat.zero_le _

theorem totalSegmentBytes_iff {total : Nat} : totalSegmentBytes segments = .ok total ↔
    total = totalBytes segments ∧ (segments = [] ∨ total < 2 ^ 64) := by
  have hfold : ∀ (segments : List SegmentFile) (start : Nat),
      segments.foldlM (fun total segment => do
        require (total + segment.bytes < 2 ^ 64) RawLogError.freeSpaceArithmeticOverflow
        pure (total + segment.bytes)) start = Except.ok total ↔
      total = start + totalBytes segments ∧ (segments = [] ∨ total < 2 ^ 64) := by
    intro segments
    induction segments with
    | nil =>
      intro start
      rw [foldlM_nil]
      constructor
      · intro h
        exact ⟨(Except.ok.inj h).symm, .inl rfl⟩
      · rintro ⟨rfl, -⟩
        rfl
    | cons segment rest ih =>
      intro start
      rw [foldlM_cons, bind_ok]
      constructor
      · rintro ⟨next, hnext, hrest⟩
        obtain ⟨hfits, hnext⟩ := require_bind_ok.mp hnext
        cases hnext
        obtain ⟨htotal, hend⟩ := (ih _).mp hrest
        rw [totalBytes_cons]
        refine ⟨by omega, .inr ?_⟩
        rcases hend with rfl | hlt
        · rw [htotal]
          exact hfits
        · exact hlt
      · rintro ⟨htotal, hend⟩
        have hlt := hend.resolve_left (cons_ne_nil _ _)
        rw [totalBytes_cons, ← Nat.add_assoc] at htotal
        refine ⟨start + segment.bytes, require_bind_ok.mpr ⟨by omega, rfl⟩, ?_⟩
        exact (ih _).mpr ⟨htotal, .inr hlt⟩
  unfold totalSegmentBytes
  rw [hfold, Nat.zero_add]

theorem countP_take_lt {spared : SegmentFile → Bool} {i : Nat} (hget : segments[i]? = some segment)
    (hspared : spared segment = true) :
    (segments.take i).countP spared < segments.countP spared := by
  obtain ⟨hi, rfl⟩ := List.getElem?_eq_some_iff.mp hget
  have hsplit := congrArg (List.countP spared) (List.take_append_drop i segments)
  rw [List.countP_append, List.drop_eq_getElem_cons hi, List.countP_cons_of_pos hspared] at hsplit
  omega

theorem countP_take_mono (spared : SegmentFile → Bool) {i j : Nat} (h : i ≤ j) :
    (segments.take i).countP spared ≤ (segments.take j).countP spared :=
  (take_sublist_take_left h).countP_le

/-- Every plan is a selection from the directory's segments under a cutoff that is no later than the
current date. -/
theorem prunePlan_selects {directory : Directory} {currentUtcDate : NaiveDate}
    {keepCompletedDays maxTotalBytes totalBytesBefore : Nat} {selection : PruneSelection}
    (h : prunePlan directory currentUtcDate keepCompletedDays maxTotalBytes =
      .ok (segments, totalBytesBefore, selection)) :
    segments = (scanSegmentFiles directory).1 ∧
      totalSegmentBytes segments = .ok totalBytesBefore ∧ ∃ keepCutoff ≤ currentUtcDate,
        selectSegments segments currentUtcDate keepCutoff maxTotalBytes totalBytesBefore =
          .ok selection := by
  unfold prunePlan at h
  rw [require_bind_ok] at h
  obtain ⟨-, h⟩ := h
  rw [require_bind_ok] at h
  obtain ⟨-, h⟩ := h
  split at h
  · cases h
  rename_i keepCutoff hcutoff
  simp only [bind_ok] at h
  obtain ⟨total, htotal, chosen, hselect, h⟩ := h
  cases h
  refine ⟨rfl, htotal, keepCutoff, ?_, hselect⟩
  unfold checkedSubDays at hcutoff
  split at hcutoff
  · cases hcutoff
    exact Int.sub_le_self _ (Int.natCast_nonneg _)
  · cases hcutoff

/-- **Only segments of completed days are selected.** -/
theorem prunePlan_ok {directory : Directory} {currentUtcDate : NaiveDate}
    {keepCompletedDays maxTotalBytes totalBytesBefore : Nat} {selection : PruneSelection}
    (h : prunePlan directory currentUtcDate keepCompletedDays maxTotalBytes =
      .ok (segments, totalBytesBefore, selection)) :
    ∀ segment ∈ marked segments selection.selected, segment.date < currentUtcDate ∧
      parseSegmentName segment.name = some (segment.date, segment.index) ∧
      ∃ content, directory.read segment.name = some content ∧ content.length = segment.bytes := by
  obtain ⟨rfl, -, keepCutoff, hbefore, hselect⟩ := prunePlan_selects h
  intro segment hmem
  obtain ⟨hsegment, hdate⟩ := selectSegments_ok hselect hmem
  exact ⟨hdate.elim (·.trans_le hbefore) id, mem_scanSegmentFiles hsegment⟩

end

/-- **The selection is minimal and safe.** All segments older than the cutoff are selected, and of
the other completed ones the shortest prefix that brings the total to the limit, or all of them. -/
theorem prune_selection_minimal (segments : List SegmentFile)
    (currentUtcDate keepCutoff : NaiveDate) (maxTotalBytes total : Nat)
    (hcutoff : keepCutoff ≤ currentUtcDate) (htotal : totalSegmentBytes segments = .ok total) :
    ∃ (selection : PruneSelection) (taken : Nat),
      selectSegments segments currentUtcDate keepCutoff maxTotalBytes total = .ok selection ∧
      (∀ i : Nat, selection.selected[i]? = segments[i]?.map fun segment =>
        decide (segment.date < keepCutoff) || (isSpared currentUtcDate keepCutoff segment &&
          decide ((segments.take i).countP (isSpared currentUtcDate keepCutoff) < taken))) ∧
      (∀ fewer < taken, maxTotalBytes <
        total - (totalBytes (segments.filter fun segment => segment.date < keepCutoff) +
          totalBytes ((segments.filter (isSpared currentUtcDate keepCutoff)).take fewer))) ∧
      selection.plannedFiles = (marked segments selection.selected).length ∧
      selection.plannedBytes = totalBytes (marked segments selection.selected) ∧
      selection.projectedBytesAfter + selection.plannedBytes = total ∧
      (∀ segment ∈ marked segments selection.selected, segment.date < currentUtcDate) ∧
      (selection.projectedBytesAfter ≤ maxTotalBytes ∨
        ∀ (i : Nat) (segment : SegmentFile), segments[i]? = some segment →
          segment.date < currentUtcDate → selection.selected[i]? = some true) ∧
      (segments.Pairwise SegmentFile.before → ∀ (i j : Nat) (kept chosen : SegmentFile),
        segments[i]? = some kept → segments[j]? = some chosen →
        kept.date < currentUtcDate → selection.selected[i]? = some false →
        selection.selected[j]? = some true → chosen.before kept) := by
  obtain ⟨taken, -, heq, hfewer, hends⟩ := selectOverLimit_eq currentUtcDate keepCutoff
    maxTotalBytes segments
    (total - totalBytes (segments.filter fun segment => segment.date < keepCutoff))
  have hmarked := totalBytes_marked currentUtcDate keepCutoff taken segments
  have hwhole := totalBytes_marked_le segments (marksOf currentUtcDate keepCutoff taken segments)
  obtain ⟨hsum, hfits⟩ := totalSegmentBytes_iff.mp htotal
  have hplanned : totalSegmentBytes (marked segments
      (marksOf currentUtcDate keepCutoff taken segments)) =
        .ok (totalBytes (marked segments (marksOf currentUtcDate keepCutoff taken segments))) := by
    refine totalSegmentBytes_iff.mpr ⟨rfl, ?_⟩
    rcases hfits with rfl | hlt
    · exact .inl rfl
    · exact .inr (by omega)
  have hmark := getElem?_marksOf currentUtcDate keepCutoff taken segments
  have hselect : selectSegments segments currentUtcDate keepCutoff maxTotalBytes total = .ok
      { selected := marksOf currentUtcDate keepCutoff taken segments
        projectedBytesAfter :=
          total - totalBytes (segments.filter fun segment => segment.date < keepCutoff) -
            totalBytes ((segments.filter (isSpared currentUtcDate keepCutoff)).take taken)
        plannedFiles :=
          (marked segments (marksOf currentUtcDate keepCutoff taken segments)).length
        plannedBytes :=
          totalBytes (marked segments (marksOf currentUtcDate keepCutoff taken segments)) } := by
    unfold selectSegments
    dsimp only
    rw [selectExpired_eq]
    dsimp only
    rw [zip_marks, heq]
    dsimp only
    rw [ok_bind hplanned]
    rfl
  refine ⟨_, taken, hselect, hmark, ?_, rfl, rfl, ?_, ?_, ?_, ?_⟩
  · intro fewer hlt
    rw [← Nat.sub_sub]
    exact hfewer fewer hlt
  · dsimp only
    omega
  · intro segment hmem
    rcases (selectSegments_ok hselect hmem).2 with hold | hcompleted
    · exact lt_of_lt_of_le hold hcutoff
    · exact hcompleted
  · refine hends.imp_right fun hall i segment hget hcompleted => ?_
    rw [hmark, hget, Option.map_some]
    by_cases hold : segment.date < keepCutoff
    · rw [decide_eq_true hold, Bool.true_or]
    · -- All the spared ones are taken, and this one is among them.
      have hspared : isSpared currentUtcDate keepCutoff segment = true :=
        isSpared_iff.mpr ⟨not_lt.mp hold, hcompleted⟩
      have hcount : (segments.take i).countP (isSpared currentUtcDate keepCutoff) < taken := by
        rw [hall, ← countP_eq_length_filter]
        exact countP_take_lt hget hspared
      rw [hspared, decide_eq_true hcount, Bool.and_true, Bool.or_true]
  · intro hsorted i j kept chosen hi hj hcompleted hkept hchosen
    rw [hmark, hi, Option.map_some, Option.some.injEq, Bool.or_eq_false_iff,
      decide_eq_false_iff_not, not_lt] at hkept
    rw [hmark, hj, Option.map_some, Option.some.injEq, Bool.or_eq_true, decide_eq_true_eq,
      Bool.and_eq_true, decide_eq_true_eq] at hchosen
    obtain ⟨hyoung, hcount⟩ := hkept
    rw [isSpared_iff.mpr ⟨hyoung, hcompleted⟩, Bool.true_and, decide_eq_false_iff_not] at hcount
    rcases hchosen with hold | ⟨-, htaken⟩
    · exact .inl (lt_of_lt_of_le hold hyoung)
    · have hlt : j < i := by
        by_contra hge
        exact hcount (lt_of_le_of_lt (countP_take_mono _ (not_lt.mp hge)) htaken)
      obtain ⟨hlater, rfl⟩ := List.getElem?_eq_some_iff.mp hi
      obtain ⟨hearlier, rfl⟩ := List.getElem?_eq_some_iff.mp hj
      exact List.pairwise_iff_getElem.mp hsorted j i hearlier hlater hlt

/-- Of 180 bytes the expired 30 go, and 40 more for the limit of 120. -/
def overLimitSegments : List SegmentFile :=
  [⟨"a", 3, 0, 30⟩, ⟨"b", 6, 0, 40⟩, ⟨"c", 7, 0, 50⟩, ⟨"d", 10, 0, 60⟩]

theorem prune_selection_over_limit : ∃ selection : PruneSelection,
    selectSegments overLimitSegments 10 5 120 180 = .ok selection ∧
      selection.selected = [true, true, false, false] ∧
      selection.projectedBytesAfter + selection.plannedBytes = 180 ∧
      ∀ segment ∈ marked overLimitSegments selection.selected, segment.date < 10 := by
  obtain ⟨selection, _, hselect, -, -, -, -, hprojected, hcompleted, -⟩ :=
    prune_selection_minimal overLimitSegments 10 5 120 180 (by decide) rfl
  refine ⟨selection, hselect, ?_, hprojected, hcompleted⟩
  have hvalue : selectSegments overLimitSegments 10 5 120 180 =
      .ok ⟨[true, true, false, false], 110, 2, 70⟩ := rfl
  rw [← Except.ok.inj (hvalue.symm.trans hselect)]

end SpxSpark.Core
