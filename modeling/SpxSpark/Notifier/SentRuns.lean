import Mathlib.Tactic.Linarith
import SpxSpark.Lib.Run
import SpxSpark.Notifier.SentState

/-!
# SentRuns — dedupe with several writers

Processes load the sent state, select alerts against it, and later save it back or mark alerts as
sent, in any interleaving; each save and each mark is one critical section.
-/

namespace SpxSpark.Notifier

open Lib List

/-! ## Writers -/

/-- An alert marked as sent. -/
structure Mark where
  alert : Alert
  markedAt : ℚ

/-- A selection: its inputs, the snapshot it read, and the marks made until then. -/
structure Selection where
  payload : AlertPayload
  settings : NotificationSettings
  selectedAt : ℚ
  snapshot : SentMap
  seen : List Mark

def Selection.alerts (selection : Selection) : List Alert :=
  selectAlertsForNotification selection.payload selection.settings selection.selectedAt
    selection.snapshot

/-- The file, what each process last read of it, its last selection, and the history. -/
structure Writers where
  stored : SentState := {}
  snapshot : ℕ → SentMap := fun _ => ∅
  selection : ℕ → Option Selection := fun _ => none
  marks : List Mark := []
  acknowledged : List String := []

inductive WriterAction
  | load (process : ℕ)
  | select (process : ℕ) (payload : AlertPayload) (settings : NotificationSettings) (nowTs : ℚ)
  | save (process : ℕ) (acknowledgedEventIds : List String)
  | mark (process : ℕ) (alerts : List Alert) (nowTs : ℚ) (acknowledgedEventIds : List String)

def writerStep (s : Writers) : WriterAction → Unit × Writers
  | .load process =>
    ((), { s with snapshot := Function.update s.snapshot process s.stored.sentAtByKey })
  | .select process payload settings nowTs =>
    ((), { s with
      snapshot := Function.update s.snapshot process s.stored.sentAtByKey
      selection := Function.update s.selection process
        (some ⟨payload, settings, nowTs, s.stored.sentAtByKey, s.marks⟩) })
  | .save process ids =>
    ((), { s with
      stored := saveSentState s.stored (s.snapshot process) ids
      acknowledged := s.acknowledged ++ ids })
  | .mark process alerts nowTs ids =>
    ((), { s with
      stored := markAlertsSent s.stored alerts (s.snapshot process) nowTs ids
      marks := s.marks ++ alerts.map fun alert => ⟨alert, nowTs⟩
      acknowledged := s.acknowledged ++ ids })

/-! ## What the history says -/

/-- The alert is of a rate-limited kind, and of this kind and instrument. -/
def inSlot (kind instrumentId : String) (alert : Alert) : Bool :=
  alert.rateLimited && alert.kind = kind && alert.instrumentId = instrumentId

def timesOfKey (key : SentKey) (marks : List Mark) : List ℚ :=
  (marks.filter fun mark => alertKey mark.alert = key).map (·.markedAt)

def timesOfSlot (kind instrumentId : String) (marks : List Mark) : List ℚ :=
  (marks.filter fun mark => inSlot kind instrumentId mark.alert).map (·.markedAt)

/-- The signed bucket of the last alert of the kind and instrument that was marked with one. -/
def lastBucket (kind instrumentId : String) (marks : List Mark) : Option ℚ :=
  ((marks.filter fun mark => inSlot kind instrumentId mark.alert).filterMap fun mark =>
    signedBucket mark.alert).getLast?

/-- The dictionary holds the latest times and the last buckets of the history. -/
structure Reflects (sent : SentMap) (marks : List Mark) : Prop where
  alertTime : ∀ kind instrumentId dedupGroup,
    IsLatest (sent.lookup (.alert kind instrumentId dedupGroup))
      (timesOfKey (.alert kind instrumentId dedupGroup) marks)
  limitTime : ∀ kind instrumentId,
    IsLatest (sent.lookup (.rateLimitAt kind instrumentId)) (timesOfSlot kind instrumentId marks)
  limitBucket : ∀ kind instrumentId,
    sent.lookup (.rateLimitBucket kind instrumentId) = lastBucket kind instrumentId marks

/-! ## The condition on a step -/

def SentKey.isBucket : SentKey → Bool
  | .rateLimitBucket _ _ => true
  | .alert _ _ _ | .rateLimitAt _ _ => false

/-- The batch gives the slot a bucket of its own. -/
def rewrites (alerts : List Alert) : SentKey → Bool
  | .rateLimitBucket kind instrumentId =>
    alerts.any fun alert => inSlot kind instrumentId alert && (signedBucket alert).isSome
  | .alert _ _ _ | .rateLimitAt _ _ => false

/-- No bucket the writer brings, and does not rewrite, is larger than the stored one. -/
def BucketsCovered (stored brought : SentMap) (alerts : List Alert) : Prop :=
  ∀ entry ∈ brought.entries, entry.1.isBucket = true → rewrites alerts entry.1 = false →
    (stored.lookup entry.1).any (fun bucket => decide (entry.2 ≤ bucket)) = true

/-- The clock of a mark is not behind the times stored for its alerts. -/
def ClockForward (stored : SentMap) (alerts : List Alert) (nowTs : ℚ) : Prop :=
  ∀ alert ∈ alerts,
    (stored.lookup (alertKey alert)).all (fun t => decide (t ≤ nowTs)) = true ∧
      (alert.rateLimited = true →
        (stored.lookup (.rateLimitAt alert.kind alert.instrumentId)).all
          (fun t => decide (t ≤ nowTs)) = true)

/-- The writer's snapshot is no older than the buckets it brings, and its clock is not behind. -/
def UpToDate (s : Writers) : WriterAction → Prop
  | .load _ | .select _ _ _ _ => True
  | .save process _ => BucketsCovered s.stored.sentAtByKey (s.snapshot process) []
  | .mark process alerts nowTs _ =>
    BucketsCovered s.stored.sentAtByKey (s.snapshot process) alerts ∧
      ClockForward s.stored.sentAtByKey alerts nowTs

instance (s : Writers) : (action : WriterAction) → Decidable (UpToDate s action)
  | .load _ | .select _ _ _ _ => .isTrue trivial
  | .save _ _ => inferInstanceAs (Decidable (∀ entry ∈ _, _ → _ → _))
  | .mark _ _ _ _ =>
    inferInstanceAs (Decidable ((∀ entry ∈ _, _ → _ → _) ∧ ∀ alert ∈ _, _ ∧ (_ → _)))

/-! ## Marking a batch -/

section Batch

variable (nowTs : ℚ)

theorem lookup_markAll_alert (kind instrumentId dedupGroup : String) (alerts : List Alert)
    (sent : SentMap) :
    (alerts.foldl (markAlertSent nowTs) sent).lookup (.alert kind instrumentId dedupGroup) =
      if alerts.filter (fun a => alertKey a = .alert kind instrumentId dedupGroup) = [] then
        sent.lookup (.alert kind instrumentId dedupGroup)
      else some nowTs := by
  induction alerts generalizing sent with
  | nil => rfl
  | cons alert rest ih =>
    rw [foldl_cons, ih, lookup_markAlertSent_alert]
    by_cases h : alertKey alert = .alert kind instrumentId dedupGroup
    · simp [h]
    · simp [h]

variable {kind instrumentId : String}

theorem inSlot_iff {alert : Alert} : inSlot kind instrumentId alert ↔
    alert.rateLimited = true ∧ alert.kind = kind ∧ alert.instrumentId = instrumentId := by
  simp [inSlot, and_assoc]

theorem lookup_markAll_rateLimitAt (kind instrumentId : String) (alerts : List Alert)
    (sent : SentMap) :
    (alerts.foldl (markAlertSent nowTs) sent).lookup (.rateLimitAt kind instrumentId) =
      if alerts.filter (inSlot kind instrumentId) = [] then
        sent.lookup (.rateLimitAt kind instrumentId)
      else some nowTs := by
  induction alerts generalizing sent with
  | nil => rfl
  | cons alert rest ih =>
    rw [foldl_cons, ih, lookup_markAlertSent_rateLimitAt]
    by_cases h : inSlot kind instrumentId alert = true
    · rw [filter_cons_of_pos h, if_pos (inSlot_iff.mp h), if_neg (cons_ne_nil _ _), ite_self]
    · rw [filter_cons_of_neg h, if_neg (fun hs => h (inSlot_iff.mpr hs))]

theorem lookup_markAll_rateLimitBucket (kind instrumentId : String) (alerts : List Alert)
    (sent : SentMap) :
    (alerts.foldl (markAlertSent nowTs) sent).lookup (.rateLimitBucket kind instrumentId) =
      (((alerts.filter (inSlot kind instrumentId)).filterMap signedBucket).getLast?).or
        (sent.lookup (.rateLimitBucket kind instrumentId)) := by
  induction alerts generalizing sent with
  | nil => rfl
  | cons alert rest ih =>
    rw [foldl_cons, ih, lookup_markAlertSent_rateLimitBucket]
    by_cases h : inSlot kind instrumentId alert = true
    · rw [filter_cons_of_pos h, if_pos (inSlot_iff.mp h)]
      cases hbucket : signedBucket alert with
      | none => rw [filterMap_cons_none hbucket, Option.none_or]
      | some bucket =>
        rw [filterMap_cons_some hbucket, getLast?_cons, Option.some_or,
          Option.some_or]
        cases ((rest.filter (inSlot kind instrumentId)).filterMap signedBucket).getLast? <;> rfl
    · rw [filter_cons_of_neg h, if_neg (fun hs => h (inSlot_iff.mpr hs))]

end Batch

/-! ## The merge under the condition -/

/-- A snapshot whose times are not ahead of the file's. -/
def TimesCovered (stored brought : SentMap) : Prop :=
  ∀ key t, key.isBucket = false → brought.lookup key = some t →
    ∃ t', stored.lookup key = some t' ∧ t ≤ t'

variable {stored : SentMap}

theorem lookup_merge_time {brought : SentMap} (h : TimesCovered stored brought) {key : SentKey}
    (hkey : key.isBucket = false) :
    (mergeWith max stored brought).lookup key = stored.lookup key := by
  refine lookup_mergeWith_self fun t ht => ?_
  obtain ⟨t', ht', hle⟩ := h key t hkey ht
  exact ⟨t', ht', max_eq_right hle⟩

variable {alerts : List Alert}

theorem lookup_merge_bucket {brought : SentMap} (h : BucketsCovered stored brought alerts)
    (hkept : rewrites alerts (.rateLimitBucket kind instrumentId) = false) :
    (mergeWith max stored brought).lookup (.rateLimitBucket kind instrumentId) =
      stored.lookup (.rateLimitBucket kind instrumentId) := by
  refine lookup_mergeWith_self fun bucket hbucket => ?_
  have hcovered := h ⟨_, bucket⟩ (AList.mem_lookup_iff.mp hbucket) rfl hkept
  obtain ⟨old, hold, hle⟩ := (Option.any_eq_true _ _).mp hcovered
  exact ⟨old, hold, max_eq_right (of_decide_eq_true hle)⟩

theorem isLatest_append_batch (t : ℚ) (batch : List ℚ) {value : Option ℚ} {history : List ℚ}
    (h : IsLatest value history) (hbatch : ∀ x ∈ batch, x = t)
    (hle : batch ≠ [] → ∀ old, value = some old → old ≤ t) :
    IsLatest (if batch = [] then value else some t) (history ++ batch) := by
  cases batch with
  | nil =>
    rw [if_pos rfl, append_nil]
    exact h
  | cons x rest =>
    rw [if_neg (cons_ne_nil _ _)]
    refine ⟨fun y hy => ?_, fun y hy => ⟨t, rfl, ?_⟩⟩
    · obtain rfl := Option.some.inj hy
      rw [← hbatch x (by simp)]
      simp
    · rcases mem_append.mp hy with hy | hy
      · obtain ⟨old, hold, hyold⟩ := h.2 y hy
        exact le_trans hyold (hle (cons_ne_nil _ _) old hold)
      · exact le_of_eq (hbatch y hy)

theorem timesOfKey_append (key : SentKey) (marks : List Mark) (alerts : List Alert) (nowTs : ℚ) :
    timesOfKey key (marks ++ alerts.map fun alert => ⟨alert, nowTs⟩) =
      timesOfKey key marks ++
        (alerts.filter fun alert => alertKey alert = key).map fun _ => nowTs := by
  unfold timesOfKey
  rw [filter_append, map_append, filter_map, map_map]
  rfl

theorem timesOfSlot_append (kind instrumentId : String) (marks : List Mark)
    (alerts : List Alert) (nowTs : ℚ) :
    timesOfSlot kind instrumentId (marks ++ alerts.map fun alert => ⟨alert, nowTs⟩) =
      timesOfSlot kind instrumentId marks ++
        (alerts.filter (inSlot kind instrumentId)).map fun _ => nowTs := by
  unfold timesOfSlot
  rw [filter_append, map_append, filter_map, map_map]
  rfl

theorem lastBucket_append (kind instrumentId : String) (marks : List Mark)
    (alerts : List Alert) (nowTs : ℚ) :
    lastBucket kind instrumentId (marks ++ alerts.map fun alert => ⟨alert, nowTs⟩) =
      (((alerts.filter (inSlot kind instrumentId)).filterMap signedBucket).getLast?).or
        (lastBucket kind instrumentId marks) := by
  unfold lastBucket
  rw [filter_append, filterMap_append, getLast?_append, filter_map,
    filterMap_map]
  rfl

theorem getLast?_of_not_rewrites
    (h : ((alerts.filter (inSlot kind instrumentId)).filterMap signedBucket).getLast? = none) :
    rewrites alerts (.rateLimitBucket kind instrumentId) = false := by
  rw [getLast?_eq_none_iff, filterMap_eq_nil_iff] at h
  unfold rewrites
  rw [any_eq_false]
  intro alert halert hboth
  rw [Bool.and_eq_true] at hboth
  have hnone := h alert (mem_filter.mpr ⟨halert, hboth.1⟩)
  rw [hnone] at hboth
  exact absurd hboth.2 (by decide)

theorem exists_of_filter_ne_nil {p : Alert → Bool} (h : alerts.filter p ≠ []) :
    ∃ alert ∈ alerts, p alert = true := by
  obtain ⟨alert, halert⟩ := exists_mem_of_ne_nil _ h
  exact ⟨alert, mem_filter.mp halert⟩

theorem ClockForward.key_le {nowTs old : ℚ} {key : SentKey} (h : ClockForward stored alerts nowTs)
    (hne : alerts.filter (fun alert => alertKey alert = key) ≠ [])
    (hold : stored.lookup key = some old) : old ≤ nowTs := by
  obtain ⟨alert, hmem, hkey⟩ := exists_of_filter_ne_nil hne
  have hforward := (h alert hmem).1
  rw [of_decide_eq_true hkey, hold] at hforward
  exact of_decide_eq_true hforward

theorem ClockForward.slot_le {nowTs old : ℚ} (h : ClockForward stored alerts nowTs)
    (hne : alerts.filter (inSlot kind instrumentId) ≠ [])
    (hold : stored.lookup (.rateLimitAt kind instrumentId) = some old) : old ≤ nowTs := by
  obtain ⟨alert, hmem, hslot⟩ := exists_of_filter_ne_nil hne
  obtain ⟨⟨hlimited, hkind⟩, hinstrument⟩ : (alert.rateLimited = true ∧ alert.kind = kind) ∧
      alert.instrumentId = instrumentId := by
    simpa [inSlot] using hslot
  have hforward := (h alert hmem).2 hlimited
  rw [hkind, hinstrument, hold] at hforward
  exact of_decide_eq_true hforward

theorem reflects_mark (nowTs : ℚ) {brought : SentMap} {marks : List Mark}
    (h : Reflects stored marks) (htimes : TimesCovered stored brought)
    (hbuckets : BucketsCovered stored brought alerts) (hclock : ClockForward stored alerts nowTs) :
    Reflects (alerts.foldl (markAlertSent nowTs) (mergeWith max stored brought))
      (marks ++ alerts.map fun alert => ⟨alert, nowTs⟩) := by
  constructor
  · intro kind instrumentId dedupGroup
    rw [lookup_markAll_alert, lookup_merge_time htimes rfl, timesOfKey_append]
    have hbatch := isLatest_append_batch nowTs
      ((alerts.filter fun alert =>
        alertKey alert = .alert kind instrumentId dedupGroup).map fun _ => nowTs)
      (h.alertTime kind instrumentId dedupGroup) (by simp) ?_
    · simpa only [map_eq_nil_iff] using hbatch
    · intro hne old hold
      exact hclock.key_le (fun hnil => hne (map_eq_nil_iff.mpr hnil)) hold
  · intro kind instrumentId
    rw [lookup_markAll_rateLimitAt, lookup_merge_time htimes rfl, timesOfSlot_append]
    have hbatch := isLatest_append_batch nowTs
      ((alerts.filter (inSlot kind instrumentId)).map fun _ => nowTs)
      (h.limitTime kind instrumentId) (by simp) ?_
    · simpa only [map_eq_nil_iff] using hbatch
    · intro hne old hold
      exact hclock.slot_le (fun hnil => hne (map_eq_nil_iff.mpr hnil)) hold
  · intro kind instrumentId
    rw [lookup_markAll_rateLimitBucket, lastBucket_append]
    cases hlast : ((alerts.filter (inSlot kind instrumentId)).filterMap signedBucket).getLast? with
    | some bucket => rfl
    | none =>
      rw [Option.none_or, Option.none_or,
        lookup_merge_bucket hbuckets (getLast?_of_not_rewrites hlast)]
      exact h.limitBucket kind instrumentId

theorem timesCovered_mark {brought snapshot : SentMap} {nowTs : ℚ}
    (hbrought : TimesCovered stored brought) (hclock : ClockForward stored alerts nowTs)
    (hsnapshot : TimesCovered stored snapshot) :
    TimesCovered (alerts.foldl (markAlertSent nowTs) (mergeWith max stored brought)) snapshot := by
  intro key t hkey ht
  obtain ⟨t', ht', hle⟩ := hsnapshot key t hkey ht
  cases key with
  | rateLimitBucket kind instrumentId => cases hkey
  | alert kind instrumentId dedupGroup =>
    rw [lookup_markAll_alert, lookup_merge_time hbrought rfl]
    split
    · exact ⟨t', ht', hle⟩
    · rename_i hne
      exact ⟨nowTs, rfl, le_trans hle (hclock.key_le hne ht')⟩
  | rateLimitAt kind instrumentId =>
    rw [lookup_markAll_rateLimitAt, lookup_merge_time hbrought rfl]
    split
    · exact ⟨t', ht', hle⟩
    · rename_i hne
      exact ⟨nowTs, rfl, le_trans hle (hclock.slot_le hne ht')⟩

/-! ## The invariant of a run -/

/-- The file reflects the marks made, and selections reflect those they saw. -/
structure Consistent (s : Writers) : Prop where
  reflects : Reflects s.stored.sentAtByKey s.marks
  snapshots : ∀ process, TimesCovered s.stored.sentAtByKey (s.snapshot process)
  selections : ∀ process selection, s.selection process = some selection →
    Reflects selection.snapshot selection.seen ∧ selection.seen <+: s.marks

theorem consistent_start : Consistent {} where
  reflects :=
    { alertTime := fun _ _ _ => isLatest_nil
      limitTime := fun _ _ => isLatest_nil
      limitBucket := fun _ _ => rfl }
  snapshots := fun _ key t _ ht => by cases ht
  selections := fun _ _ h => by cases h

theorem timesCovered_refl (sent : SentMap) : TimesCovered sent sent :=
  fun _ t _ ht => ⟨t, ht, le_rfl⟩

theorem snapshots_update {snapshot : ℕ → SentMap} (process : ℕ)
    (h : ∀ process, TimesCovered stored (snapshot process)) :
    ∀ other, TimesCovered stored (Function.update snapshot process stored other) := by
  intro other
  by_cases hother : other = process
  · rw [hother, Function.update_self]
    exact timesCovered_refl stored
  · rw [Function.update_of_ne hother]
    exact h other

theorem writerStep_consistent {s : Writers} {action : WriterAction} (h : Consistent s)
    (hup : UpToDate s action) : Consistent (writerStep s action).2 := by
  cases action with
  | load process =>
    exact ⟨h.reflects, snapshots_update process h.snapshots, h.selections⟩
  | select process payload settings nowTs =>
    refine ⟨h.reflects, snapshots_update process h.snapshots, ?_⟩
    intro other selection hselection
    by_cases hother : other = process
    · have hself : some (Selection.mk payload settings nowTs s.stored.sentAtByKey s.marks) =
          some selection := by
        rw [← hselection, hother]
        exact (Function.update_self process _ s.selection).symm
      obtain rfl := Option.some.inj hself
      exact ⟨h.reflects, prefix_refl _⟩
    · refine h.selections other selection ?_
      rw [← hselection]
      exact (Function.update_of_ne hother _ _).symm
  | save process ids =>
    have hbuckets : BucketsCovered s.stored.sentAtByKey (s.snapshot process) [] := hup
    have hclock : ClockForward s.stored.sentAtByKey [] 0 := by
      intro alert halert
      cases halert
    have hmark := reflects_mark 0 h.reflects (h.snapshots process) hbuckets hclock
    rw [map_nil, append_nil] at hmark
    refine ⟨hmark, ?_, h.selections⟩
    · intro other
      exact timesCovered_mark (h.snapshots process) hclock (h.snapshots other)
  | mark process alerts nowTs ids =>
    obtain ⟨hbuckets, hclock⟩ := hup
    refine ⟨reflects_mark _ h.reflects (h.snapshots process) hbuckets hclock, ?_, ?_⟩
    · intro other
      exact timesCovered_mark (h.snapshots process) hclock (h.snapshots other)
    · intro other selection hselection
      obtain ⟨hreflects, hprefix⟩ := h.selections other selection hselection
      exact ⟨hreflects, hprefix.trans (prefix_append _ _)⟩

theorem writerStep_acknowledged {s : Writers} (action : WriterAction)
    (h : ∀ id ∈ s.acknowledged, id ≠ "" → id ∈ s.stored.acknowledgedEventIds) :
    ∀ id ∈ (writerStep s action).2.acknowledged, id ≠ "" →
      id ∈ (writerStep s action).2.stored.acknowledgedEventIds := by
  intro id hid hne
  cases action with
  | load process => exact h id hid hne
  | select process payload settings nowTs => exact h id hid hne
  | save process ids | mark process alerts nowTs ids =>
    refine mem_mergeEventIds.mpr ⟨?_, hne⟩
    rcases mem_append.mp hid with hid | hid
    · exact Or.inl (h id hid hne)
    · exact Or.inr hid

/-! ## Dedupe with several writers -/

/-- Two signed buckets of different direction, or at least two steps apart. -/
def BreaksThrough (bucket previous : ℚ) : Prop :=
  bucket * previous < 0 ∨ bucketJumpOverrideSteps ≤ |bucket - previous|

theorem breaksThrough_of_flip {bucket previous : ℚ} (hb : bucket ≠ 0) (hp : previous ≠ 0)
    (h : decide (0 < bucket) ≠ decide (0 < previous)) : bucket * previous < 0 := by
  rcases lt_or_gt_of_ne hb with hb | hb <;> rcases lt_or_gt_of_ne hp with hp | hp
  · simp [not_lt_of_gt hb, not_lt_of_gt hp] at h
  · exact mul_neg_of_neg_of_pos hb hp
  · exact mul_neg_of_pos_of_neg hb hp
  · simp [hb, hp] at h

theorem slot_split {seen rest : List Mark}
    (h : ∀ mark ∈ rest, inSlot kind instrumentId mark.alert = false) :
    timesOfSlot kind instrumentId (seen ++ rest) = timesOfSlot kind instrumentId seen ∧
      lastBucket kind instrumentId (seen ++ rest) = lastBucket kind instrumentId seen := by
  unfold timesOfSlot lastBucket
  rw [filter_append, (filter_eq_nil_iff (l := rest)).mpr (by simpa using h),
    append_nil]
  exact ⟨rfl, rfl⟩

/-- In every interleaving whose saves and marks are up to date the stored time of an alert key is
the latest it was marked at and the stored bucket of a kind and instrument that of the last alert
marked with one; and an alert below critical of a rate-limited kind that a process selected, with
no mark of its kind and instrument since, be it earlier in the same batch, breaks through the
bucket sent before whenever the last mark is within the window. Acknowledged ids are kept in every
interleaving. -/
theorem alert_dedupe {events : List (WriterAction × Unit)} {s : Writers}
    (h : Run writerStep UpToDate {} events s) : (∀ kind instrumentId dedupGroup,
      IsLatest (s.stored.sentAtByKey.lookup (.alert kind instrumentId dedupGroup))
        (timesOfKey (.alert kind instrumentId dedupGroup) s.marks)) ∧
    (∀ kind instrumentId, s.stored.sentAtByKey.lookup (.rateLimitBucket kind instrumentId) =
      lastBucket kind instrumentId s.marks) ∧
    (∀ (events' : List (WriterAction × Unit)) (s' : Writers),
      Run writerStep anyStep {} events' s' →
      ∀ id ∈ s'.acknowledged, id ≠ "" → id ∈ s'.stored.acknowledgedEventIds) ∧
    ∀ (process : ℕ) (selection : Selection) (earlier : List Alert) (alert : Alert) (mark : Mark)
      (nowTs : ℚ) (past : List Mark),
      past = s.marks ++ earlier.map (fun before => ⟨before, nowTs⟩) →
      s.selection process = some selection → alert ∈ selection.alerts →
      selection.selectedAt ≤ nowTs →
      (∀ later ∈ past.drop selection.seen.length,
        inSlot alert.kind alert.instrumentId later.alert = false) →
      alert.rateLimited = true → severityValue alert.severity < severityValue "critical" →
      mark ∈ past → inSlot alert.kind alert.instrumentId mark.alert = true →
      nowTs - mark.markedAt < selection.settings.kindRateLimitSeconds →
      signedBucket alert ≠ some 0 → lastBucket alert.kind alert.instrumentId past ≠ some 0 →
      0 < selection.settings.kindRateLimitSeconds →
      ∃ bucket previous, signedBucket alert = some bucket ∧
        lastBucket alert.kind alert.instrumentId past = some previous ∧
        BreaksThrough bucket previous := by
  have hconsistent : Consistent s :=
    h.invariant consistent_start fun _ _ hs hup => writerStep_consistent hs hup
  refine ⟨hconsistent.reflects.alertTime, hconsistent.reflects.limitBucket, ?_, ?_⟩
  · intro events' s' h'
    refine h'.invariant (I := fun s => ∀ id ∈ s.acknowledged, id ≠ "" →
      id ∈ s.stored.acknowledgedEventIds) ?_ fun _ action hs _ => writerStep_acknowledged action hs
    intro id hid
    cases hid
  · intro process selection earlier alert mark nowTs past hpast hselection halert hlater hfresh
      hlimited hseverity hmark hslot hwindow hbucket hlast hpositive
    obtain ⟨hreflects, hprefix⟩ := hconsistent.selections process selection hselection
    obtain ⟨rest, hrest⟩ : selection.seen <+: past := by
      rw [hpast]
      exact hprefix.trans (prefix_append _ _)
    rw [← hrest, drop_left] at hfresh
    rw [← hrest] at hmark hlast ⊢
    obtain ⟨htimes, hsame⟩ := slot_split hfresh
    rw [hsame] at hlast ⊢
    -- the mark is among those the selection saw, so the stored limit time is at least its time
    have htime : mark.markedAt ∈ timesOfSlot alert.kind alert.instrumentId selection.seen := by
      rw [← htimes]
      exact mem_map_of_mem (mem_filter.mpr ⟨hmark, hslot⟩)
    obtain ⟨lastTs, hlastTs, hle⟩ :=
      (hreflects.limitTime alert.kind alert.instrumentId).2 _ htime
    have hselected : selects selection.payload selection.settings selection.selectedAt
        selection.snapshot alert = true := (mem_filter.mp halert).2
    obtain ⟨bucket, previous, hb, hp, hbreaks⟩ :=
      kindRateLimitBlocks_false hpositive hlimited hseverity hlastTs (by linarith)
        (selects_not_rateLimited hselected)
    rw [hreflects.limitBucket] at hp
    refine ⟨bucket, previous, hb, hp, ?_⟩
    rcases hbreaks with hflip | hjump
    · refine Or.inl (breaksThrough_of_flip ?_ ?_ hflip)
      · rintro rfl
        exact hbucket hb
      · rintro rfl
        exact hlast hp
    · exact Or.inr hjump

/-! ## Two writers -/

def skewAlert (dedupGroup : String) : Alert :=
  { kind := "put_skew_steepening_5m", instrumentId := "iv_surface:SPXW", severity := "high"
    dedupGroup := some dedupGroup }

def hourLimit : NotificationSettings := ⟨"medium", 900, 3600⟩

/-- One process sends `up:1`, then selects `up:3` ten minutes later. -/
def jumpActions : List WriterAction :=
  [.select 1 ⟨some [skewAlert "up:1"], false⟩ hourLimit 0, .mark 1 [skewAlert "up:1"] 0 ["a"],
    .select 1 ⟨some [skewAlert "up:3"], false⟩ hourLimit 600]

theorem jumpActions_upToDate : Allowed writerStep UpToDate {} jumpActions := by
  decide +kernel

/-- After it the stored bucket is that of `up:1`. -/
theorem alert_dedupe_jump : (play writerStep {} jumpActions).2.stored.sentAtByKey.lookup
        (.rateLimitBucket "put_skew_steepening_5m" "iv_surface:SPXW") =
      lastBucket "put_skew_steepening_5m" "iv_surface:SPXW"
        (play writerStep {} jumpActions).2.marks :=
  (alert_dedupe (Run.play jumpActions_upToDate)).2.1 _ _

/-- A process that read `up:5` saves after another has sent `down:3`. -/
def staleActions : List WriterAction :=
  [.mark 1 [skewAlert "up:5"] 0 [], .load 1, .load 2, .mark 2 [skewAlert "down:3"] 600 [],
    .save 1 []]

/-- The stale save brings the bucket of `up:5` back. -/
theorem stale_bucket_returns : ¬∀ (events : List (WriterAction × Unit)) (s : Writers),
      Run writerStep anyStep {} events s →
      ∀ kind instrumentId, s.stored.sentAtByKey.lookup (.rateLimitBucket kind instrumentId) =
        lastBucket kind instrumentId s.marks := by
  intro h
  have hrun := run_play writerStep staleActions {}
  exact absurd (h _ _ hrun "put_skew_steepening_5m" "iv_surface:SPXW") (by decide +kernel)

end SpxSpark.Notifier
