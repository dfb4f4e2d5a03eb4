import SpxSpark.Lib.Recent
import SpxSpark.Lib.Run
import SpxSpark.MarketFeatures.ProducerLedger

/-!
# ProducerLedgerRuns — stops and failed writes over a day

A day's file is whole, so its lines are the records of distinct identities, or torn, so a last line
reads as no value.
-/

namespace SpxSpark.MarketFeatures.ProducerLedger

open Lib Domain List

variable (env : Environment)

/-! ## Reading a file -/

/-- The identities that can be read in a file, whole or not. -/
def EventsFile.recordIds (file : EventsFile) : List Text :=
  (splitlines file.text).filterMap fun line => (Json.parse line).bind payloadRecordId

/-- A line's value: an object with an identity, printed without a line break. -/
structure IsRecord (payload : Json) : Prop where
  object : payload.isObject = true
  identified : ∃ recordId, payloadRecordId payload = some recordId
  line : IsLine payload.render

/-- The lines of the payloads, and what is left of a line behind them. -/
structure Holds (file : EventsFile) (payloads : List Json) (rest : Text) : Prop where
  text : file.text = joinLines (payloads.map Json.render) ++ rest
  records : ∀ payload ∈ payloads, IsRecord payload
  distinct : (payloads.filterMap payloadRecordId).Nodup

/-- The file is the lines of the payloads and no more. -/
structure Whole (file : EventsFile) (payloads : List Json) : Prop extends
    Holds file payloads [] where
  uncut : file.cut = false

/-- The last line, or the last character, is not complete. -/
def Torn (file : EventsFile) (payloads : List Json) : Prop :=
  ∃ rest, Holds file payloads rest ∧ IsLine rest ∧ Json.parse rest = none ∧
    (file.cut = true ∨ rest ≠ [])

variable {payloads : List Json}

theorem isLine_renders (h : ∀ payload ∈ payloads, IsRecord payload) :
    ∀ line ∈ payloads.map Json.render, IsLine line := by
  intro line hline
  obtain ⟨payload, hpayload, rfl⟩ := mem_map.mp hline
  exact (h payload hpayload).line

theorem splitlines_rest {rest : Text} (hline : IsLine rest) :
    splitlines rest = if rest = [] then [] else [rest] := by
  split_ifs with hnil
  · rw [hnil]
    rfl
  · exact splitlines_line hline hnil

variable {file : EventsFile}

theorem Holds.recordIds {rest : Text} (h : Holds file payloads rest) (hline : IsLine rest)
    (hrest : Json.parse rest = none) : file.recordIds = payloads.filterMap payloadRecordId := by
  have hread : (splitlines rest).filterMap
      (fun line => (Json.parse line).bind payloadRecordId) = [] := by
    rw [splitlines_rest hline]
    split_ifs
    · rfl
    · simp [hrest]
  unfold EventsFile.recordIds
  rw [h.text, splitlines_joinLines (isLine_renders h.records), filterMap_append, hread,
    append_nil, filterMap_map]
  congr 1
  funext payload
  rw [Function.comp_apply, Json.parse_render, Option.bind_some]

variable {recordId : Text}

theorem lineRecordId_render {payload : Json} (hid : payloadRecordId payload = some recordId)
    (lineNumber : Nat) : lineRecordId lineNumber payload.render = .ok recordId := by
  unfold lineRecordId
  rw [if_neg payload.render_ne_nil, Json.parse_render]
  simp only [hid]

theorem lineRecordIds_renders (h : ∀ payload ∈ payloads, IsRecord payload) (lineNumber : Nat) :
    lineRecordIds lineNumber (payloads.map Json.render) =
      .ok (payloads.filterMap payloadRecordId) := by
  induction payloads generalizing lineNumber with
  | nil => rfl
  | cons payload payloads ih =>
    have hpayload := h payload mem_cons_self
    obtain ⟨recordId, hid⟩ := hpayload.identified
    have hrest := ih (fun other hother => h other (mem_cons_of_mem payload hother))
      (lineNumber + 1)
    rw [map_cons, lineRecordIds, lineRecordId_render hid, hrest,
      filterMap_cons_some hid]
    rfl

theorem lineRecordIds_torn (h : ∀ payload ∈ payloads, IsRecord payload) {rest : Text}
    (hne : rest ≠ []) (hrest : Json.parse rest = none) (lineNumber : Nat) :
    ∃ error, lineRecordIds lineNumber (payloads.map Json.render ++ [rest]) = .error error := by
  induction payloads generalizing lineNumber with
  | nil =>
    refine ⟨.jsonlInvalid lineNumber, ?_⟩
    rw [map_nil, nil_append, lineRecordIds, lineRecordId, if_neg hne, hrest]
    rfl
  | cons payload payloads ih =>
    have hpayload := h payload mem_cons_self
    obtain ⟨recordId, hid⟩ := hpayload.identified
    obtain ⟨error, herror⟩ := ih
      (fun other hother => h other (mem_cons_of_mem payload hother)) (lineNumber + 1)
    refine ⟨error, ?_⟩
    rw [map_cons, cons_append, lineRecordIds, lineRecordId_render hid, herror]
    rfl

theorem Whole.strict (h : Whole file payloads) :
    strictJsonlRecordIds file = .ok (payloads.filterMap payloadRecordId) := by
  unfold strictJsonlRecordIds
  rw [h.uncut, if_neg (by decide), h.text, splitlines_joinLines (isLine_renders h.records)]
  show lineRecordIds 1 (_ ++ []) = _
  rw [append_nil]
  exact lineRecordIds_renders h.records 1

theorem Torn.strict (h : Torn file payloads) :
    ∃ error, strictJsonlRecordIds file = .error error := by
  obtain ⟨rest, hholds, hline, hparse, hcut⟩ := h
  unfold strictJsonlRecordIds
  by_cases hc : file.cut = true
  · exact ⟨.unicodeDecodeError, by rw [if_pos hc]⟩
  · have hne : rest ≠ [] := hcut.resolve_left hc
    rw [if_neg hc, hholds.text, splitlines_joinLines (isLine_renders hholds.records),
      splitlines_line hline hne]
    exact lineRecordIds_torn hholds.records hne hparse 1

theorem parse_nil : Json.parse [] = none := rfl

theorem isLine_nil : IsLine [] := by
  intro c hc
  cases hc

theorem Whole.recordIds (h : Whole file payloads) :
    file.recordIds = payloads.filterMap payloadRecordId :=
  h.toHolds.recordIds isLine_nil parse_nil

theorem Torn.recordIds (h : Torn file payloads) :
    file.recordIds = payloads.filterMap payloadRecordId := by
  obtain ⟨rest, hholds, hline, hparse, -⟩ := h
  exact hholds.recordIds hline hparse

/-! ## Appending a line -/

theorem Record.json_isObject (record : Record) : (record.json env).isObject = true := by
  cases record <;> rfl

theorem Record.payloadRecordId_json (record : Record) :
    payloadRecordId (record.json env) = some record.recordId := by
  cases record <;> rfl

variable {record : Record}

theorem Record.isRecord (h : IsLine (record.text env)) : IsRecord (record.json env) where
  object := record.json_isObject env
  identified := ⟨record.recordId, record.payloadRecordId_json env⟩
  line := h

variable {env}

variable {written : Nat}

theorem Whole.appended (h : Whole file payloads) (hline : IsLine (record.text env))
    (hfresh : record.recordId ∉ payloads.filterMap payloadRecordId)
    (hwritten : (record.line env).length ≤ written) (cut : Bool) :
    Whole (file.append env record written cut) (payloads ++ [record.json env]) where
  text := by
    show file.text ++ (record.line env).take written = _
    rw [h.text, take_of_length_le hwritten, map_append]
    simp [joinLines, Record.line, Record.text]
  records := by
    intro payload hpayload
    rcases mem_append.mp hpayload with hold | hnew
    · exact h.records payload hold
    · rw [mem_singleton.mp hnew]
      exact Record.isRecord env hline
  distinct := by
    rw [filterMap_append]
    refine nodup_append.mpr ⟨h.distinct, ?_, ?_⟩
    · simp [record.payloadRecordId_json env]
    · intro a ha b hb
      simp only [filterMap_cons, record.payloadRecordId_json env, filterMap_nil,
        mem_singleton] at hb
      rintro rfl
      exact hfresh (hb ▸ ha)
  uncut := by
    have hshort : (record.text env).length ≤ written := by
      rw [Record.line, length_append] at hwritten
      omega
    show (file.cut || (cut && decide (written < (record.text env).length))) = false
    rw [h.uncut, decide_eq_false (Nat.not_lt.mpr hshort), Bool.and_false]
    rfl

theorem append_untouched (file : EventsFile) (record : Record) :
    file.append env record 0 false = file := by
  unfold EventsFile.append
  simp

theorem parse_beginning (hshort : written < (record.text env).length) :
    Json.parse ((record.line env).take written) = none := by
  have htake : (record.line env).take written = (record.text env).take written :=
    take_append_of_le_length hshort.le
  rw [htake]
  refine Json.parse_torn (record.json_isObject env)
    (take_append_drop written (record.text env)).symm ?_
  intro hnil
  have hlength := congrArg List.length hnil
  rw [length_drop] at hlength
  simp at hlength
  omega

theorem isLine_take {text : Text} (h : IsLine text) (written : Nat) : IsLine (text.take written) :=
  fun c hc => h c (mem_of_mem_take hc)

theorem Whole.torn (h : Whole file payloads) (hline : IsLine (record.text env)) {cut : Bool}
    (hend : appendEnd env record written cut = .torn) :
    Torn (file.append env record written cut) payloads := by
  unfold appendEnd at hend
  split_ifs at hend with huntouched hwhole hnewline
  have hshort : written < (record.text env).length := by
    rw [Record.line, length_append, length_singleton] at hwhole
    omega
  have htake : (record.line env).take written = (record.text env).take written :=
    take_append_of_le_length hshort.le
  refine ⟨(record.line env).take written, ⟨?_, h.records, h.distinct⟩, ?_, parse_beginning hshort,
    ?_⟩
  · show file.text ++ (record.line env).take written = _
    rw [h.text, append_nil]
  · rw [htake]
    exact isLine_take hline written
  · by_cases hcut : cut = true
    · left
      show (file.cut || (cut && decide (written < (record.text env).length))) = true
      rw [hcut, decide_eq_true hshort, Bool.and_true, Bool.or_true]
    · right
      intro hnil
      have hwritten : written ≠ 0 := by
        intro hzero
        exact huntouched ⟨hzero, by simpa using hcut⟩
      have hlength := congrArg List.length hnil
      rw [length_take, Record.line, length_append] at hlength
      simp at hlength
      omega

/-! ## One record -/

/-- The days other than `day`, and the state file, are as before. -/
structure OnlyDay (day : Int) (store store' : Store) : Prop where
  state : store'.state = store.state
  events : ∀ other, other ≠ day → store'.events other = store.events other

theorem OnlyDay.refl (day : Int) (store : Store) : OnlyDay day store store where
  state := rfl
  events := fun _ _ => rfl

variable {day : Int}

theorem OnlyDay.trans {s t u : Store} (h : OnlyDay day s t) (h' : OnlyDay day t u) :
    OnlyDay day s u where
  state := h'.state.trans h.state
  events := fun other hother => (h'.events other hother).trans (h.events other hother)

theorem onlyDay_appendEvents (store : Store) (record : Record) (written : Nat) (cut : Bool) :
    OnlyDay record.tradingDate store (store.appendEvents env record written cut) where
  state := rfl
  events := fun _ hother => Function.update_of_ne hother _ _

theorem appendEvents_events (store : Store) (record : Record) (written : Nat) (cut : Bool) :
    (store.appendEvents env record written cut).events record.tradingDate =
      (store.events record.tradingDate).append env record written cut :=
  Function.update_self _ _ _

def listedIds (records : List StateRecord) : List Text := records.map (·.recordId)

/-- The records were looked up: their identities are in the day's file and in the dictionary. -/
structure Advanced (day : Int) (payloads : List Json) (records : List Record)
    (before after : Progress) : Prop where
  whole : ∃ more, Whole (after.store.events day) (payloads ++ more)
  onlyDay : OnlyDay day before.store after.store
  filed : ∀ record ∈ records, record.recordId ∈ (after.store.events day).recordIds
  listed : ∀ record ∈ records, record.recordId ∈ listedIds after.stateRecords
  kept : ∀ recordId ∈ listedIds before.stateRecords, recordId ∈ listedIds after.stateRecords
  unchanged : after.stateChanged = false →
    before.stateChanged = false ∧ after.stateRecords = before.stateRecords

/-- The call ended early: the day's file is whole, or the answer says that it is torn. -/
structure Interrupted (day : Int) (payloads : List Json) (store : Store) (answer : Answer)
    (store' : Store) : Prop where
  failed : answer.isOk = false
  onlyDay : OnlyDay day store store'
  file : (∃ more, Whole (store'.events day) (payloads ++ more)) ∧
      (∀ other, answer ≠ .appendStopped other .torn) ∨
    (∃ more, Torn (store'.events day) (payloads ++ more)) ∧ answer = .appendStopped day .torn

theorem listedIds_note (progress : Progress) (record : Record) (status : ObservationStatus)
    (recordId : Text) : recordId ∈ listedIds (progress.note record status).stateRecords ↔
      recordId ∈ listedIds progress.stateRecords ∨ recordId = record.recordId := by
  have hstate : record.stateRecord.recordId = record.recordId := by cases record <;> rfl
  show recordId ∈ (if progress.stateRecords.any (·.recordId = record.recordId) = true then
    progress.stateRecords else progress.stateRecords ++ [record.stateRecord]).map (·.recordId) ↔ _
  unfold listedIds
  by_cases hknown : progress.stateRecords.any (·.recordId = record.recordId) = true
  · rw [if_pos hknown]
    refine ⟨Or.inl, ?_⟩
    rintro (hold | rfl)
    · exact hold
    · obtain ⟨old, hold, hid⟩ := any_eq_true.mp hknown
      exact mem_map.mpr ⟨old, hold, by simpa using hid⟩
  · rw [if_neg hknown, map_append, mem_append, map_singleton, mem_singleton,
      hstate]

variable {progress : Progress}

theorem note_unchanged {status : ObservationStatus}
    (h : (progress.note record status).stateChanged = false) : progress.stateChanged = false ∧
      (progress.note record status).stateRecords = progress.stateRecords := by
  unfold Progress.note at h ⊢
  simp only [Bool.or_eq_false_iff, Bool.not_eq_false'] at h
  exact ⟨h.1, by simp only [h.2, if_true]⟩

variable {store : Store} {more : List Json}

theorem advanced_note (status : ObservationStatus)
    (hwhole : Whole (store.events day) (payloads ++ more))
    (honly : OnlyDay day progress.store store)
    (hfiled : record.recordId ∈ (payloads ++ more).filterMap payloadRecordId) :
    Advanced day payloads [record] progress ({ progress with store }.note record status) where
  whole := ⟨more, hwhole⟩
  onlyDay := honly
  filed := by
    intro other hother
    rw [mem_singleton.mp hother]
    exact hwhole.recordIds ▸ hfiled
  listed := by
    intro other hother
    rw [mem_singleton.mp hother]
    exact (listedIds_note _ record status _).mpr (Or.inr rfl)
  kept := by
    intro recordId hkept
    exact (listedIds_note _ record status _).mpr (Or.inl hkept)
  unchanged := note_unchanged

theorem interrupted_append (hwhole : Whole (store.events record.tradingDate) payloads)
    (hline : IsLine (record.text env))
    (hfresh : record.recordId ∉ payloads.filterMap payloadRecordId) {cut : Bool}
    (hnewline : written ≠ (record.text env).length) : Interrupted record.tradingDate payloads store
      (.appendStopped record.tradingDate (appendEnd env record written cut))
      (store.appendEvents env record written cut) where
  failed := rfl
  onlyDay := onlyDay_appendEvents store record written cut
  file := by
    rw [appendEvents_events]
    cases hend : appendEnd env record written cut with
    | torn =>
      right
      refine ⟨⟨[], ?_⟩, rfl⟩
      rw [append_nil]
      exact hwhole.torn hline hend
    | newlineMissing =>
      unfold appendEnd at hend
      split_ifs at hend
    | untouched =>
      left
      refine ⟨⟨[], ?_⟩, fun other h => by cases h⟩
      unfold appendEnd at hend
      split_ifs at hend with huntouched
      obtain ⟨rfl, rfl⟩ := huntouched
      rw [append_untouched, append_nil]
      exact hwhole
    | whole =>
      left
      refine ⟨⟨[record.json env], ?_⟩, fun other h => by cases h⟩
      unfold appendEnd at hend
      split_ifs at hend with _ hwritten
      exact hwhole.appended hline hfresh hwritten cut

variable {stop : Option Stop}

theorem recordOne_spec {index : Nat} (hline : IsLine (record.text env))
    (hstop : ∀ cut, Stop.inAppend index stop ≠ some ((record.text env).length, cut))
    (hwhole : Whole (progress.store.events record.tradingDate) payloads) :
    (∃ after, recordOne env stop index record progress = .ok after ∧
      Advanced record.tradingDate payloads [record] progress after) ∨
    stop ≠ none ∧ ∃ answer store', recordOne env stop index record progress =
      .error (answer, store') ∧
      Interrupted record.tradingDate payloads progress.store answer store' := by
  unfold recordOne
  by_cases hbefore : stop = some (.before index)
  · rw [if_pos hbefore]
    refine Or.inr ⟨?_, .stopped, progress.store, rfl, rfl, OnlyDay.refl _ _, Or.inl ⟨⟨[], ?_⟩, ?_⟩⟩
    · rw [hbefore]
      simp
    · rw [append_nil]
      exact hwhole
    · intro other h
      cases h
  rw [if_neg hbefore, hwhole.strict]
  simp only
  by_cases hmem : record.recordId ∈ payloads.filterMap payloadRecordId
  · rw [if_pos hmem]
    rw [← append_nil payloads] at hwhole hmem
    exact Or.inl ⟨_, rfl, advanced_note .duplicate hwhole (OnlyDay.refl _ _) hmem⟩
  rw [if_neg hmem]
  cases happend : Stop.inAppend index stop with
  | some cutAt =>
    obtain ⟨written, cut⟩ := cutAt
    right
    refine ⟨?_, _, _, rfl, interrupted_append hwhole hline hmem ?_⟩
    · rintro rfl
      cases happend
    · rintro rfl
      exact hstop cut happend
  | none =>
    left
    have happended := hwhole.appended hline hmem (Nat.le_refl _) false
    rw [← appendEvents_events] at happended
    refine ⟨_, rfl, advanced_note .recorded happended
      (onlyDay_appendEvents _ record _ false) ?_⟩
    rw [filterMap_append]
    refine mem_append_right _ ?_
    simp [record.payloadRecordId_json env]

theorem recordOne_torn {index : Nat}
    (htorn : Torn (progress.store.events record.tradingDate) payloads) :
    ∃ answer, recordOne env stop index record progress = .error (answer, progress.store) ∧
      answer.isOk = false ∧ ∀ other left, answer ≠ .appendStopped other left := by
  unfold recordOne
  by_cases hbefore : stop = some (.before index)
  · rw [if_pos hbefore]
    exact ⟨.stopped, rfl, rfl, fun other left h => by cases h⟩
  · obtain ⟨error, herror⟩ := htorn.strict
    rw [if_neg hbefore, herror]
    exact ⟨.raised error, rfl, rfl, fun other left h => by cases h⟩

/-! ## All records of a call -/

theorem Advanced.nil (hwhole : Whole (progress.store.events day) payloads) :
    Advanced day payloads [] progress progress where
  whole := ⟨[], by rw [append_nil]; exact hwhole⟩
  onlyDay := OnlyDay.refl _ _
  filed := fun _ h => by cases h
  listed := fun _ h => by cases h
  kept := fun _ h => h
  unchanged := fun h => ⟨h, rfl⟩

theorem Advanced.cons {rest : List Record} {s t u : Progress}
    (hfirst : Advanced day payloads [record] s t)
    (hwhole : Whole (t.store.events day) (payloads ++ more))
    (hrest : Advanced day (payloads ++ more) rest t u) :
    Advanced day payloads (record :: rest) s u where
  whole := by
    obtain ⟨others, h⟩ := hrest.whole
    exact ⟨more ++ others, by rw [← append_assoc]; exact h⟩
  onlyDay := hfirst.onlyDay.trans hrest.onlyDay
  filed := by
    intro other hother
    rcases mem_cons.mp hother with rfl | hother
    · obtain ⟨others, h⟩ := hrest.whole
      have hmem := hfirst.filed other mem_cons_self
      rw [hwhole.recordIds] at hmem
      rw [h.recordIds, filterMap_append]
      exact mem_append_left _ hmem
    · exact hrest.filed other hother
  listed := by
    intro other hother
    rcases mem_cons.mp hother with rfl | hother
    · exact hrest.kept _ (hfirst.listed other mem_cons_self)
    · exact hrest.listed other hother
  kept := fun recordId h => hrest.kept recordId (hfirst.kept recordId h)
  unchanged := by
    intro h
    obtain ⟨ht, hrecords⟩ := hrest.unchanged h
    obtain ⟨hs, hfirstRecords⟩ := hfirst.unchanged ht
    exact ⟨hs, hrecords.trans hfirstRecords⟩

variable {answer : Answer}

theorem Interrupted.after {store' store'' : Store} (honly : OnlyDay day store store')
    (h : Interrupted day (payloads ++ more) store' answer store'') :
    Interrupted day payloads store answer store'' where
  failed := h.failed
  onlyDay := honly.trans h.onlyDay
  file := by
    rcases h.file with ⟨⟨others, hwhole⟩, hanswer⟩ | ⟨⟨others, htorn⟩, hanswer⟩
    · left
      exact ⟨⟨more ++ others, by rw [← append_assoc]; exact hwhole⟩, hanswer⟩
    · right
      exact ⟨⟨more ++ others, by rw [← append_assoc]; exact htorn⟩, hanswer⟩

theorem recordAll_spec (records : List Record) (hday : ∀ record ∈ records, record.tradingDate = day)
    (hline : ∀ record ∈ records, IsLine (record.text env)) :
    ∀ (index : Nat) (progress : Progress) (payloads : List Json),
      (∀ offset record cut, records[offset]? = some record →
        Stop.inAppend (index + offset) stop ≠ some ((record.text env).length, cut)) →
      Whole (progress.store.events day) payloads →
      (∃ after, recordAll env stop index records progress = .ok after ∧
        Advanced day payloads records progress after) ∨
      stop ≠ none ∧ ∃ answer store', recordAll env stop index records progress =
        .error (answer, store') ∧ Interrupted day payloads progress.store answer store' := by
  induction records with
  | nil =>
    intro index progress payloads _ hwhole
    exact Or.inl ⟨progress, rfl, Advanced.nil hwhole⟩
  | cons record rest ih =>
    intro index progress payloads hstop hwhole
    have hfirstDay := hday record mem_cons_self
    have hfirstStop : ∀ cut, Stop.inAppend index stop ≠
        some ((record.text env).length, cut) := fun cut => hstop 0 record cut rfl
    have hone := recordOne_spec (hline record mem_cons_self) hfirstStop
      (hfirstDay.symm ▸ hwhole)
    rw [hfirstDay] at hone
    rw [recordAll]
    rcases hone with ⟨next, hnext, hadvanced⟩ | ⟨hne, answer, store', herror, hinterrupted⟩
    · obtain ⟨more, hmore⟩ := hadvanced.whole
      have hrest := ih (fun other hother => hday other (mem_cons_of_mem record hother))
        (fun other hother => hline other (mem_cons_of_mem record hother))
        (index + 1) next (payloads ++ more)
        (by
          intro offset other cut hget
          have := hstop (offset + 1) other cut (by simpa using hget)
          rwa [show index + 1 + offset = index + (offset + 1) by omega])
        hmore
      rw [hnext]
      rcases hrest with ⟨after, hafter, hlater⟩ | ⟨hne, answer, store', herror, hinterrupted⟩
      · exact Or.inl ⟨after, hafter, hadvanced.cons hmore hlater⟩
      · exact Or.inr ⟨hne, answer, store', herror, hinterrupted.after hadvanced.onlyDay⟩
    · rw [herror]
      exact Or.inr ⟨hne, answer, store', rfl, hinterrupted⟩

/-! ## The state file -/

/-- The state is full, and all it holds is as late as a record of the identity. -/
def CrowdedOut (state : LedgerState) (recordId : Text) : Prop :=
  state.records.length = maxStateRecords ∧ ∃ record : StateRecord, record.recordId = recordId ∧
    ∀ kept ∈ state.records, record.sortKey ≤ kept.sortKey

/-- The identity is in the state file, or later ones fill it. -/
def Reconciled (state : Option LedgerState) (recordId : Text) : Prop :=
  ∃ current, state = some current ∧
    (recordId ∈ listedIds current.records ∨ CrowdedOut current recordId)

theorem retainedRecords_spec {records : List StateRecord} (h : recordId ∈ listedIds records)
    (updatedAt : Text) :
    Reconciled (some { updatedAt, records := retainedRecords records }) recordId := by
  obtain ⟨record, hrecord, rfl⟩ := mem_map.mp h
  have htotal : Std.Total fun a b : StateRecord => a.sortKey ≤ b.sortKey :=
    ⟨fun a b => le_total a.sortKey b.sortKey⟩
  have htrans : IsTrans StateRecord fun a b => a.sortKey ≤ b.sortKey :=
    ⟨fun _ _ _ hab hbc => le_trans hab hbc⟩
  have hsorted := pairwise_insertionSort (fun a b : StateRecord => a.sortKey ≤ b.sortKey)
    records
  refine ⟨_, rfl, ?_⟩
  unfold CrowdedOut retainedRecords
  generalize maxStateRecords = limit
  rcases mem_last_or_before hsorted limit ((mem_insertionSort _).mpr hrecord) with
    hlast | ⟨hfull, hbefore⟩
  · exact Or.inl (mem_map_of_mem hlast)
  · exact Or.inr ⟨hfull, record, rfl, hbefore⟩

theorem listedIds_setRecord {records : List StateRecord} {record : StateRecord}
    (h : recordId ∈ listedIds (setRecord records record)) :
    recordId ∈ listedIds records ∨ recordId = record.recordId := by
  unfold setRecord at h
  obtain ⟨item, hitem, rfl⟩ := mem_map.mp h
  split_ifs at hitem
  · obtain ⟨old, hold, rfl⟩ := mem_map.mp hitem
    split_ifs
    · exact Or.inr rfl
    · exact Or.inl (mem_map_of_mem hold)
  · rcases mem_append.mp hitem with hold | hnew
    · exact Or.inl (mem_map_of_mem hold)
    · rw [mem_singleton.mp hnew]
      exact Or.inr rfl

theorem listedIds_foldl {items : List StateRecord} :
    ∀ {records : List StateRecord}, recordId ∈ listedIds (items.foldl setRecord records) →
      recordId ∈ listedIds records ∨ recordId ∈ listedIds items := by
  induction items with
  | nil =>
    intro records h
    exact Or.inl h
  | cons item items ih =>
    intro records h
    rcases ih h with hset | hrest
    · rcases listedIds_setRecord hset with hold | rfl
      · exact Or.inl hold
      · exact Or.inr mem_cons_self
    · exact Or.inr (mem_cons_of_mem _ hrest)

theorem listedIds_stateRecords {state : LedgerState}
    (h : recordId ∈ listedIds (stateRecords (some state))) :
    recordId ∈ listedIds state.records := by
  rcases listedIds_foldl h with hnil | hitem
  · cases hnil
  · obtain ⟨record, hrecord, rfl⟩ := mem_map.mp hitem
    exact mem_map_of_mem (mem_filter.mp hrecord).1

/-! ## One call -/

variable (env) in
/-- The day whose file a call looks at. -/
def Observation.tradingDate (observation : Observation) : Int :=
  ((rthSlot env observation.now).map (·.tradingDateEt)).getD (env.etDate observation.now)

theorem observationRecords_tradingDate {observation : Observation}
    (h : record ∈ observationRecords env observation) :
    record.tradingDate = observation.tradingDate env := by
  unfold observationRecords at h
  unfold Observation.tradingDate
  simp only [mem_append] at h
  rcases h with hheartbeat | hexpectation
  · cases hslot : rthSlot env observation.now with
    | none =>
      rw [hslot] at hheartbeat
      cases hheartbeat
    | some slot =>
      rw [hslot] at hheartbeat
      rw [mem_singleton.mp hheartbeat]
      rfl
  · rw [mem_ite_nil_right] at hexpectation
    rw [mem_singleton.mp hexpectation.2]
    rfl

variable (env) in
/-- The record texts have no line break, and no append stops between a text and its newline. -/
def appendsWholeOrTorn (_ : Store) (call : Call) : Prop :=
  ∀ index record, (observationRecords env call.observation)[index]? = some record →
    IsLine (record.text env) ∧
      ∀ cut, Stop.inAppend index call.stop ≠ some ((record.text env).length, cut)

/-- What a call makes of a store whose file of the day is whole. -/
structure Called (day : Int) (payloads : List Json) (records : List Record) (store : Store)
    (outcome : Answer × Store) : Prop where
  others : ∀ other, other ≠ day → outcome.2.events other = store.events other
  file : (∃ more, Whole (outcome.2.events day) (payloads ++ more)) ∧
      (∀ other, outcome.1 ≠ .appendStopped other .torn) ∨
    (∃ more, Torn (outcome.2.events day) (payloads ++ more)) ∧
      outcome.1 = .appendStopped day .torn
  ok : outcome.1.isOk = true → ∀ record ∈ records,
    record.recordId ∈ (outcome.2.events day).recordIds ∧
      Reconciled outcome.2.state record.recordId

theorem called_writeState {records : List Record} {before after : Progress}
    (hstore : before.store = store) (hadvanced : Advanced day payloads records before after)
    (stop : Option Stop) (observedAt : Text) :
    Called day payloads records store (writeState stop observedAt after) := by
  have hevents : (writeState stop observedAt after).2.events = after.store.events := by
    unfold writeState
    split <;> rfl
  refine ⟨?_, Or.inl ⟨?_, ?_⟩, ?_⟩
  · intro other hother
    rw [hevents, hadvanced.onlyDay.events other hother, hstore]
  · rw [hevents]
    exact hadvanced.whole
  · intro other
    unfold writeState
    split <;> exact fun h => by cases h
  · intro hok record hrecord
    rw [hevents]
    refine ⟨hadvanced.filed record hrecord, ?_⟩
    have hreconciled := retainedRecords_spec (hadvanced.listed record hrecord) observedAt
    unfold writeState at hok ⊢
    split
    · cases hok
    · cases hok
    · exact hreconciled
    · exact hreconciled
    · exact hreconciled

variable {call : Call}

theorem call_whole (hmeets : appendsWholeOrTorn env store call)
    (hwhole : Whole (store.events (call.observation.tradingDate env)) payloads) :
    Called (call.observation.tradingDate env) payloads
        (observationRecords env call.observation) store
        (recordTradeIntentProducerObservation env store call) ∧
      (call.stop = none → (recordTradeIntentProducerObservation env store call).1.isOk = true) := by
  have hwhole' : ∃ more, Whole (store.events (call.observation.tradingDate env))
      (payloads ++ more) := ⟨[], by rw [append_nil]; exact hwhole⟩
  unfold recordTradeIntentProducerObservation
  by_cases hnil : observationRecords env call.observation = []
  · simp only
    rw [if_pos hnil, hnil]
    exact ⟨⟨fun _ _ => rfl, Or.inl ⟨hwhole', fun other h => by cases h⟩,
      fun _ record hrecord => by cases hrecord⟩, fun _ => rfl⟩
  simp only
  rw [if_neg hnil]
  let start : Progress := {
    store
    stateRecords := stateRecords store.state
    stateChanged := store.state.isNone
    result := pendingResult env call.observation }
  have hall := recordAll_spec (observationRecords env call.observation)
    (fun record hrecord => observationRecords_tradingDate hrecord)
    (by
      intro record hrecord
      obtain ⟨index, hindex⟩ := mem_iff_getElem?.mp hrecord
      exact (hmeets index record hindex).1)
    0 start payloads
    (by
      intro offset record cut hget
      rw [Nat.zero_add]
      exact (hmeets offset record hget).2 cut)
    hwhole
  rcases hall with ⟨after, hafter, hadvanced⟩ | ⟨hne, answer, store', herror, hinterrupted⟩
  · rw [hafter]
    simp only
    by_cases hchanged : after.stateChanged = true
    · rw [if_pos hchanged]
      refine ⟨called_writeState rfl hadvanced call.stop _, ?_⟩
      intro hstop
      rw [hstop]
      rfl
    · rw [if_neg hchanged]
      obtain ⟨hstart, hrecords⟩ := hadvanced.unchanged (by simpa using hchanged)
      refine ⟨⟨hadvanced.onlyDay.events, Or.inl ⟨hadvanced.whole, fun other h => by cases h⟩, ?_⟩,
        fun _ => rfl⟩
      intro _ record hrecord
      refine ⟨hadvanced.filed record hrecord, ?_⟩
      show Reconciled after.store.state _
      rw [hadvanced.onlyDay.state]
      show Reconciled store.state _
      obtain ⟨current, hcurrent⟩ : ∃ current, store.state = some current :=
        Option.isSome_iff_exists.mp (by simpa [start] using hstart)
      have hlisted := hadvanced.listed record hrecord
      rw [hrecords] at hlisted
      simp only [start, hcurrent] at hlisted
      exact ⟨current, hcurrent, Or.inl (listedIds_stateRecords hlisted)⟩
  · rw [herror]
    refine ⟨⟨hinterrupted.onlyDay.events, hinterrupted.file, ?_⟩, fun hstop => absurd hstop hne⟩
    intro hok
    rw [show answer.isOk = false from hinterrupted.failed] at hok
    cases hok

theorem call_torn (hne : observationRecords env call.observation ≠ [])
    (htorn : Torn (store.events (call.observation.tradingDate env)) payloads) :
    (recordTradeIntentProducerObservation env store call).2 = store ∧
      (recordTradeIntentProducerObservation env store call).1.isOk = false ∧
      ∀ other left, (recordTradeIntentProducerObservation env store call).1 ≠
        .appendStopped other left := by
  obtain ⟨record, rest, hrecords⟩ := exists_cons_of_ne_nil hne
  have hdate : record.tradingDate = call.observation.tradingDate env :=
    observationRecords_tradingDate (by rw [hrecords]; exact mem_cons_self)
  let start : Progress := {
    store
    stateRecords := stateRecords store.state
    stateChanged := store.state.isNone
    result := pendingResult env call.observation }
  obtain ⟨answer, herror, hfailed, hanswer⟩ := recordOne_torn (hdate.symm ▸ htorn :
    Torn (start.store.events record.tradingDate) payloads)
  have hall : recordAll env call.stop 0 (observationRecords env call.observation) start =
      .error (answer, store) := by
    rw [hrecords, recordAll, herror]
    rfl
  unfold recordTradeIntentProducerObservation
  simp only
  rw [if_neg hne, hall]
  exact ⟨rfl, hfailed, hanswer⟩

theorem call_nothing (h : observationRecords env call.observation = []) :
    recordTradeIntentProducerObservation env store call =
      (.ok (pendingResult env call.observation), store) := by
  unfold recordTradeIntentProducerObservation
  simp only
  rw [if_pos h]

/-! ## Runs -/

/-- An append to the day's file stopped inside a line. -/
def TornAppend (log : List (Call × Answer)) (day : Int) : Prop :=
  ∃ call, (call, .appendStopped day .torn) ∈ log

variable {log : List (Call × Answer)}

theorem tornAppend_snoc : TornAppend (log ++ [(call, answer)]) day ↔
      TornAppend log day ∨ answer = .appendStopped day .torn := by
  constructor
  · rintro ⟨other, hmem⟩
    rcases mem_append.mp hmem with hold | hnew
    · exact Or.inl ⟨other, hold⟩
    · exact Or.inr (Prod.mk.inj (mem_singleton.mp hnew)).2.symm
  · rintro (⟨other, hold⟩ | rfl)
    · exact ⟨other, mem_append_left _ hold⟩
    · exact ⟨call, mem_append_right _ (mem_singleton_self _)⟩

/-- The file is whole, or torn by an append of the log. -/
def FileSound (log : List (Call × Answer)) (file : EventsFile) (day : Int) : Prop :=
  (∃ payloads, Whole file payloads) ∧ ¬TornAppend log day ∨
    (∃ payloads, Torn file payloads) ∧ TornAppend log day

theorem FileSound.nodup (h : FileSound log file day) : file.recordIds.Nodup := by
  rcases h with ⟨⟨payloads, hwhole⟩, -⟩ | ⟨⟨payloads, htorn⟩, -⟩
  · rw [hwhole.recordIds]
    exact hwhole.distinct
  · rw [htorn.recordIds]
    obtain ⟨rest, hholds, -⟩ := htorn
    exact hholds.distinct

variable (env) in
/-- The files are sound, and the records of every accepted call are in them. -/
structure LedgerInv (log : List (Call × Answer)) (store : Store) : Prop where
  files : ∀ day, FileSound log (store.events day) day
  filed : ∀ call answer, (call, answer) ∈ log → answer.isOk = true →
    ∀ record ∈ observationRecords env call.observation,
      record.recordId ∈ (store.events record.tradingDate).recordIds

theorem LedgerInv.extend {store' : Store} (h : LedgerInv env log store)
    (hfiles : ∀ day, FileSound (log ++ [(call, answer)]) (store'.events day) day)
    (hgrow : ∀ day, ∀ recordId ∈ (store.events day).recordIds,
      recordId ∈ (store'.events day).recordIds)
    (hnew : answer.isOk = true → ∀ record ∈ observationRecords env call.observation,
      record.recordId ∈ (store'.events record.tradingDate).recordIds) :
    LedgerInv env (log ++ [(call, answer)]) store' where
  files := hfiles
  filed := by
    intro other outcome hmem hok record hrecord
    rcases mem_append.mp hmem with hold | hlast
    · exact hgrow _ _ (h.filed other outcome hold hok record hrecord)
    · obtain ⟨rfl, rfl⟩ := Prod.mk.inj (mem_singleton.mp hlast)
      exact hnew hok record hrecord

theorem FileSound.other (h : FileSound log file day) (hanswer : answer ≠ .appendStopped day .torn) :
    FileSound (log ++ [(call, answer)]) file day := by
  unfold FileSound at h ⊢
  rw [tornAppend_snoc]
  rcases h with ⟨hwhole, hnot⟩ | ⟨htorn, hlog⟩
  · exact Or.inl ⟨hwhole, fun hor => hor.elim hnot hanswer⟩
  · exact Or.inr ⟨htorn, Or.inl hlog⟩

theorem ledgerInv_step (h : LedgerInv env log store) (hmeets : appendsWholeOrTorn env store call) :
    LedgerInv env (log ++ [(call, (recordTradeIntentProducerObservation env store call).1)])
      (recordTradeIntentProducerObservation env store call).2 := by
  by_cases hnil : observationRecords env call.observation = []
  · rw [call_nothing hnil]
    refine h.extend (fun day => (h.files day).other (fun hcontra => by cases hcontra))
      (fun _ _ hmem => hmem) ?_
    intro _ record hrecord
    rw [hnil] at hrecord
    cases hrecord
  rcases h.files (call.observation.tradingDate env) with
    ⟨⟨payloads, hwhole⟩, hnot⟩ | ⟨⟨payloads, htorn⟩, hlog⟩
  · obtain ⟨hcalled, -⟩ := call_whole hmeets hwhole
    generalize recordTradeIntentProducerObservation env store call = outcome at hcalled ⊢
    have hsame : ∀ day, day ≠ call.observation.tradingDate env →
        outcome.2.events day = store.events day := hcalled.others
    refine h.extend ?_ ?_ ?_
    · intro day
      by_cases hday : day = call.observation.tradingDate env
      · subst hday
        unfold FileSound
        rw [tornAppend_snoc]
        rcases hcalled.file with ⟨⟨more, hmore⟩, hanswer⟩ | ⟨⟨more, hmore⟩, hanswer⟩
        · exact Or.inl ⟨⟨_, hmore⟩, fun hor => hor.elim hnot (hanswer _)⟩
        · exact Or.inr ⟨⟨_, hmore⟩, Or.inr hanswer⟩
      · rw [hsame day hday]
        refine (h.files day).other ?_
        rcases hcalled.file with ⟨-, hanswer⟩ | ⟨-, hanswer⟩
        · exact hanswer day
        · rw [hanswer]
          intro hcontra
          injection hcontra with hdays
          exact hday hdays.symm
    · intro day recordId hmem
      by_cases hday : day = call.observation.tradingDate env
      · subst hday
        rw [hwhole.recordIds] at hmem
        rcases hcalled.file with ⟨⟨more, hmore⟩, -⟩ | ⟨⟨more, hmore⟩, -⟩
        · rw [hmore.recordIds, filterMap_append]
          exact mem_append_left _ hmem
        · rw [hmore.recordIds, filterMap_append]
          exact mem_append_left _ hmem
      · rw [hsame day hday]
        exact hmem
    · intro hok record hrecord
      rw [observationRecords_tradingDate hrecord]
      exact (hcalled.ok hok record hrecord).1
  · obtain ⟨hstore, hfailed, hanswer⟩ := call_torn hnil htorn
    rw [hstore]
    refine h.extend (fun day => (h.files day).other (hanswer day _)) (fun _ _ hmem => hmem) ?_
    intro hok
    rw [hfailed] at hok
    cases hok

theorem ledgerInv_start : LedgerInv env [] {} where
  files := by
    intro day
    have hempty : Whole {} [] := {
      text := rfl
      records := fun _ hmem => by cases hmem
      distinct := nodup_nil
      uncut := rfl }
    refine Or.inl ⟨⟨[], hempty⟩, ?_⟩
    rintro ⟨call, hmem⟩
    cases hmem
  filed := by
    intro call answer hmem
    cases hmem

/-- Stops and failed writes anywhere but between a line and its newline. Each identity is at most
once in its day's file, and the records of every call that returned are there. A day whose file no
append tore takes every further call and reconciles the state; on a torn one every call that has a
record fails and changes nothing. -/
theorem producer_ledger {log : List (Call × Answer)} {store : Store}
    (h : Run (recordTradeIntentProducerObservation env) (appendsWholeOrTorn env) {} log store) :
    (∀ day, (store.events day).recordIds.Nodup) ∧
    (∀ call result, (call, .ok result) ∈ log →
      ∀ record ∈ observationRecords env call.observation,
        record.recordId ∈ (store.events record.tradingDate).recordIds) ∧
    ∀ call,
      (appendsWholeOrTorn env store call → call.stop = none →
        ¬TornAppend log (call.observation.tradingDate env) →
        ∃ result, (recordTradeIntentProducerObservation env store call).1 = .ok result ∧
          ∀ record ∈ observationRecords env call.observation,
            Reconciled (recordTradeIntentProducerObservation env store call).2.state
              record.recordId) ∧
      (observationRecords env call.observation ≠ [] →
        TornAppend log (call.observation.tradingDate env) →
        (recordTradeIntentProducerObservation env store call).1.isOk = false ∧
          (recordTradeIntentProducerObservation env store call).2 = store) := by
  have hinv : LedgerInv env log store :=
    h.invariant_log ledgerInv_start fun _ _ _ hinv hmeets => ledgerInv_step hinv hmeets
  refine ⟨fun day => (hinv.files day).nodup, ?_, ?_⟩
  · intro call result hmem
    exact hinv.filed call _ hmem rfl
  intro call
  constructor
  · intro hmeets hstop hnot
    rcases hinv.files (call.observation.tradingDate env) with ⟨⟨payloads, hwhole⟩, -⟩ | ⟨-, hlog⟩
    · obtain ⟨hcalled, hsucceeds⟩ := call_whole hmeets hwhole
      have hok := hsucceeds hstop
      cases hanswer : (recordTradeIntentProducerObservation env store call).1 with
      | ok result => exact ⟨result, rfl, fun record hrecord => (hcalled.ok hok record hrecord).2⟩
      | raised error => rw [hanswer] at hok; cases hok
      | appendStopped day left => rw [hanswer] at hok; cases hok
      | stopped => rw [hanswer] at hok; cases hok
    · exact absurd hlog hnot
  · intro hne hlog
    rcases hinv.files (call.observation.tradingDate env) with ⟨-, hnot⟩ | ⟨⟨payloads, htorn⟩, -⟩
    · exact absurd hlog hnot
    · obtain ⟨hstore, hfailed, -⟩ := call_torn hne htorn
      exact ⟨hfailed, hstore⟩

/-! ## One slot -/

/-- One session from zero on, and texts that do not matter. -/
def oneSession : Environment where
  isoformat := fun _ => "t".toList
  fromIsoformat := fun _ => none
  etDate := fun _ => 0
  session := fun _ => some { openAt := 0, closeAt := 23400000000 }
  sha256 := fun _ => []
  integer := fun _ => ⟨['0'], by decide⟩
  float := fun _ => ⟨['0', '.', '0'], by decide⟩

def firstHeartbeat : Observation := { intent := {}, now := 60000000 }

theorem firstHeartbeat_records : ∃ record,
    observationRecords oneSession firstHeartbeat = [record] ∧ IsLine (record.text oneSession) ∧
      1 < (record.text oneSession).length := by
  have hlength : (observationRecords oneSession firstHeartbeat).length = 1 := by decide +kernel
  have hlines : (observationRecords oneSession firstHeartbeat).all
      (fun record => (record.text oneSession).all (fun c => isLineBreak c == false) &&
        decide (1 < (record.text oneSession).length)) = true := by
    decide +kernel
  obtain ⟨record, hrecord⟩ := length_eq_one_iff.mp hlength
  rw [hrecord, all_cons, all_nil, Bool.and_true, Bool.and_eq_true,
    decide_eq_true_eq] at hlines
  exact ⟨record, hrecord, fun c hc => eq_of_beq (all_eq_true.mp hlines.1 c hc), hlines.2⟩

/-- The call goes through, or stops before its line is half written. -/
theorem firstHeartbeat_meets (store : Store) {stop : Option Stop}
    (hstop : ∀ written cut, Stop.inAppend 0 stop = some (written, cut) → written ≤ 1) :
    appendsWholeOrTorn oneSession store { observation := firstHeartbeat, stop } := by
  obtain ⟨record, hrecords, hline, hlong⟩ := firstHeartbeat_records
  intro index other hget
  rw [show observationRecords oneSession firstHeartbeat = [record] from hrecords] at hget
  cases index with
  | zero =>
    obtain rfl := Option.some.inj hget
    exact ⟨hline, fun cut h => absurd (hstop _ cut h) (not_le.mpr hlong)⟩
  | succ index => cases hget

/-- A stop before anything is written, and a write of the state that fails behind the line. -/
def interruptedHeartbeats : List Call :=
  [{ observation := firstHeartbeat, stop := some (.append 0 0 false) },
    { observation := firstHeartbeat, stop := some (.state false) }]

def tornHeartbeat : List Call :=
  [{ observation := firstHeartbeat, stop := some (.append 0 1 false) }]

/-- The day takes the call again and reconciles the state. Behind a stop in the middle of the line
it takes none. -/
theorem producer_ledger_interrupted :
    let record := recordTradeIntentProducerObservation oneSession
    let interrupted := (play record {} interruptedHeartbeats).2
    let torn := (play record {} tornHeartbeat).2
    (∃ result, (record interrupted { observation := firstHeartbeat }).1 = .ok result ∧
      ∀ r ∈ observationRecords oneSession firstHeartbeat,
        Reconciled (record interrupted { observation := firstHeartbeat }).2.state r.recordId) ∧
    (record torn { observation := firstHeartbeat }).1.isOk = false ∧
      (record torn { observation := firstHeartbeat }).2 = torn := by
  intro record interrupted torn
  have hstart : Run record (appendsWholeOrTorn oneSession) {} [] {} := Run.nil
  have hunwritten := hstart.snoc
    { observation := firstHeartbeat, stop := some (.append 0 0 false) }
    (firstHeartbeat_meets {} fun written cut h => by cases h; exact Nat.zero_le 1)
  have hrun := hunwritten.snoc { observation := firstHeartbeat, stop := some (.state false) }
    (firstHeartbeat_meets _ fun written cut h => by cases h)
  have htorn := hstart.snoc { observation := firstHeartbeat, stop := some (.append 0 1 false) }
    (firstHeartbeat_meets {} fun written cut h => by cases h; exact le_refl 1)
  constructor
  · refine ((producer_ledger hrun).2.2 { observation := firstHeartbeat }).1
      (firstHeartbeat_meets _ fun written cut h => by cases h) rfl ?_
    rw [tornAppend_snoc, tornAppend_snoc]
    rintro ((⟨call, hmem⟩ | hanswer) | hanswer)
    · cases hmem
    · cases hanswer
    · cases hanswer
  · obtain ⟨r, hrecords, -⟩ := firstHeartbeat_records
    refine ((producer_ledger htorn).2.2 { observation := firstHeartbeat }).2 ?_ ?_
    · rw [show observationRecords oneSession firstHeartbeat = [r] from hrecords]
      exact cons_ne_nil _ _
    · exact tornAppend_snoc.mpr (.inr rfl)

theorem tornHeartbeat_blocks : (recordTradeIntentProducerObservation oneSession
    (play (recordTradeIntentProducerObservation oneSession) {} tornHeartbeat).2
    { observation := firstHeartbeat }).1.isOk = false := by
  decide +kernel

/-- After a stop behind the first character of a line the day takes no call any more. -/
theorem torn_line_blocks_day : ¬∀ (env : Environment) (log : List (Call × Answer)) (store : Store),
    Run (recordTradeIntentProducerObservation env) anyStep {} log store →
      ∀ call, call.stop = none →
        (recordTradeIntentProducerObservation env store call).1.isOk = true := by
  intro hall
  have hallowed : Allowed (recordTradeIntentProducerObservation oneSession) anyStep {}
      tornHeartbeat := allowed_anyStep tornHeartbeat _
  have hrun := Run.play hallowed
  have hok := hall oneSession _ _ hrun { observation := firstHeartbeat } rfl
  rw [tornHeartbeat_blocks] at hok
  cases hok

end SpxSpark.MarketFeatures.ProducerLedger
