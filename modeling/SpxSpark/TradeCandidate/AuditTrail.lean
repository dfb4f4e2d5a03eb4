import SpxSpark.TradeCandidate.Lifecycle

/-!
# AuditTrail — the log as calls extend it

The log finds a record again by its event and its candidate, but only in the file of the day, and
only where the row can be read back as one line.
-/

namespace SpxSpark.TradeCandidate

open Lib Strategy TradeIntent List

variable {py : PyTools} {audit : List AuditRow} {day : Int} {record : AuditRecord}
  {records : List AuditRecord}

/-! ## Identities -/

theorem stripChars_ne_nil {text : Text} {c : Char} (hmem : c ∈ text) (hspace : isSpace c = false) :
    stripChars text ≠ [] := by
  intro hnil
  have hrest : ∀ x ∈ text.dropWhile isSpace, isSpace x = true := rdropWhile_eq_nil_iff.mp hnil
  rw [← takeWhile_append_dropWhile (p := isSpace) (l := text)] at hmem
  have hall : isSpace c = true := by
    rcases mem_append.mp hmem with hmem | hmem
    · exact mem_takeWhile_imp hmem
    · exact hrest c hmem
  rw [hspace] at hall
  cases hall

/-- The candidate has an id, whose parts a bar sets apart. -/
def AuditRecord.Named (record : AuditRecord) : Prop := '|' ∈ record.candidate.candidateId

theorem identity_of_named (h : record.Named) : record.identity = some record.key :=
  if_pos (stripChars_ne_nil h (by decide))

theorem key_of_identity {identity : AuditEvent × Text} (h : record.identity = some identity) :
    record.key = identity := by
  unfold AuditRecord.identity at h
  split at h
  · exact Option.some.inj h
  · cases h

/-! ## One record -/

/-- The rows that a record could repeat are found. -/
def Repeatable (audit : List AuditRow) (day : Int) (record : AuditRecord) : Prop :=
  ∀ row ∈ audit, row.record.key = record.key → row.day = day ∧ row.legible = true

theorem auditIdentityExists_iff (hfound : Repeatable audit day record)
    (hrows : ∀ row ∈ audit, row.record.Named) :
    auditIdentityExists audit day record.key = true ↔ ∃ row ∈ audit,
      row.record.key = record.key := by
  unfold auditIdentityExists
  rw [any_eq_true]
  constructor
  · rintro ⟨row, hrow, hsame⟩
    simp only [Bool.and_eq_true, decide_eq_true_eq] at hsame
    exact ⟨row, hrow, key_of_identity hsame.2⟩
  · rintro ⟨row, hrow, hsame⟩
    obtain ⟨hday, hlegible⟩ := hfound row hrow hsame
    refine ⟨row, hrow, ?_⟩
    rw [identity_of_named (hrows row hrow), hsame, hday, hlegible]
    simp

theorem appendAudit_eq (hnamed : record.Named) (hfound : Repeatable audit day record)
    (hrows : ∀ row ∈ audit, row.record.Named) :
    ((∃ row ∈ audit, row.record.key = record.key) ∧ appendAudit audit day record = audit) ∨
      ((∀ row ∈ audit, row.record.key ≠ record.key) ∧
        appendAudit audit day record = audit ++ [⟨day, record⟩]) := by
  have hany : (record.identity.any fun identity => auditIdentityExists audit day identity) =
      auditIdentityExists audit day record.key := by
    rw [identity_of_named hnamed]
    rfl
  unfold appendAudit
  rw [hany]
  by_cases hexists : ∃ row ∈ audit, row.record.key = record.key
  · left
    exact ⟨hexists, if_pos ((auditIdentityExists_iff hfound hrows).mpr hexists)⟩
  · right
    refine ⟨fun row hrow hsame => hexists ⟨row, hrow, hsame⟩, if_neg fun hfind => ?_⟩
    exact hexists ((auditIdentityExists_iff hfound hrows).mp hfind)

/-! ## The records of a call -/

def appendAll (audit : List AuditRow) (day : Int) (records : List AuditRecord) : List AuditRow :=
  records.foldl (fun rows record => appendAudit rows day record) audit

/-- The log after some records of a day. -/
structure Appended (audit : List AuditRow) (day : Int) (records : List AuditRecord)
    (audit' : List AuditRow) : Prop where
  extra : ∃ rows, audit' = audit ++ rows ∧ ∀ row ∈ rows, row.day = day ∧ row.record ∈ records
  keys : (audit'.map (·.record.key)).Nodup
  named : ∀ row ∈ audit', row.record.Named
  recorded : ∀ record ∈ records, ∃ row ∈ audit', row.record.key = record.key

theorem appended_all (hkeys : (audit.map (·.record.key)).Nodup)
    (hrows : ∀ row ∈ audit, row.record.Named) (hnamed : ∀ record ∈ records, record.Named)
    (hrecords : (records.map AuditRecord.key).Nodup)
    (hfound : ∀ record ∈ records, Repeatable audit day record) :
    Appended audit day records (appendAll audit day records) := by
  induction records generalizing audit with
  | nil =>
    refine ⟨⟨[], (append_nil audit).symm, ?_⟩, hkeys, hrows, ?_⟩
    · intro row hrow
      cases hrow
    · intro record hrecord
      cases hrecord
  | cons record rest ih =>
    obtain ⟨hfresh, hrest⟩ := nodup_cons.mp hrecords
    have hlater := fun other hother => hfound other (mem_cons_of_mem record hother)
    have hlaterNamed := fun other hother => hnamed other (mem_cons_of_mem record hother)
    have hself := hnamed record mem_cons_self
    rw [show appendAll audit day (record :: rest) =
      appendAll (appendAudit audit day record) day rest from rfl]
    rcases appendAudit_eq hself (hfound record mem_cons_self) hrows with
      ⟨⟨row, hrow, hsame⟩, happend⟩ | ⟨hnew, happend⟩
    · -- The record is there already.
      rw [happend]
      have hkept := ih hkeys hrows hlaterNamed hrest hlater
      obtain ⟨rows, hext, hextra⟩ := hkept.extra
      refine ⟨⟨rows, hext, fun row hrow => ?_⟩, hkept.keys, hkept.named, ?_⟩
      · exact ⟨(hextra row hrow).1, mem_cons_of_mem _ (hextra row hrow).2⟩
      · intro other hother
        rcases mem_cons.mp hother with rfl | hother
        · exact ⟨row, hext ▸ mem_append_left rows hrow, hsame⟩
        · exact hkept.recorded other hother
    · rw [happend]
      have hkept : Appended (audit ++ [⟨day, record⟩]) day rest
          (appendAll (audit ++ [⟨day, record⟩]) day rest) := by
        refine ih ?_ ?_ hlaterNamed hrest ?_
        · rw [map_append]
          refine hkeys.append (nodup_cons.mpr ⟨not_mem_nil, nodup_nil⟩) ?_
          intro key hmem hlast
          obtain ⟨row, hrow, hsame⟩ := mem_map.mp hmem
          exact hnew row hrow (hsame.trans (mem_singleton.mp hlast))
        · intro row hrow
          rcases mem_append.mp hrow with hrow | hlast
          · exact hrows row hrow
          · exact mem_singleton.mp hlast ▸ hself
        · intro other hother row hrow hsame
          rcases mem_append.mp hrow with hrow | hlast
          · exact hlater other hother row hrow hsame
          · -- The new row is another event than what comes later.
            rw [mem_singleton.mp hlast] at hsame
            exact absurd (mem_map.mpr ⟨other, hother, hsame.symm⟩) hfresh
      obtain ⟨rows, hext, hextra⟩ := hkept.extra
      refine ⟨⟨⟨day, record⟩ :: rows, ?_, ?_⟩, hkept.keys, hkept.named, ?_⟩
      · rw [hext, append_assoc]
        rfl
      · intro row hrow
        rcases mem_cons.mp hrow with rfl | hrow
        · exact ⟨rfl, mem_cons_self⟩
        · exact ⟨(hextra row hrow).1, mem_cons_of_mem _ (hextra row hrow).2⟩
      · intro other hother
        rcases mem_cons.mp hother with rfl | hother
        · refine ⟨⟨day, other⟩, ?_, rfl⟩
          rw [hext]
          simp
        · exact hkept.recorded other hother

/-! ## What a visit writes -/

theorem perform_records (disk : Disk) (day : Int) (records : List AuditRecord) :
    (records.map (Write.audit day)).foldl Disk.perform disk =
      { disk with audit := appendAll disk.audit day records } := by
  induction records generalizing disk with
  | nil => rfl
  | cons record rest ih => exact ih _

theorem made_le (py : PyTools) (disk : Disk) (visit : Visit) :
    visit.made py disk.state ≤ (writes py disk.state visit.call).length := by
  unfold Visit.made
  split
  · exact min_le_right _ _
  · exact le_refl _

/-- The records that a call decides on, and the file of the log they go to. -/
def Visit.trail (visit : Visit) (py : PyTools) (s : StateFile) : List AuditRecord :=
  (advanceTradeCandidate py s visit.call).1

theorem writes_of_ok {s : StateFile} {visit : Visit} {result : StateFile × Answer}
    (h : (advanceTradeCandidate py s visit.call).2 = .ok result) : writes py s visit.call =
      (visit.trail py s).map (.audit (dateOf visit.call.now)) ++ [.state result.1] := by
  unfold writes
  simp only [h]
  rfl

theorem writes_of_error {s : StateFile} {visit : Visit} {failure : PyError}
    (h : (advanceTradeCandidate py s visit.call).2 = .error failure) :
    writes py s visit.call = (visit.trail py s).map (.audit (dateOf visit.call.now)) := by
  unfold writes
  simp only [h]
  exact append_nil _

theorem visitStep_written (disk : Disk) (visit : Visit) : (visitStep py disk visit).1.written =
      ((advanceTradeCandidate py disk.state visit.call).2.toOption.isSome &&
        decide ((visit.trail py disk.state).length < visit.made py disk.state)) := rfl

theorem visitStep_short {disk : Disk} {visit : Visit}
    (h : (visitStep py disk visit).1.written = false) :
    (visitStep py disk visit).2 = { disk with
      audit := appendAll disk.audit (dateOf visit.call.now)
        ((visit.trail py disk.state).take (visit.made py disk.state)) } := by
  have hfront : (writes py disk.state visit.call).take (visit.made py disk.state) =
      ((visit.trail py disk.state).take (visit.made py disk.state)).map
        (.audit (dateOf visit.call.now)) := by
    rw [map_take]
    cases hresult : (advanceTradeCandidate py disk.state visit.call).2 with
    | error failure => rw [writes_of_error hresult]
    | ok result =>
      rw [visitStep_written, hresult] at h
      have hle : visit.made py disk.state ≤ (visit.trail py disk.state).length :=
        not_lt.mp (of_decide_eq_false h)
      rw [writes_of_ok hresult]
      refine take_append_of_le_length ?_
      rw [length_map]
      exact hle
  show ((writes py disk.state visit.call).take _).foldl Disk.perform disk = _
  rw [hfront, perform_records]

theorem visitStep_whole {disk : Disk} {visit : Visit}
    (h : (visitStep py disk visit).1.written = true) :
    ∃ contents answer, (advanceTradeCandidate py disk.state visit.call).2 = .ok (contents, answer) ∧
      0 < visit.made py disk.state ∧
      (visitStep py disk visit).2 =
        ⟨contents, appendAll disk.audit (dateOf visit.call.now) (visit.trail py disk.state),
          (appendAll disk.audit (dateOf visit.call.now) (visit.trail py disk.state)).length⟩ := by
  have hmade := made_le py disk visit
  cases hresult : (advanceTradeCandidate py disk.state visit.call).2 with
  | error failure =>
    rw [visitStep_written, hresult] at h
    cases h
  | ok result =>
    rw [visitStep_written, hresult] at h
    have hlt : (visit.trail py disk.state).length < visit.made py disk.state :=
      of_decide_eq_true h
    have hall : visit.made py disk.state = (writes py disk.state visit.call).length := by
      rw [writes_of_ok hresult, length_append, length_map,
        length_singleton] at hmade ⊢
      omega
    refine ⟨result.1, result.2, rfl, Nat.zero_lt_of_lt hlt, ?_⟩
    show ((writes py disk.state visit.call).take _).foldl Disk.perform disk = _
    rw [hall, take_length, writes_of_ok hresult, foldl_append, perform_records]
    rfl

end SpxSpark.TradeCandidate
