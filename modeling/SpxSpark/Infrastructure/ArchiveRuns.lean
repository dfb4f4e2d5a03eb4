import SpxSpark.Infrastructure.OperationalArchive

/-!
# ArchiveRuns — operational history is moved, never lost

A batch that was deleted is one that was read back from its archive: that is what a delete needs
(`ArchiveSafe`), and every process of the archive makes its delete only then.
-/

namespace SpxSpark.Infrastructure

open Lib Strategy List

variable {Json Gzip Digest : Type} {tools : ArchiveTools Json Gzip Digest}

/-! ## What one delete does -/

/-- What a turn of the archive may do to the tables; `archived` are the rows kept elsewhere. -/
structure Moved (tools : ArchiveTools Json Gzip Digest) (archived : HistoryRow → Prop)
    (before after : Database) : Prop where
  added : ∀ row ∈ after.contents, row ∈ before.contents
  correlations : after.correlationIds = before.correlationIds
  kept : ∀ row ∈ before.contents, row ∉ after.contents → archived row
  /-- Nothing refers to a deleted decision. -/
  decisions : ∀ decision, .decision decision ∈ before.contents →
    .decision decision ∉ after.contents →
      (∀ outcome, .outcome outcome ∈ after.contents →
        outcome.decisionId ≠ some decision.decisionId) ∧
      some decision.decisionId ∉ after.correlationIds
  /-- Nothing refers to a deleted event. -/
  events : ∀ event, .event event ∈ before.contents → .event event ∉ after.contents →
    (∀ decision, .decision decision ∈ after.contents →
      decision.eventKey ≠ some event.eventKey ∧
        decision.featureSnapshotId ≠ some event.eventKey) ∧
    (∀ outcome, .outcome outcome ∈ after.contents → outcome.eventKey ≠ event.eventKey) ∧
    ∀ snapshot, .event snapshot ∈ after.contents →
      snapshot.eventType = "feature_snapshot".toList →
        tools.parentEventKey snapshot.attributesJson ≠ some event.eventKey
  /-- A decision's legs are deleted exactly when it is. -/
  legs : ∀ leg, .leg leg ∈ before.contents → (.leg leg ∉ after.contents ↔
    ∃ decision, .decision decision ∈ before.contents ∧ .decision decision ∉ after.contents ∧
      decision.decisionId = leg.decisionId)

section Delete

variable {table : ArchivedTable} {ids : List Text} {cutoff : Text} {database after : Database}
  {live rows : List HistoryRow} {payload : Payload} {row : HistoryRow}

theorem Moved.refl (archived : HistoryRow → Prop) (database : Database) :
    Moved tools archived database database where
  added _ h := h
  correlations := rfl
  kept _ h hgone := absurd h hgone
  decisions _ h hgone := absurd h hgone
  events _ h hgone := absurd h hgone
  legs leg h := by
    refine ⟨fun hgone => absurd h hgone, ?_⟩
    rintro ⟨decision, hdecision, hgone, -⟩
    exact absurd hdecision hgone

theorem Moved.mono {archived archived' : HistoryRow → Prop}
    (h : Moved tools archived database after) (himp : ∀ row, archived row → archived' row) :
    Moved tools archived' database after where
  added := h.added
  correlations := h.correlations
  kept row hrow hgone := himp row (h.kept row hrow hgone)
  decisions := h.decisions
  events := h.events
  legs := h.legs

theorem byKey_some {key : Text} (h : byKey rows key = some row) : row ∈ rows ∧ row.key = key := by
  have hmem := mem_of_find?_eq_some h
  have hkey := find?_some h
  exact ⟨mem_reverse.mp hmem, beq_iff_eq.mp hkey⟩

theorem byKey_isSome (h : row ∈ rows) : ∃ other, byKey rows row.key = some other := by
  have hfound : (byKey rows row.key).isSome = true := by
    rw [byKey, find?_isSome]
    exact ⟨row, mem_reverse.mpr h, beq_self_eq_true row.key⟩
  exact Option.isSome_iff_exists.mp hfound

theorem sameRows_find (h : sameRows live rows = true) (hrow : row ∈ live ++ rows) :
    ∃ found, found ∈ live ∧ found ∈ rows ∧ found.key = row.key := by
  have hsame := beq_iff_eq.mp (all_eq_true.mp h row hrow)
  rcases mem_append.mp hrow with hlive | hrows
  · obtain ⟨found, hfound⟩ := byKey_isSome hlive
    obtain ⟨hmem, hkey⟩ := byKey_some hfound
    exact ⟨found, hmem, (byKey_some (hsame.symm.trans hfound)).1, hkey⟩
  · obtain ⟨found, hfound⟩ := byKey_isSome hrows
    obtain ⟨hmem, hkey⟩ := byKey_some hfound
    exact ⟨found, (byKey_some (hsame.trans hfound)).1, hmem, hkey⟩

theorem sameRows_id
    (h : sameRows ((eligible tools payload.table cutoff database).filter fun row =>
      payload.ids.contains row.key) payload.rows = true) {id : Text}
    (hid : payload.ids.contains id = true) :
    ∃ found ∈ eligible tools payload.table cutoff database, found ∈ payload.rows ∧
      found.key = id := by
  obtain ⟨row, hrow, rfl⟩ := mem_map.mp (contains_iff_mem.mp hid)
  obtain ⟨found, hlive, hrows, hkey⟩ := sameRows_find h (mem_append_right _ hrow)
  exact ⟨found, (mem_filter.mp hlive).1, hrows, hkey⟩

theorem mem_legsOf {leg : LegRow} : leg ∈ legsOf ids database ↔ leg ∈ database.decisionLegs.rows ∧
      ids.contains leg.decisionId = true := by
  rw [legsOf, (perm_insertionSort _ _).mem_iff, mem_filter]

theorem deleteArchived_ok (h : deleteArchived tools payload cutoff database = .ok after) :
    after = database.remove payload.table payload.ids ∧
      (∀ id, payload.ids.contains id = true →
        ∃ found ∈ eligible tools payload.table cutoff database, found ∈ payload.rows ∧
          found.key = id) ∧
      (payload.table = .decisions → legsOf payload.ids database = payload.decisionLegs) := by
  unfold deleteArchived at h
  dsimp only at h
  split at h
  · cases h
  · rename_i hsame
    split at h
    · cases h
    · rename_i hlegs
      cases h
      refine ⟨rfl, fun id hid => sameRows_id (Bool.not_eq_false _ ▸ hsame) hid, fun htable => ?_⟩
      exact not_not.mp fun hne => hlegs ⟨htable, hne⟩

/-- The rows that a delete of these ids takes from the tables. -/
def HistoryRow.goesWith (table : ArchivedTable) (ids : List Text) : HistoryRow → Bool
  | .event row => table == .events && ids.contains row.eventKey
  | .decision row => table == .decisions && ids.contains row.decisionId
  | .leg row => table == .decisions && ids.contains row.decisionId
  | .outcome row => table == .outcomes && ids.contains row.outcomeId

theorem mem_remove : row ∈ (database.remove table ids).contents ↔
    row ∈ database.contents ∧ row.goesWith table ids = false := by
  cases table with
  | outcomes =>
    cases row <;> simp [Database.remove, HistoryRow.goesWith, mem_deleteWhere]
  | decisions =>
    cases row <;> simp [Database.remove, HistoryRow.goesWith, mem_deleteWhere]
  | events =>
    cases row <;> simp [Database.remove, HistoryRow.goesWith, mem_deleteWhere]

theorem gone_remove (hrow : row ∈ database.contents)
    (hgone : row ∉ (database.remove table ids).contents) : row.goesWith table ids = true := by
  by_contra hkeep
  exact hgone (mem_remove.mpr ⟨hrow, Bool.not_eq_true _ ▸ hkeep⟩)

theorem goesWith_event {event : EventRow}
    (h : (HistoryRow.event event).goesWith table ids = true) :
    table = .events ∧ ids.contains event.eventKey = true :=
  (Bool.and_eq_true_iff.mp h).imp_left beq_iff_eq.mp

theorem goesWith_decision {decision : DecisionRow}
    (h : (HistoryRow.decision decision).goesWith table ids = true) :
    table = .decisions ∧ ids.contains decision.decisionId = true :=
  (Bool.and_eq_true_iff.mp h).imp_left beq_iff_eq.mp

theorem goesWith_leg {leg : LegRow} (h : (HistoryRow.leg leg).goesWith table ids = true) :
    table = .decisions ∧ ids.contains leg.decisionId = true :=
  (Bool.and_eq_true_iff.mp h).imp_left beq_iff_eq.mp

theorem goesWith_outcome {outcome : OutcomeRow}
    (h : (HistoryRow.outcome outcome).goesWith table ids = true) :
    table = .outcomes ∧ ids.contains outcome.outcomeId = true :=
  (Bool.and_eq_true_iff.mp h).imp_left beq_iff_eq.mp

section

variable (h : deleteArchived tools payload cutoff database = .ok after)

include h

theorem archived_outcome {outcome : OutcomeRow} (hstored : outcome ∈ database.outcomes.rows)
    (hgoes : (HistoryRow.outcome outcome).goesWith payload.table payload.ids = true) :
    .outcome outcome ∈ payload.rows := by
  obtain ⟨htable, hid⟩ := goesWith_outcome hgoes
  obtain ⟨found, heligible, hfound, hkey⟩ := (deleteArchived_ok h).2.1 _ hid
  rw [htable] at heligible
  obtain ⟨live, hlive, rfl⟩ := mem_map.mp heligible
  obtain rfl := outcome_of_key (mem_filter.mp hlive).1 hstored hkey
  exact hfound

theorem archived_decision {decision : DecisionRow} (hstored : decision ∈ database.decisions.rows)
    (hgoes : (HistoryRow.decision decision).goesWith payload.table payload.ids = true) :
    .decision decision ∈ payload.rows ∧ decisionFree database decision.decisionId = true := by
  obtain ⟨htable, hid⟩ := goesWith_decision hgoes
  obtain ⟨found, heligible, hfound, hkey⟩ := (deleteArchived_ok h).2.1 _ hid
  rw [htable] at heligible
  obtain ⟨live, hlive, rfl⟩ := mem_map.mp heligible
  obtain ⟨hrow, hgate⟩ := mem_filter.mp hlive
  obtain rfl := decision_of_key hrow hstored hkey
  exact ⟨hfound, (Bool.and_eq_true_iff.mp hgate).2⟩

theorem archived_event {event : EventRow} (hstored : event ∈ database.events.rows)
    (hgoes : (HistoryRow.event event).goesWith payload.table payload.ids = true) :
    .event event ∈ payload.rows ∧ eventFree tools database event.eventKey = true := by
  obtain ⟨htable, hid⟩ := goesWith_event hgoes
  obtain ⟨found, heligible, hfound, hkey⟩ := (deleteArchived_ok h).2.1 _ hid
  rw [htable] at heligible
  obtain ⟨live, hlive, rfl⟩ := mem_map.mp heligible
  obtain ⟨hrow, hgate⟩ := mem_filter.mp hlive
  obtain rfl := event_of_key hrow hstored hkey
  exact ⟨hfound, (Bool.and_eq_true_iff.mp hgate).2⟩

theorem archived_leg {leg : LegRow} (hstored : leg ∈ database.decisionLegs.rows)
    (hgoes : (HistoryRow.leg leg).goesWith payload.table payload.ids = true) :
    leg ∈ payload.decisionLegs ∧ ∃ decision ∈ database.decisions.rows,
      decision.decisionId = leg.decisionId := by
  obtain ⟨htable, hid⟩ := goesWith_leg hgoes
  obtain ⟨-, hids, hlegs⟩ := deleteArchived_ok h
  refine ⟨hlegs htable ▸ mem_legsOf.mpr ⟨hstored, hid⟩, ?_⟩
  obtain ⟨found, heligible, -, hkey⟩ := hids _ hid
  rw [htable] at heligible
  obtain ⟨live, hlive, rfl⟩ := mem_map.mp heligible
  exact ⟨live, (mem_filter.mp hlive).1, hkey⟩

omit h in
theorem decisionFree_iff {id : Text} : decisionFree database id = true ↔
    (∀ outcome ∈ database.outcomes.rows, outcome.decisionId ≠ some id) ∧
      some id ∉ database.correlationIds := by
  have hnone : (∀ correlation ∈ database.correlationIds, ¬ correlation = some id) ↔
      some id ∉ database.correlationIds :=
    ⟨fun h hmem => h _ hmem rfl, fun h correlation hmem heq => h (heq ▸ hmem)⟩
  simp [decisionFree, hnone]

omit h in
theorem eventFree_iff {key : Text} : eventFree tools database key = true ↔
    (∀ decision ∈ database.decisions.rows, decision.eventKey ≠ some key ∧
      decision.featureSnapshotId ≠ some key) ∧
    (∀ outcome ∈ database.outcomes.rows, outcome.eventKey ≠ key) ∧
    ∀ event ∈ database.events.rows, event.eventType = "feature_snapshot".toList →
      tools.parentEventKey event.attributesJson ≠ some key := by
  simp [eventFree, and_assoc, forall_and]

/-- **A delete moves its batch.** -/
theorem deleteArchived_moved : Moved tools (· ∈ payload.contents) database after := by
  obtain rfl := (deleteArchived_ok h).1
  have hsub : ∀ {row}, row ∈ (database.remove payload.table payload.ids).contents →
      row ∈ database.contents := fun hrow => (mem_remove.mp hrow).1
  refine
    { added := fun row hrow => hsub hrow
      correlations := ?_, kept := ?_, decisions := ?_, events := ?_, legs := ?_ }
  · cases payload.table <;> rfl
  · intro row hrow hgone
    have hgoes := gone_remove hrow hgone
    cases row with
    | event event =>
      exact mem_append_left _ (archived_event h (mem_contents_event.mp hrow) hgoes).1
    | decision decision =>
      exact mem_append_left _ (archived_decision h (mem_contents_decision.mp hrow) hgoes).1
    | leg leg =>
      exact mem_append_right _
        (mem_map_of_mem (archived_leg h (mem_contents_leg.mp hrow) hgoes).1)
    | outcome outcome =>
      exact mem_append_left _ (archived_outcome h (mem_contents_outcome.mp hrow) hgoes)
  · intro decision hdecision hgone
    obtain ⟨houtcomes, hcorrelations⟩ := decisionFree_iff.mp
      (archived_decision h (mem_contents_decision.mp hdecision) (gone_remove hdecision hgone)).2
    refine ⟨fun outcome houtcome => ?_, ?_⟩
    · exact houtcomes outcome (mem_contents_outcome.mp (hsub houtcome))
    · cases htable : payload.table <;> exact hcorrelations
  · intro event hevent hgone
    obtain ⟨hdecisions, houtcomes, hsnapshots⟩ := eventFree_iff.mp
      (archived_event h (mem_contents_event.mp hevent) (gone_remove hevent hgone)).2
    refine ⟨fun decision hdecision => ?_, fun outcome houtcome => ?_, fun snapshot hsnapshot => ?_⟩
    · exact hdecisions decision (mem_contents_decision.mp (hsub hdecision))
    · exact houtcomes outcome (mem_contents_outcome.mp (hsub houtcome))
    · exact hsnapshots snapshot (mem_contents_event.mp (hsub hsnapshot))
  · intro leg hleg
    constructor
    · intro hgone
      have hgoes := gone_remove hleg hgone
      obtain ⟨-, decision, hdecision, hid⟩ := archived_leg h (mem_contents_leg.mp hleg) hgoes
      refine ⟨decision, mem_contents_decision.mpr hdecision, fun hkept => ?_, hid⟩
      have hstays := (mem_remove.mp hkept).2
      rw [HistoryRow.goesWith, hid] at hstays
      exact absurd (hgoes.symm.trans hstays) (by decide)
    · rintro ⟨decision, hdecision, hgone, hid⟩ hkept
      have hgoes := gone_remove hdecision hgone
      have hstays := (mem_remove.mp hkept).2
      rw [HistoryRow.goesWith, ← hid] at hstays
      exact absurd (hgoes.symm.trans hstays) (by decide)

end

end Delete

/-! ## What every process keeps -/

section Runs

/-- A file of the payload's digest was read back, and decompressed to it. -/
def ReadBack (tools : ArchiveTools Json Gzip Digest) (world : World Gzip Digest) (json : Json) :
    Prop :=
  ∃ content, (tools.sha256 json, content) ∈ world.reads ∧ tools.decompress content = some json

/-- The archive file of the payload: in its place, restoring the payload, and compared. -/
structure VerifiedArchive (tools : ArchiveTools Json Gzip Digest) (world : World Gzip Digest)
    (payload : Payload) (content : Gzip) : Prop where
  stored : world.files (tools.sha256 (tools.encode payload)) = some content
  restores : (tools.decompress content).bind tools.decode = some payload
  compared : ReadBack tools world (tools.encode payload)

/-- The row is in a verified archive, as it is. -/
def Archived (tools : ArchiveTools Json Gzip Digest) (world : World Gzip Digest)
    (row : HistoryRow) : Prop :=
  ∃ payload content, VerifiedArchive tools world payload content ∧ row ∈ payload.contents

/-- What was read back stays in its place, and no committed row is lost. -/
structure ArchiveInv (tools : ArchiveTools Json Gzip Digest) (world : World Gzip Digest) :
    Prop where
  files : ∀ json, ReadBack tools world json → ∃ content,
    world.files (tools.sha256 json) = some content ∧ tools.decompress content = some json
  rows : ∀ row ∈ world.committed, row ∈ world.database.contents ∨ row ∈ world.removedByOthers ∨
    ∃ payload, ReadBack tools world (tools.encode payload) ∧ row ∈ payload.contents

/-- Nothing that was read is forgotten. -/
def Remembers (s t : World Gzip Digest) : Prop := s.reads ⊆ t.reads

/-- A file is only put under its own digest, and a batch only deleted when it was read back. -/
def ArchiveSafe (tools : ArchiveTools Json Gzip Digest) (_ : ArchiveJob)
    (call : ArchiveCall Gzip Digest) (world : World Gzip Digest) : Prop :=
  match call with
  | .replaceArchive digest content =>
    ∃ json, digest = tools.sha256 json ∧ content = tools.compress json
  | .deleteBatch payload _ => ReadBack tools world (tools.encode payload)
  | _ => True

variable {world s t : World Gzip Digest} {json : Json} {payload : Payload} {job : ArchiveJob}

theorem ReadBack.remembered (h : ReadBack tools s json) (hst : Remembers s t) :
    ReadBack tools t json := by
  obtain ⟨content, hread, hjson⟩ := h
  exact ⟨content, hst hread, hjson⟩

theorem ReadBack.verified (htools : tools.Faithful) (hinv : ArchiveInv tools world)
    (h : ReadBack tools world (tools.encode payload)) :
    ∃ content, VerifiedArchive tools world payload content := by
  obtain ⟨content, hstored, hjson⟩ := hinv.files _ h
  refine ⟨content, hstored, ?_, h⟩
  rw [hjson, Option.bind_some]
  exact htools.decode_encode payload

theorem ArchiveInv.commit (hinv : ArchiveInv tools world) (database : Database) :
    ArchiveInv tools (world.commit database) := by
  refine ⟨hinv.files, fun row hrow => ?_⟩
  by_cases hstored : row ∈ database.contents
  · exact .inl hstored
  · have hremoved : row ∈ world.removedByOthers ++ world.database.contents →
        row ∈ (world.commit database).removedByOthers :=
      fun hmem => mem_filter.mpr ⟨hmem, decide_eq_true hstored⟩
    rcases mem_append.mp hrow with hbefore | hnew
    · rcases hinv.rows row hbefore with hold | hgone | harchived
      · exact .inr (.inl (hremoved (mem_append_right _ hold)))
      · exact .inr (.inl (hremoved (mem_append_left _ hgone)))
      · exact .inr (.inr harchived)
    · exact absurd hnew hstored

theorem ArchiveInv.start (database : Database) (files : Digest → Option Gzip) :
    ArchiveInv tools (World.start database files) where
  files := by
    rintro json ⟨content, hread, -⟩
    cases hread
  rows _ hrow := .inl hrow

variable [DecidableEq Digest] {call : ArchiveCall Gzip Digest} {course : Course}

/-- A call leaves the world, the file it put, the read it made or the tables after its delete. -/
inductive Effect (tools : ArchiveTools Json Gzip Digest) (world : World Gzip Digest) :
    ArchiveCall Gzip Digest → World Gzip Digest → Prop
  | none (call : ArchiveCall Gzip Digest) : Effect tools world call world
  | replaced (digest : Digest) (content : Gzip) :
    Effect tools world (.replaceArchive digest content)
      { world with files := Function.update world.files digest (some content) }
  | read (digest : Digest) (content : Gzip) (hstored : world.files digest = some content) :
      Effect tools world (.readArchive digest)
        { world with reads := (digest, content) :: world.reads }
  | deleted (payload : Payload) (cutoff : Text) (after : Database)
      (hdelete : deleteArchived tools payload cutoff world.database = .ok after) :
      Effect tools world (.deleteBatch payload cutoff) { world with database := after }

theorem respond_effect : Effect tools world call (respond tools course world call).2 := by
  cases call with
  | replaceArchive digest content => exact .replaced digest content
  | readArchive digest =>
    unfold respond
    dsimp only
    split
    · exact .none _
    · rename_i content hstored
      exact .read digest content hstored
  | archiveSize digest =>
    unfold respond
    dsimp only
    split
    · exact .none _
    · exact .none _
  | deleteBatch payload cutoff =>
    unfold respond
    dsimp only
    split
    · exact .none _
    · rename_i after hdelete
      exact .deleted payload cutoff after hdelete
  | _ => exact .none _

theorem cutShort_effect : Effect tools world call (cutShort tools call course world) := by
  unfold cutShort
  split
  · exact respond_effect
  · exact .none _

theorem perform_effect :
    Effect tools world call ((archiveHost tools).perform call course world).2 := by
  unfold archiveHost performArchive
  dsimp only
  split
  · exact respond_effect
  · exact cutShort_effect

theorem Effect.remembers (h : Effect tools world call t) : Remembers world t := by
  cases h with
  | none => exact List.Subset.refl _
  | replaced digest content => exact List.Subset.refl _
  | read digest content hstored => exact subset_cons_self _ _
  | deleted payload cutoff after hdelete => exact List.Subset.refl _

theorem Effect.keeps (htools : tools.Faithful) (hinv : ArchiveInv tools world)
    (hsafe : ArchiveSafe tools job call world) (h : Effect tools world call t) :
    ArchiveInv tools t := by
  cases h with
  | none => exact hinv
  | replaced digest content =>
    obtain ⟨json, rfl, rfl⟩ := hsafe
    refine ⟨fun other hread => ?_, hinv.rows⟩
    by_cases hdigest : tools.sha256 other = tools.sha256 json
    · -- the only text of that digest is the one the new file holds
      obtain rfl := htools.sha256_injective hdigest
      exact ⟨_, Function.update_self .., htools.decompress_compress other⟩
    · obtain ⟨content, hstored, hjson⟩ := hinv.files other hread
      exact ⟨content, (Function.update_of_ne hdigest ..).trans hstored, hjson⟩
  | read digest content hstored =>
    refine ⟨fun other hread => ?_, fun row hrow => ?_⟩
    · obtain ⟨content', hmem, hjson⟩ := hread
      rcases mem_cons.mp hmem with heq | hmem
      · obtain ⟨rfl, rfl⟩ := Prod.mk.inj heq
        exact ⟨content', hstored, hjson⟩
      · exact hinv.files other ⟨content', hmem, hjson⟩
    · refine (hinv.rows row hrow).imp_right fun hor => hor.imp_right ?_
      rintro ⟨payload, hread, hpayload⟩
      exact ⟨payload, hread.remembered (subset_cons_self _ _), hpayload⟩
  | deleted payload cutoff after hdelete =>
    refine ⟨hinv.files, fun row hrow => ?_⟩
    rcases hinv.rows row hrow with hstored | helse
    · by_cases hkept : row ∈ after.contents
      · exact .inl hkept
      · exact .inr (.inr ⟨payload, hsafe, (deleteArchived_moved hdelete).kept row hstored hkept⟩)
    · exact .inr helse

/-! ## The processes -/

variable {α β : Type}

/-- Wherever the process is, it makes only safe calls from there. -/
def Ends (tools : ArchiveTools Json Gzip Digest) (job : ArchiveJob) (p : Archive Gzip Digest α)
    (Q : α → World Gzip Digest → Prop) (s : World Gzip Digest) : Prop :=
  p.wp (archiveHost tools) ⟨ArchiveInv tools, Remembers, ArchiveSafe tools job⟩ Q
    (fun _ _ => True) s

variable {p : Archive Gzip Digest α}

theorem Ends.bind {f : α → Archive Gzip Digest β} {Q : α → World Gzip Digest → Prop}
    {R : β → World Gzip Digest → Prop} (hp : Ends tools job p Q s)
    (hf : ∀ a t, Q a t → Ends tools job (f a) R t) : Ends tools job (p >>= f) R s :=
  (Program.wp_bind p f).mpr (Program.wp_mono hf (fun _ _ _ => trivial) hp)

theorem Ends.weaken {Q : α → World Gzip Digest → Prop} (hp : Ends tools job p Q s) :
    Ends tools job p (fun _ _ => True) s :=
  Program.wp_mono (fun _ _ _ => trivial) (fun _ _ _ => trivial) hp

theorem Ends.attempt {caught : Fault → Bool} (hp : Ends tools job p (fun _ _ => True) s) :
    Ends tools job (p.attempt caught) (fun _ _ => True) s :=
  Program.wp_attempt (Program.wp_mono (fun _ _ _ => trivial)
    (fun _ _ _ => ⟨fun _ => trivial, fun _ => trivial⟩) hp)

/-- The call is safe in every world. -/
def Free (tools : ArchiveTools Json Gzip Digest) (call : ArchiveCall Gzip Digest) : Prop :=
  ∀ job world, ArchiveSafe tools job call world

theorem ends_free (hp : p.Only (Free tools)) {P : Prop} (h : P → ReadBack tools s json) :
    Ends tools job p (fun _ t => P → ReadBack tools t json) s :=
  Program.wp_mono (fun _ _ hQ => hQ) (fun _ _ _ => trivial)
    (Program.Only.keeps (J := fun t => P → ReadBack tools t json)
      (fun _ _ hs hst hP => (hs hP).remembered hst)
      (fun _ hcall t _ ht => ⟨hcall job t, fun _ hP =>
        (ht hP).remembered perform_effect.remembers⟩) hp h)

theorem ends_perform (hfree : Free tools call) :
    Ends tools job (Program.perform call) (fun _ _ => True) s :=
  (ends_free (Program.only_perform.mpr hfree)
    (False.elim : False → ReadBack tools s (tools.encode ⟨.events, [], []⟩))).weaken

theorem ends_readArchive {digest : Digest} :
    Ends tools job (Program.perform (ArchiveCall.readArchive digest))
      (fun content t => (digest, content) ∈ t.reads) s := by
  refine Program.wp_perform fun t _ _ => ⟨trivial, fun course => ⟨fun content hanswer => ?_,
    fun _ _ => trivial⟩⟩
  unfold archiveHost performArchive at hanswer ⊢
  dsimp only at hanswer ⊢
  split at hanswer
  · unfold respond at hanswer ⊢
    dsimp only at hanswer ⊢
    split at hanswer
    · cases hanswer
    · rename_i stored hstored
      cases hanswer
      exact mem_cons_self
  · cases hanswer

theorem ends_archiveEnd (deadline : ℚ) (result : ArchiveResult) :
    Ends tools job (archiveEnd deadline result) (fun _ _ => True) s :=
  (ends_perform (by exact fun _ _ => trivial)).bind fun _ _ _ => trivial

theorem Effect.moves (htools : tools.Faithful) (hinv : ArchiveInv tools world)
    (hsafe : ArchiveSafe tools job call world) (h : Effect tools world call t) :
    Moved tools (Archived tools world) world.database t.database := by
  cases h with
  | none => exact Moved.refl _ _
  | replaced digest content => exact Moved.refl _ _
  | read digest content hstored => exact Moved.refl _ _
  | deleted payload cutoff after hdelete =>
    refine (deleteArchived_moved hdelete).mono fun row hrow => ?_
    obtain ⟨content, hverified⟩ := ReadBack.verified htools hinv hsafe
    exact ⟨payload, content, hverified, hrow⟩

theorem ends_storeArchive : Ends tools job
    (storeArchive (tools.sha256 json) (tools.compress json)) (fun _ _ => True) s := by
  unfold storeArchive
  refine (ends_perform (by exact fun _ _ => trivial)).bind fun present t _ => ?_
  by_cases hpresent : present = true
  · rw [if_pos hpresent]
    trivial
  · rw [if_neg hpresent]
    exact ends_perform fun _ _ => ⟨json, rfl, rfl⟩

variable [DecidableEq Json]

theorem ends_verifiedOperationalArchive :
    Ends tools job (verifiedOperationalArchive tools json) (fun _ t => ReadBack tools t json)
      s := by
  unfold verifiedOperationalArchive
  refine (ends_perform (by exact fun _ _ => trivial)).bind fun _ _ _ => ?_
  refine ends_storeArchive.bind fun _ _ _ => ?_
  refine ends_readArchive.bind fun content t hread => ?_
  refine Ends.bind (Q := fun _ t => ReadBack tools t json) ?_ fun _ t hback => ?_
  · unfold verifyArchive
    split
    · trivial
    · rename_i found hfound
      split
      · trivial
      · rename_i hsame
        exact ⟨content, hread, hfound.trans (congrArg some (not_not.mp hsame))⟩
  · have hrest : (do
        Program.perform ArchiveCall.syncDirectories
        Program.perform (ArchiveCall.archiveSize (tools.sha256 json)) :
          Archive Gzip Digest Nat).Only (Free tools) :=
      (Program.only_perform.mpr fun _ _ => trivial).bind fun _ =>
        Program.only_perform.mpr fun _ _ => trivial
    exact Program.wp_mono (fun _ _ hQ => hQ trivial) (fun _ _ _ => trivial)
      (ends_free (P := True) hrest fun _ => hback)

/-- A batch is deleted only when its archive was read back. -/
theorem ends_archiveTable (cutoff : Text) (table : ArchivedTable) :
    Ends tools job (archiveTable tools cutoff table) (fun _ _ => True) s := by
  unfold archiveTable
  refine (ends_perform (by exact fun _ _ => trivial)).bind fun rows _ _ => ?_
  split
  · trivial
  · refine Ends.bind (Q := fun _ _ => True) ?_ fun legs _ _ => ?_
    · unfold readLegs
      by_cases htable : table = .decisions
      · rw [if_pos htable]
        exact ends_perform (by exact fun _ _ => trivial)
      · rw [if_neg htable]
        trivial
    · unfold archiveBatch
      refine ends_verifiedOperationalArchive.bind fun size t hback => ?_
      refine Ends.bind (Q := fun _ _ => True) ?_ fun _ _ _ => trivial
      exact Program.wp_perform fun u htu _ =>
        ⟨hback.remembered htu, fun _ => ⟨fun _ _ => trivial, fun _ _ => trivial⟩⟩

theorem ends_archiveRound (cutoff : Text) (deadline : ℚ) : ∀ (tables : List ArchivedTable)
    (progress : Bool) (result : ArchiveResult) (s : World Gzip Digest),
    Ends tools job (archiveRound tools cutoff deadline tables progress result)
      (fun _ _ => True) s := by
  intro tables
  induction tables with
  | nil => exact fun _ _ _ => trivial
  | cons table rest ih =>
    intro progress result s
    unfold archiveRound
    refine (ends_perform (by exact fun _ _ => trivial)).bind fun now _ _ => ?_
    split
    · trivial
    · refine (ends_archiveTable cutoff table).attempt.bind fun batch t _ => ?_
      split
      · trivial
      · exact ih progress result t
      · exact ih true _ t

theorem ends_archiveRounds (cutoff : Text) (deadline : ℚ) : ∀ (rounds : Nat)
    (result : ArchiveResult) (s : World Gzip Digest),
    Ends tools job (archiveRounds tools cutoff deadline rounds result) (fun _ _ => True) s := by
  intro rounds
  induction rounds with
  | zero => exact fun _ _ => trivial
  | succ rounds ih =>
    intro result s
    unfold archiveRounds
    refine (ends_perform (by exact fun _ _ => trivial)).bind fun now _ _ => ?_
    split
    · refine (ends_archiveRound ..).bind fun round t _ => ?_
      split
      · trivial
      · exact ih _ t
      · exact ends_archiveEnd deadline _
    · exact ends_archiveEnd deadline result

theorem ends_archiveOperationalHistory :
    Ends tools job (archiveOperationalHistory tools job) (fun _ _ => True) s := by
  unfold archiveOperationalHistory
  split
  · trivial
  · refine (ends_perform (by exact fun _ _ => trivial)).bind fun present _ _ => ?_
    split
    · trivial
    · split
      · trivial
      · refine (ends_perform (by exact fun _ _ => trivial)).bind fun started _ _ => ?_
        refine (ends_perform (by exact fun _ _ => trivial)).bind fun _ t _ => ?_
        exact ends_archiveRounds _ _ _ _ t

theorem archiveSystem_kept (htools : tools.Faithful) : (archiveSystem tools).Kept anyStep
    (ArchiveInv tools) Remembers (ArchiveSafe tools) where
  refl _ := List.Subset.refl _
  trans := List.Subset.trans
  others _ database hinv _ := ⟨List.Subset.refl _, hinv.commit database⟩
  perform _ _ _ _ hinv hsafe := perform_effect.keeps htools hinv hsafe
  cut _ _ _ _ hinv hsafe := cutShort_effect.keeps htools hinv hsafe
  job _ _ _ := ends_archiveOperationalHistory

theorem archiveSystem_guarded : (archiveSystem tools).Guarded (ArchiveInv tools) Remembers
    (ArchiveSafe tools) where
  perform _ _ _ _ _ _ := perform_effect.remembers
  cut _ _ _ _ _ _ := cutShort_effect.remembers

/-- **Operational history is only moved, never lost.** In every interleaving of runs of the archive
with each other and with other writers, stopped or failing anywhere: every row ever committed is in
the tables, in a verified archive, or was deleted by another writer and is not back; and a turn of
the archive deletes only rows that are in a verified archive as they are, legs exactly with their
decision, and nothing that is still referred to. -/
theorem history_only_moved (htools : tools.Faithful) {database : Database}
    {files : Digest → Option Gzip} {turns}
    {crew : Crew (ArchiveCall Gzip Digest) Answer Fault (World Gzip Digest) ArchiveJob
      ArchiveResult}
    (hrun : Run (archiveSystem tools).crewStep (System.crewAllowed anyStep)
      ⟨World.start database files, fun _ => none⟩ turns crew) :
    (∀ row ∈ crew.world.committed, row ∈ crew.world.database.contents ∨
      row ∈ crew.world.removedByOthers ∨ Archived tools crew.world row) ∧
    ∀ turn, (∀ commit, turn ≠ .others commit) →
      Moved tools (Archived tools crew.world) crew.world.database
        ((archiveSystem tools).crewStep crew turn).2.world.database := by
  have hsecured := System.sound_crew (archiveSystem_kept htools) archiveSystem_guarded
    (ArchiveInv.start database files) hrun
  have hinv : ArchiveInv tools crew.world := (hsecured 0).1
  constructor
  · intro row hrow
    refine (hinv.rows row hrow).imp_right fun hor => hor.imp_right ?_
    rintro ⟨payload, hback, hpayload⟩
    obtain ⟨content, hverified⟩ := hback.verified htools hinv
    exact ⟨payload, content, hverified, hpayload⟩
  · intro turn hown
    rcases hsecured.own_turn (archiveSystem_kept htools) hown with
      hsame | ⟨job, call, course, -, hsafe, hperform | hcut⟩
    · rw [hsame]
      exact Moved.refl _ _
    · rw [hperform]
      exact perform_effect.moves htools hinv hsafe
    · rw [hcut]
      exact cutShort_effect.moves htools hinv hsafe

end Runs

/-! ## One decision, archived with its leg -/

/-- Everything stands for itself. -/
def plainTools : ArchiveTools Payload Payload Payload where
  parentEventKey _ := none
  rowSize _ := 600
  encode payload := payload
  decode payload := some payload
  length payload := 600 * payload.rows.length
  sha256 payload := payload
  compress payload := payload
  decompress payload := some payload
  fileSize payload := 200 * payload.rows.length

theorem plainTools_faithful : plainTools.Faithful :=
  ⟨fun _ => rfl, fun _ => rfl, fun _ _ => id⟩

def oldDecision : DecisionRow where
  decisionId := "d-1".toList
  eventKey := none
  featureSnapshotId := none
  sessionDate := some "2026-07-01".toList
  strategyName := "vertical".toList
  strategyVersion := "v1".toList
  decisionAt := "2026-07-01T14:00:00+00:00".toList
  availableAt := "2026-07-01T14:00:00+00:00".toList
  status := "ready".toList
  action := "open".toList
  side := "call".toList
  reason := none
  gammaRegime := none
  attributesJson := "{}".toList
  cardOpportunity := none
  cardDirection := none
  cardSetup := none
  cardMode := none
  cardTrigger := none
  createdAt := "2026-07-01T14:00:00+00:00".toList

def oldLeg : LegRow where
  decisionId := "d-1".toList
  legIndex := 0
  instrumentId := "SPXW:20260701:6350:C".toList
  rightCode := some "C".toList
  expiry := some "2026-07-01".toList
  strike := some (.finite 6350)
  quantity := some (.finite 1)
  bid := some (.finite 12)
  ask := some (.finite 13)
  delta := none
  gamma := none
  theta := none
  vega := none
  quoteSourceAt := "2026-07-01T14:00:00+00:00".toList
  quoteAvailableAt := "2026-07-01T14:00:00+00:00".toList
  attributesJson := "{}".toList
  createdAt := "2026-07-01T14:00:00+00:00".toList

def oldDatabase : Database :=
  { Database.empty with
    decisions := ⟨[oldDecision], by decide, by decide⟩
    decisionLegs := ⟨[oldLeg], by decide, by decide⟩ }

/-- Nine days later, up to the call before the delete. -/
def archiveTurns : List (CrewTurn ArchiveJob Database Course) :=
  .start 0 { now := 1783641600000000, rounds := 2 } :: List.replicate 15 (.call 0 {})

def archiveRun := play (archiveSystem plainTools).crewStep
  ⟨World.start oldDatabase fun _ => none, fun _ => none⟩ archiveTurns

theorem archiveRun_before :
    HistoryRow.decision oldDecision ∈ archiveRun.2.world.database.contents := by
  decide +kernel

theorem archiveRun_after : HistoryRow.decision oldDecision ∉
    ((archiveSystem plainTools).crewStep archiveRun.2 (.call 0 {})).2.world.database.contents := by
  decide +kernel

theorem history_only_moved_decision : ∃ turns crew,
    Run (archiveSystem plainTools).crewStep (System.crewAllowed anyStep)
      ⟨World.start oldDatabase fun _ => none, fun _ => none⟩ turns crew ∧
    HistoryRow.decision oldDecision ∈ crew.world.database.contents ∧
    Archived plainTools crew.world (.decision oldDecision) := by
  have hrun : Run (archiveSystem plainTools).crewStep (System.crewAllowed anyStep)
      ⟨World.start oldDatabase fun _ => none, fun _ => none⟩ archiveRun.1 archiveRun.2 :=
    Run.play (System.crewAllowed_own (by
      intro commit hmem
      simp [archiveTurns] at hmem) _)
  exact ⟨archiveRun.1, archiveRun.2, hrun, archiveRun_before,
    ((history_only_moved plainTools_faithful hrun).2 (.call 0 {}) nofun).kept _ archiveRun_before
      archiveRun_after⟩

end SpxSpark.Infrastructure
