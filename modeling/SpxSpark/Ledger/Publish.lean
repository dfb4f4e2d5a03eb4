import SpxSpark.Ledger.Statements

/-!
# Publish — what the core and report owners do to the outbox

`Publishes` is a new event with its targets, `Republishes` the same event offered again, and
`cancelUnsent` in a loop ends every unsent target of a selection.
-/

open SpxSpark.Domain SpxSpark.Lib

namespace SpxSpark.Ledger

open Txn List

variable {D : Type} {s s' : Ledger D} {G : Prop} {now : DateTime}

/-- A path of moves that leaves the owners alone. -/
structure Advance (now : DateTime) (P : Label D → Prop) (s s' : Ledger D) : Prop where
  moves : Moves now P (outbox s) (outbox s')
  owners : s'.runtimeOwners = s.runtimeOwners

variable {P : Label D → Prop}

theorem Advance.refl (s : Ledger D) : Advance now P s s := ⟨.refl _, rfl⟩

theorem Advance.trans {a b c : Ledger D} (h : Advance now P a b) (h' : Advance now P b c) :
    Advance now P a c :=
  ⟨h.moves.trans h'.moves, h'.owners.trans h.owners⟩

theorem Advance.mono {P' : Label D → Prop} (hP : ∀ l, P l → P' l) (h : Advance now P s s') :
    Advance now P' s s' := ⟨h.moves.mono hP, h.owners⟩

theorem Advance.single {l : Label D} (hl : P l) (hm : Move now l (outbox s) (outbox s'))
    (ho : s'.runtimeOwners = s.runtimeOwners) : Advance now P s s' := ⟨.single hm hl, ho⟩

/-! ## Invariants of the publishing side -/

/-- A target id is made of its event and its key, and its event is stored. -/
structure Keyed (o : Outbox D) : Prop where
  targetId : ∀ id t, o.targets id = some t → t.targetId = id ∧ id = targetIdOf t.eventId t.targetKey
  event : ∀ id t, o.targets id = some t → ∃ e ∈ o.events, e.eventId = t.eventId

variable {o o' : Outbox D}

theorem Move.keyed {l : Label D} (h : Move now l o o') (hk : Keyed o) : Keyed o' := by
  have hcases : ∀ id t', o'.targets id = some t' →
      (∃ t, o.targets id = some t ∧ SameTarget t t') ∨
        (t'.targetId = id ∧ Fresh t' ∧ ∃ e ∈ o.events, e.eventId = t'.eventId) := by
    intro id t' ht'
    rcases h.target_cases id with he | ⟨t, -, hid, -, ht, hf, hev⟩
      | ⟨k, t, u, as, rs, -, ht, hu, hs⟩
    · exact .inl ⟨t', he.symm.trans ht', .refl t'⟩
    · rw [ht'] at ht
      cases ht
      exact .inr ⟨hid, hf, hev⟩
    · rw [ht'] at hu
      cases hu
      exact .inl ⟨t, ht, hs.same⟩
  refine ⟨?_, ?_⟩
  · intro id t' ht'
    rcases hcases id t' ht' with ⟨t, ht, hsame⟩ | ⟨hid, ⟨ev, m, at', x, -, rfl⟩, -⟩
    · rw [hsame.targetId, hsame.eventId, hsame.targetKey]
      exact hk.targetId id t ht
    · exact ⟨hid, hid.symm⟩
  · intro id t' ht'
    rcases hcases id t' ht' with ⟨t, ht, hsame⟩ | ⟨-, -, e, he, hev⟩
    · obtain ⟨e, he, hev⟩ := hk.event id t ht
      exact ⟨e, h.events_sub e he, hev.trans hsame.eventId.symm⟩
    · exact ⟨e, h.events_sub e he, hev⟩

theorem Moves.keyed (h : Moves now P o o') (hk : Keyed o) :
    Keyed o' := h.keeps (fun _ _ _ _ hm => hm.keyed) hk

theorem Moves.events_eq (h : Moves now P o o') (hP : ∀ e, ¬ P (.event e)) :
    o'.events = o.events := by
  let R (a b : Outbox D) : Prop := b.events = a.events
  refine h.relates (R := R) (fun _ => rfl) (fun {_ _ _} hab hbc => Eq.trans hbc hab) ?_
  intro l hl a b hm
  cases hm with
  | event => exact absurd hl (hP _)
  | target => rfl
  | fence => rfl
  | shift => rfl

theorem Moves.targets_mono (h : Moves now P o o') {id : String} (hne : o.targets id ≠ none) :
    o'.targets id ≠ none := by
  refine h.keeps (I := fun o => o.targets id ≠ none) ?_ hne
  intro l _ a b hm ha
  obtain ⟨t, ht⟩ := Option.ne_none_iff_exists'.mp ha
  obtain ⟨t', ht', -⟩ := hm.target_step ht
  rw [ht']
  simp

theorem Moves.fences_sub (h : Moves now P o o') : ∀ c ∈ o.fences, c ∈ o'.fences :=
  h.relates (R := fun a b => ∀ c ∈ a.fences, c ∈ b.fences) (fun _ _ h => h)
    (fun h h' c hc => h' c (h c hc)) fun _ _ _ _ hm => hm.fences_sub

/-! ## Inserting the targets of an event -/

variable {maxAttempts : Nat} {createdAt : DateTime}

variable {eventId : String}

theorem freshTarget_check {x : NotificationTargetV1} (he : sqlNonBlank eventId = true)
    (hm : 0 < maxAttempts) (hc : 0 < micros createdAt) :
    (freshTarget eventId maxAttempts createdAt x).check = true := by
  have hid : sqlNonBlank (targetIdOf eventId x.key.value) = true := by
    unfold targetIdOf
    exact sqlNonBlank_append _ (sqlNonBlank_append _ he)
  simp [TargetRow.check, freshTarget, TargetRow.statusColumns, TargetRow.unclaimed, hid,
    sqlNonBlank_token, hm, hc, TargetRow.isFailure]

/-- The target of `x` under an event is stored. -/
def HasTarget (o : Outbox D) (eventId : String) (x : NotificationTargetV1) : Prop :=
  o.targets (targetIdOf eventId x.key.value) ≠ none

/-- One insert: the row is added, or skipped because its id is taken or its CHECK fails. -/
theorem insertTarget_cases (now createdAt : DateTime) (x : NotificationTargetV1)
    (hm : 0 < maxAttempts) (hev : ∃ e ∈ s.events.rows, e.eventId = eventId) :
    let row := freshTarget eventId maxAttempts createdAt x
    let t := (s.targets.insertOrIgnore row).2
    (t = s.targets ∧ (Keyed (outbox s) → row.check = true → HasTarget (outbox s) eventId x)) ∨
      (¬ HasTarget (outbox s) eventId x ∧
        Move now (.target row) (outbox s) (outbox { s with targets := t }) ∧
        HasTarget (outbox { s with targets := t }) eventId x) := by
  intro row t
  cases hi : (s.targets.insertOrIgnore row).1 with
  | false =>
    obtain ⟨ht, hwhy⟩ := Table.insertOrIgnore_false hi
    refine .inl ⟨ht, fun hk hcheck => ?_⟩
    rcases hwhy with hbad | ⟨r, hr, hclash⟩
    · rw [show targetSchema.check = TargetRow.check from rfl, hcheck] at hbad
      cases hbad
    · have hrow := targetById_of_mem hr
      obtain ⟨-, hid⟩ := hk.targetId _ r hrow
      have hsame : r.targetId = targetIdOf eventId x.key.value := by
        simp only [targetSchema, row, freshTarget, Bool.or_eq_true, beq_iff_eq,
          Prod.mk.injEq] at hclash
        rcases hclash with h | ⟨h1, h2⟩
        · exact h
        · rw [hid, h1, h2]
      unfold HasTarget
      rw [← hsame]
      exact fun hn => Option.some_ne_none r (hrow.symm.trans hn)
  | true =>
    obtain ⟨hrows, -, hfree⟩ := Table.insert_ok (Table.insertOrIgnore_true hi)
    have hnone : targetById s row.targetId = none := by
      refine find?_eq_none.mpr fun r hr => ?_
      have := hfree r hr
      simp only [targetSchema, Bool.or_eq_false_iff, beq_eq_false_iff_ne] at this
      simpa using this.1
    have hlook : targetById { s with targets := t } =
        Function.update (targetById s) row.targetId (some row) := by
      funext id
      have hfind : targetById { s with targets := t } id =
          (s.targets.rows ++ [row]).find? (·.targetId = id) := by
        rw [← hrows]
        rfl
      rw [hfind, find?_append]
      by_cases hid : id = row.targetId
      · subst hid
        rw [Function.update_self]
        simp only [targetById] at hnone
        simp [hnone]
      · rw [Function.update_of_ne hid]
        have : decide (row.targetId = id) = false := by simpa using fun h => hid h.symm
        simp [targetById, this]
    have hout : outbox { s with targets := t } =
        { outbox s with targets :=
          Function.update (outbox s).targets row.targetId (some row) } := by
      simp only [outbox, hlook]
    refine .inr ⟨not_not.mpr hnone, ?_, ?_⟩
    · rw [hout]
      exact .target hev hnone ⟨eventId, maxAttempts, createdAt, x, hm, rfl⟩
    · unfold HasTarget
      rw [hout]
      simp [row, freshTarget]

/-- A label that adds a target of `eventId`. -/
def AddsTargetOf (eventId : String) (l : Label D) : Prop :=
  ∃ t, l = .target t ∧ t.eventId = eventId

variable {Q : Unit → Ledger D → Prop} {E : LedgerError → Prop}

/-- `insert_targets` for a stored event. -/
theorem wp_insertTargets (now : DateTime) {targets : List NotificationTargetV1}
    (hm : 0 < maxAttempts) (hev : ∃ e ∈ s.events.rows, e.eventId = eventId)
    (hok : ∀ t, Advance now (AddsTargetOf eventId) s { s with targets := t } →
      (Keyed (outbox s) → sqlNonBlank eventId = true → 0 < micros createdAt →
        ∀ x ∈ targets, HasTarget (outbox { s with targets := t }) eventId x) →
      ((∀ x ∈ targets, HasTarget (outbox s) eventId x) → t = s.targets) →
      Q () { s with targets := t }) :
    wp (insertTargets eventId targets maxAttempts createdAt) Q E s := by
  let I (todo : List NotificationTargetV1) (st : Ledger D) : Prop :=
    (∀ x ∈ todo, x ∈ targets) ∧ ∃ t, st = { s with targets := t } ∧
      Advance now (AddsTargetOf eventId) s st ∧
      (Keyed (outbox s) → sqlNonBlank eventId = true → 0 < micros createdAt →
        ∀ x ∈ targets, x ∈ todo ∨ HasTarget (outbox st) eventId x) ∧
      ((∀ x ∈ targets, HasTarget (outbox s) eventId x) → t = s.targets)
  have hstart : I targets s :=
    ⟨fun _ h => h, s.targets, rfl, .refl s, fun _ _ _ x hx => .inl hx, fun _ => rfl⟩
  refine wp_mono ?_ (fun _ h => h) (wp_forM I ?_ hstart)
  · rintro ⟨⟩ st ⟨-, t, rfl, hadv, hocc, hidle⟩
    refine hok t hadv ?_ hidle
    intro hk hne hc x hx
    exact (hocc hk hne hc x hx).resolve_left not_mem_nil
  · rintro y ys st ⟨hin, t, rfl, hadv, hocc, hidle⟩
    rw [wp_bind, wp_insertOrIgnoreInto, wp_pure]
    refine ⟨fun x hx => hin x (mem_cons_of_mem _ hx), _, rfl, ?_⟩
    rcases insertTarget_cases (s := { s with targets := t }) now createdAt y hm hev with
      ⟨hsame, hhas⟩ | ⟨hnot, hmove, hhas⟩
    · refine ⟨?_, ?_, ?_⟩
      · simp only [hsame]
        exact hadv
      · intro hk hne hc x hx
        simp only [hsame]
        rcases hocc hk hne hc x hx with hmem | hdone
        · rcases mem_cons.mp hmem with rfl | hmem
          · exact .inr (hhas (hadv.moves.keyed hk) (freshTarget_check hne hm hc))
          · exact .inl hmem
        · exact .inr hdone
      · intro hall
        rw [hsame]
        exact hidle hall
    · refine ⟨hadv.trans (.single ⟨_, rfl, rfl⟩ hmove rfl), ?_, ?_⟩
      · intro hk hne hc x hx
        rcases hocc hk hne hc x hx with hmem | hdone
        · rcases mem_cons.mp hmem with rfl | hmem
          · exact .inr hhas
          · exact .inl hmem
        · have hstep : Moves now (fun _ => True) (outbox { s with targets := t }) _ :=
            .single hmove trivial
          exact .inr (hstep.targets_mono hdone)
      · intro hall
        have ht := hidle hall
        subst ht
        exact absurd (hall y (hin y (mem_cons_self ..))) hnot

/-! ## Publishing an event -/

def EventPayload.targets : EventPayload → List NotificationTargetV1
  | .intent i => i.targets
  | .report i => i.targets
  | .notification n => n.targets

/-- What the payload hash of an event covers. -/
def EventPayload.document : EventPayload → Document
  | .intent i => .intent i
  | .report i => .report i
  | .notification n => .notification n

/-- A new event is stored with its targets. -/
structure Publishes (now : DateTime) (row : EventRow D) (o o' : Outbox D) : Prop where
  moves : Moves now (fun l => l = .event row ∨ AddsTargetOf row.eventId l) o o'
  events : o'.events = o.events ++ [row]
  fresh : ∀ e ∈ o.events, e.eventId ≠ row.eventId
  unfenced : ∀ c ∈ o.fences, c.eventId ≠ row.eventId
  occupied : Keyed o → ∀ x ∈ row.payload.targets, HasTarget o' row.eventId x

/-- An event already stored is offered again. -/
structure Republishes (now : DateTime) (row : EventRow D) (o o' : Outbox D) : Prop where
  moves : Moves now (AddsTargetOf row.eventId) o o'
  stored : ∃ e ∈ o.events, e.eventId = row.eventId ∧ e.payloadSha256 = row.payloadSha256
  idle : (∀ x ∈ row.payload.targets, HasTarget o row.eventId x) → o' = o

variable {row : EventRow D}

theorem Republishes.events (h : Republishes now row o o') : o'.events = o.events := by
  refine h.moves.events_eq ?_
  rintro e ⟨t, ht, -⟩
  cases ht

variable {t : Table (eventSchema D)}

theorem event_move (hf : ∀ c ∈ s.cancellations.rows, c.eventId ≠ row.eventId)
    (hi : s.events.insert row = .ok t) :
    Move now (.event row) (outbox s) (outbox { s with events := t }) := by
  obtain ⟨hrows, -, hfree⟩ := Table.insert_ok hi
  have hdiff : ∀ x ∈ s.events.rows, x.eventId ≠ row.eventId ∧ x.semanticId ≠ row.semanticId := by
    intro x hx
    have := hfree x hx
    simp only [eventSchema, Bool.or_eq_false_iff, beq_eq_false_iff_ne] at this
    exact this.1
  have hout : outbox { s with events := t } =
      { outbox s with events := (outbox s).events ++ [row] } := by
    simp only [outbox, hrows]
    rfl
  rw [hout]
  exact .event hf hdiff

theorem event_stored (hi : s.events.insert row = .ok t) :
    row ∈ t.rows ∧ sqlNonBlank row.eventId = true ∧ 0 < row.occurredAtUs := by
  obtain ⟨hrows, hcheck, -⟩ := Table.insert_ok hi
  refine ⟨by simp [hrows], ?_⟩
  simp only [eventSchema, EventRow.check, Bool.and_eq_true, decide_eq_true_eq] at hcheck
  tauto

theorem publish_targets (now : DateTime) (row : EventRow D) (hm : 0 < maxAttempts)
    (hat : row.occurredAtUs = micros createdAt)
    (hf : ∀ c ∈ s.cancellations.rows, c.eventId ≠ row.eventId) (hi : s.events.insert row = .ok t)
    (hok : ∀ s', Publishes now row (outbox s) (outbox s') → s'.runtimeOwners = s.runtimeOwners →
      Q () s') :
    wp (insertTargets row.eventId (sortedTargets row.payload.targets) maxAttempts createdAt) Q E
      { s with events := t } := by
  have hmove : Move now (.event row) (outbox s) (outbox { s with events := t }) := event_move hf hi
  obtain ⟨hrows, -, hfree⟩ := Table.insert_ok hi
  obtain ⟨hmem, hchecked⟩ := event_stored hi
  refine wp_insertTargets now hm ⟨row, hmem, rfl⟩ ?_
  intro tt hadv hocc _
  refine hok _ ⟨?_, ?_, ?_, hf, ?_⟩ rfl
  · exact (Steps.single hmove (.inl rfl)).trans (hadv.moves.mono fun l hl => .inr hl)
  · exact hrows
  · intro e he
    have := hfree e he
    simp only [eventSchema, Bool.or_eq_false_iff, beq_eq_false_iff_ne] at this
    exact this.1.1
  · intro hk x hx
    refine hocc (hmove.keyed hk) hchecked.1 (hat ▸ hchecked.2) x ?_
    simpa [sortedTargets] using hx

theorem republish_targets (now : DateTime) (row : EventRow D) {stored : EventRow D}
    (hm : 0 < maxAttempts) (hmem : stored ∈ s.events.rows) (hid : stored.eventId = row.eventId)
    (hsha : stored.payloadSha256 = row.payloadSha256)
    (hok : ∀ s', Republishes now row (outbox s) (outbox s') → s'.runtimeOwners = s.runtimeOwners →
      Q () s') :
    wp (insertTargets row.eventId (sortedTargets row.payload.targets) maxAttempts createdAt) Q E
      s := by
  refine wp_insertTargets now hm ⟨stored, hmem, hid⟩ ?_
  intro tt hadv _ hidle
  refine hok _ ⟨hadv.moves, ⟨stored, hmem, hid, hsha⟩, ?_⟩ rfl
  intro hall
  have htt : tt = s.targets := by
    refine hidle fun x hx => hall x ?_
    simpa [sortedTargets] using hx
  rw [htt]

theorem republish_found [DecidableEq D] (now : DateTime) (row : EventRow D) {stored : EventRow D}
    {p : EventRow D → Bool} {Q : Unit → Ledger D → Prop} {E : LedgerError → Prop}
    {maxAttempts : Nat}
    {createdAt : DateTime} (hm : 0 < maxAttempts) (hfound : s.events.rows.filter p = [stored])
    (hexact : matchesExact stored row = true)
    (hok : ∀ s', Republishes now row (outbox s) (outbox s') → s'.runtimeOwners = s.runtimeOwners →
      Q () s') :
    wp (insertTargets row.eventId (sortedTargets row.payload.targets) maxAttempts createdAt) Q E
      s := by
  have hmem : stored ∈ s.events.rows := by
    have : stored ∈ s.events.rows.filter p := by simp [hfound]
    exact (mem_filter.mp this).1
  simp only [matchesExact, Bool.and_eq_true, beq_iff_eq] at hexact
  have hid : stored.eventId = row.eventId := by tauto
  have hsha : stored.payloadSha256 = row.payloadSha256 := by tauto
  exact republish_targets now row hm hmem hid hsha hok

@[simp]
theorem wp_fencedByCancellation {α : Type} {Q : α → Ledger D → Prop} {statement : LedgerM D α} :
    wp (fencedByCancellation eventId statement) Q E s ↔
      ((∀ c ∈ s.cancellations.rows, c.eventId ≠ eventId) → wp statement Q E s) ∧
        ((∃ c ∈ s.cancellations.rows, c.eventId = eventId) →
          E (.sqlite (.raised "cancellation_fenced"))) := by
  simp [fencedByCancellation]

/-! ## Decisions and reports -/

section

variable [DecidableEq D] [CanonicalHash D]

/-- Offering an event: it is published, or it was stored before. -/
def Offers (now : DateTime) (row : EventRow D) (o o' : Outbox D) : Prop :=
  Publishes now row o o' ∨ Republishes now row o o'

/-- The row's hash is the one of its document. -/
def HashedRow (row : EventRow D) : Prop :=
  row.payloadSha256 = canonicalJsonHash row.payload.document

variable {lease : OwnerLease}

theorem wp_insertIntent {intent : NotificationIntentV1} (hv : intent.validate = .ok ())
    (hok : ∀ s', Offers now (intentEventRow lease intent now) (outbox s) (outbox s') →
      s'.runtimeOwners = s.runtimeOwners → Q () s') :
    wp (insertIntent lease intent now) Q (fun _ => True) s := by
  have hm := intent.maxAttempts_pos hv
  simp only [insertIntent, wp_bind, wp_fencedByCancellation, wp_insertOrIgnoreInto, wp_ite]
  refine ⟨fun hf => ⟨fun hins => ?_, fun hins => ?_⟩, fun _ => trivial⟩
  · rw [wp_pure]
    exact publish_targets now (intentEventRow lease intent now) hm rfl hf
      (Table.insertOrIgnore_true hins) fun s' hp ho => hok s' (.inl hp) ho
  · have hsame := (Table.insertOrIgnore_false (by simpa using hins)).1
    simp only [hsame, verifyIntentHash, wp_bind, wp_get, wp_queryRow, wp_ensure]
    refine ⟨fun existing hex => ⟨fun hsha => ⟨fun _ => ?_, fun _ => trivial⟩, fun _ => trivial⟩,
      fun _ => trivial⟩
    have hmem := mem_of_find?_eq_some hex
    have hid : existing.eventId = intent.intentId.value := by
      simpa using find?_some hex
    exact republish_targets now (intentEventRow lease intent now) hm hmem hid hsha
      fun s' hp ho => hok s' (.inr hp) ho

/-- What a writer of other lanes may do: nothing to the outbox, or one offer of an event that
carries `document` and is no operator notification. -/
structure OffersOther (now : DateTime) (document : Option Document) (s s' : Ledger D) : Prop where
  owners : s'.runtimeOwners = s.runtimeOwners
  outbox : outbox s' = outbox s ∨ ∃ row : EventRow D, HashedRow row ∧ row.notification? = none ∧
    document = some row.payload.document ∧ Offers now row (outbox s) (outbox s')

variable {intent : Option NotificationIntentV1}

theorem wp_insertIntents (hval : ∀ i, intent = some i → i.validate = .ok ()) :
    wp (intent.toList.forM fun intent => insertIntent lease intent now)
      (fun _ s' => OffersOther now (intent.map .intent) s s') (fun _ => True) s := by
  cases intent with
  | none => exact ⟨rfl, .inl rfl⟩
  | some i =>
    simp only [Option.toList_some, forM_eq_forM, forM_cons, forM_nil, wp_bind,
      wp_pure]
    refine wp_insertIntent (hval i rfl) ?_
    intro s' hoff ho
    exact ⟨ho, .inr ⟨intentEventRow lease i now, rfl, rfl, rfl, hoff⟩⟩

omit [DecidableEq D] [CanonicalHash D] in
theorem wp_checkIntents {decision : StrategyDecisionV1} :
    wp (intent.toList.forM (checkIntentOf decision))
      (fun _ s' => s' = s ∧ ∀ i, intent = some i → i.validate = .ok ()) (fun _ => True) s := by
  cases intent with
  | none => simp [forM_eq_forM]
  | some i =>
    simp only [Option.toList_some, forM_eq_forM, forM_cons, forM_nil, wp_bind,
      wp_pure, checkIntentOf, wp_liftDomain, wp_ensure, implies_true, and_true, Option.some.injEq]
    rintro u hu - - -
    refine ⟨trivial, ?_⟩
    rintro j rfl
    exact hu

theorem persistDecision_spec {decision : StrategyDecisionV1} :
    wp (persistDecision lease decision intent now)
      (fun _ s' => OffersOther now (intent.map .intent) s s') (fun _ => True) s := by
  simp only [persistDecision, wp_bind, wp_liftDomain, wp_pure]
  refine ⟨fun _ _ => wp_mono ?_ (fun _ h => h) wp_checkIntents, fun _ _ => trivial⟩
  rintro ⟨⟩ st ⟨rfl, hval⟩
  simp only [wp_requireOwner, wp_insertOrIgnoreInto, wp_ite, wp_pure]
  refine ⟨fun _ _ => ⟨fun _ => ?_, fun _ => ?_⟩, fun _ => trivial, fun _ _ => trivial⟩
  · refine wp_mono ?_ (fun _ h => h) (wp_insertIntents hval)
    exact fun _ s' h => ⟨h.owners, h.outbox⟩
  · simp only [verifyDecisionHash, wp_bind, wp_get, wp_queryRow, wp_ensure]
    refine ⟨fun _ _ => ⟨fun _ => ?_, fun _ => trivial⟩, fun _ => trivial⟩
    refine wp_mono ?_ (fun _ h => h) (wp_insertIntents hval)
    exact fun _ s' h => ⟨h.owners, h.outbox⟩

theorem persistScheduledReport_spec {intent : NotificationIntentV2} :
    wp (persistScheduledReport lease intent now)
      (fun _ s' => OffersOther now (some (.report intent)) s s') (fun _ => True) s := by
  simp only [persistScheduledReport, wp_bind, wp_liftDomain]
  refine ⟨fun _ hv => ?_, fun _ _ => trivial⟩
  have hm := intent.maxAttempts_pos hv
  cases hl : intent.lineage with
  | tradeReady => trivial
  | scheduledReport source slot =>
    simp only [wp_bind, wp_requireOwner, wp_get]
    refine ⟨fun _ _ => ?_, fun _ => trivial, fun _ _ => trivial⟩
    let row : EventRow D := reportEventRow lease intent source slot now
    have hrow : ∀ st' : Ledger D, Offers now row (outbox s) (outbox st') →
        st'.runtimeOwners = s.runtimeOwners → OffersOther now (some (.report intent)) s st' :=
      fun st' hoff ho => ⟨ho, .inr ⟨row, rfl, rfl, rfl, hoff⟩⟩
    split
    · simp only [wp_bind, wp_fencedByCancellation, wp_insertInto, wp_pure]
      refine ⟨fun hf => ⟨fun t hins => ?_, fun _ _ => trivial⟩, fun _ => trivial⟩
      exact publish_targets now row hm rfl hf hins fun s' hp ho => hrow s' (.inl hp) ho
    · rename_i stored hmatch
      simp only [wp_bind, wp_ensure, wp_pure]
      refine ⟨fun hexact => ?_, fun _ => trivial⟩
      exact republish_found now row hm hmatch hexact fun s' hp ho => hrow s' (.inr hp) ho
    · trivial

end

/-! ## Cancelling unsent targets -/

/-- Pending, claimed or in flight. -/
def TargetStatus.active (status : TargetStatus) : Bool :=
  status == .pending || status == .claimed || status == .inFlight

theorem TargetRow.terminal_check {t : TargetRow} {status : TargetStatus} {reason : String}
    (hc : t.check = true) (ha : t.status.active = true) (hnow : 0 < micros now)
    (hs : status = .deadLetter ∨ status = .cancelled ∨ status = .expired ∨ status = .uncertain) :
    (t.terminal status reason now).check = true := by
  have hdel : t.deliveredAtUs = none ∧ t.operatorAckAtUs = none := by
    cases hst : t.status <;>
      simp_all [TargetStatus.active, TargetRow.check, TargetRow.statusColumns, TargetRow.isFailure]
  simp only [TargetRow.check, Bool.and_eq_true, decide_eq_true_eq] at hc ⊢
  rcases hs with rfl | rfl | rfl | rfl <;>
    simp_all [TargetRow.terminal, TargetRow.release, TargetRow.statusColumns, TargetRow.unclaimed]

theorem TargetStatus.active_of_unsent {status : TargetStatus} (h : status.unsent = true) :
    status.active = true := by
  cases status <;> simp_all [TargetStatus.unsent, TargetStatus.active]

/-- No unsent target has an id in `ids`. -/
def NoneUnsent (o : Outbox D) (ids : List String) : Prop :=
  ∀ id ∈ ids, ∀ t, o.targets id = some t → t.status.unsent = false

/-- A label that cancels one of `ids`. -/
def Cancels (ids : List String) (l : Label D) : Prop := ∃ id ∈ ids, l = .shift id .cancel

theorem wp_cancelAll {draws : Draws} {reason transition : String} {rows : List TargetRow}
    (hsel : ∀ r ∈ rows, r.status.unsent = true) (hnow : G → 0 < micros now)
    (hok : ∀ s', Advance now (Cancels (rows.map (·.targetId))) s s' →
      NoneUnsent (outbox s') (rows.map (·.targetId)) → Q () s') :
    wp (rows.forM fun t => cancelUnsent (draws.receiptId t.targetId) reason transition now t) Q
      (Quiet G) s := by
  let ids := rows.map (·.targetId)
  let I (todo : List TargetRow) (st : Ledger D) : Prop :=
    (∀ r ∈ todo, r ∈ rows) ∧ Advance now (Cancels ids) s st ∧
      ∀ id ∈ ids, id ∈ todo.map (·.targetId) ∨
        ∀ t, (outbox st).targets id = some t → t.status.unsent = false
  have hstart : I rows s := ⟨fun _ h => h, .refl s, fun id hid => .inl hid⟩
  refine wp_mono ?_ (fun _ h => h) (wp_forM I ?_ hstart)
  · rintro ⟨⟩ st ⟨-, hadv, hdone⟩
    refine hok st hadv ?_
    intro id hid
    exact (hdone id hid).resolve_left (by simp)
  · rintro r todo st ⟨hin, hadv, hdone⟩
    have hr := hin r (mem_cons_self ..)
    have hid : r.targetId ∈ ids := mem_map_of_mem hr
    refine wp_shift .cancel _ _ ?_ ?_ hnow ?_ ?_ ?_ (by simp [NotCheck, FailsOnCheck])
    · exact fun _ => TargetRow.pinned
    · exact fun _ => ⟨rfl, rfl, rfl, rfl, rfl⟩
    · intro t _ ht hc hG
      simp only [Bool.and_eq_true, decide_eq_true_eq] at ht
      have hun : t.status.unsent = true := ht.2 ▸ hsel r hr
      exact TargetRow.terminal_check hc (TargetStatus.active_of_unsent hun) (hnow hG)
        (.inr (.inl rfl))
    · intro t rr _ ht hrr
      simp only [Bool.and_eq_true, decide_eq_true_eq] at ht
      exact .cancel (ht.2 ▸ hsel r hr) hrr
    · intro t st' _ _ hm ho hupd
      refine ⟨fun x hx => hin x (mem_cons_of_mem _ hx), ?_, ?_⟩
      · exact hadv.trans (.single ⟨r.targetId, hid, rfl⟩ hm ho)
      · intro id hmem
        by_cases heq : id = r.targetId
        · refine .inr fun u hu => ?_
          rw [hupd, heq, Function.update_self] at hu
          cases hu
          rfl
        · rcases hdone id hmem with htodo | hold
          · rw [map_cons, mem_cons] at htodo
            exact .inl (htodo.resolve_left heq)
          · refine .inr fun u hu => hold u ?_
            rw [hupd, Function.update_of_ne heq] at hu
            exact hu

theorem Moves.cancelled {ids : List String} (h : Moves now (Cancels ids) o o') {id : String}
    {t : TargetRow} (ht : o.targets id = some t) : ∃ t', o'.targets id = some t' ∧ SameTarget t t' ∧
      (t'.status = t.status ∨ t'.status = .cancelled) := by
  let R (a b : TargetStatus) : Prop := b = a ∨ b = .cancelled
  refine Moves.status (R := R) (fun _ => .inl rfl) ?_ ?_ h ht
  · rintro a b c hab (rfl | rfl)
    · exact hab
    · exact .inr rfl
  · rintro k ⟨_, _, hk⟩ a b hp
    cases hk
    simp only [Shift.permits, Bool.and_eq_true, beq_iff_eq] at hp
    exact .inr hp.2

end SpxSpark.Ledger
