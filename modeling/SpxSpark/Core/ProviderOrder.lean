import SpxSpark.Core.QuoteReplay

/-!
# ProviderOrder — the providers do not see each other

A book that evicts nothing reads the same however the batches of its providers were interleaved, as
long as no identity is used by two of them: what it accepts of a provider is what it would accept
if it were given nothing else.
-/

namespace SpxSpark.Core

open Std Domain Lib List

/-! ## One provider on its own -/

/-- A new identity ahead of everything so far is accepted. -/
def acceptNext (log : List QuoteBatchV1) (batch : QuoteBatchV1) : List QuoteBatchV1 :=
  if batch.validate = .ok () ∧
      ∀ a ∈ log, a.batchId ≠ batch.batchId ∧ positionOf a < positionOf batch then log ++ [batch]
  else log

/-- What is accepted of the batches of one provider. -/
def acceptedAlone (batches : List QuoteBatchV1) : List QuoteBatchV1 := batches.foldl acceptNext []

/-- The batches of a provider among those a book was given. -/
def givenBy (p : Provider) (evs : List (QuoteBatchV1 × Except QuoteBookError ApplyBatch)) :
    List QuoteBatchV1 :=
  (evs.map (·.1)).filter (·.provider = p)

theorem sinceReset_filter (p : Provider) (log : List QuoteBatchV1) :
    sinceReset p (log.filter (·.provider = p)) = sinceReset p log := by
  induction log using List.reverseRecOn with
  | nil => rfl
  | append_singleton log last ih =>
    rw [sinceReset_append, filter_append]
    by_cases hp : last.provider = p
    · rw [filter_cons_of_pos (by simpa using hp), filter_nil, sinceReset_append, ih]
    · rw [filter_cons_of_neg (by simpa using hp), filter_nil, append_nil, ih,
        extendWindow, if_neg hp]

namespace QuoteBook

variable {D : Type} [BookHash D] [DecidableEq D] {book : QuoteBook D} {batch : QuoteBatchV1}
  {evs : List (QuoteBatchV1 × Except QuoteBookError ApplyBatch)}

/-- The identities a book remembers are those of the batches it accepted. -/
def RemembersLog (book : QuoteBook D) (log : List QuoteBatchV1) : Prop :=
  ∀ id, (∃ seen, book.seenBatches[id]? = some seen) ↔ ∃ a ∈ log, a.batchId = id

theorem accept_remembersLog {log : List QuoteBatchV1} (h : book.RemembersLog log)
    (hjudge : book.judge batch = .ok .applied) (hkeep : book.EvictsNothing batch) :
    (book.accept batch).RemembersLog (log ++ [batch]) := by
  intro id
  rw [(accept_undisturbed hjudge hkeep).2, store_seen]
  by_cases hid : batch.batchId = id
  · rw [if_pos hid]
    exact ⟨fun _ => ⟨batch, by simp, hid⟩, fun _ => ⟨_, rfl⟩⟩
  · rw [if_neg hid, h id]
    simp [hid]

theorem judge_log (h : book.Follows evs) (hseen : book.RemembersLog (accepted evs))
    (hok : book.Undisturbed batch) : book.judge batch = .ok .applied ↔
      batch.validate = .ok () ∧ (∀ a ∈ accepted evs, a.batchId ≠ batch.batchId) ∧
        ∀ a ∈ accepted evs, a.provider = batch.provider → positionOf a < positionOf batch := by
  constructor
  · intro hjudge
    obtain ⟨hvalid, -, hnew, hahead⟩ := judge_applied.mp hjudge
    refine ⟨hvalid, fun a ha hid => ?_, fun a ha hp => ?_⟩
    · obtain ⟨seen, hin⟩ := (hseen batch.batchId).mpr ⟨a, ha, hid⟩
      exact hnew ⟨seen, hin, (hok.2 hjudge).2.1 seen (mem_valuesOf.mpr ⟨_, hin⟩)⟩
    · obtain ⟨cursor, hcursor, hle⟩ := h.reached a ha
      rw [hp] at hcursor
      exact hle.trans_lt (lt_of_not_ge fun hge => hahead ⟨cursor, hcursor, hge⟩)
  · rintro ⟨hvalid, hnew, hahead⟩
    refine judge_applied.mpr ⟨hvalid, ?_, ?_, ?_⟩
    · rw [Option.isSome_iff_ne_none]
      exact fun hnone => hok.1 (judge_overflow hvalid hnone)
    · rintro ⟨seen, hin, -⟩
      obtain ⟨a, ha, hid⟩ := (hseen batch.batchId).mp ⟨seen, hin⟩
      exact hnew a ha hid
    · rintro ⟨cursor, hcursor, hle⟩
      have hlast := h.replays.cursors batch.provider
      rw [hcursor, getLast?_provider, Option.map_some, eq_comm, Option.map_eq_some_iff] at hlast
      obtain ⟨last, hlast, hpos⟩ := hlast
      obtain ⟨hin, hp⟩ := mem_filter.mp (mem_of_getLast? hlast)
      exact absurd (hpos ▸ hle) (hahead last hin (of_decide_eq_true hp)).not_ge

/-! ## Runs -/

/-- No two providers use the same identity. -/
def OwnIds (evs : List (QuoteBatchV1 × Except QuoteBookError ApplyBatch)) : Prop :=
  ∀ a ∈ evs, ∀ b ∈ evs, a.1.batchId = b.1.batchId → a.1.provider = b.1.provider

theorem accepted_given {a : QuoteBatchV1} (h : a ∈ accepted evs) : ∃ ev ∈ evs, ev.1 = a := by
  obtain ⟨ev, hev, rfl⟩ := mem_map.mp h
  exact ⟨ev, (mem_filter.mp hev).1, rfl⟩

theorem acceptedAlone_step (h : book.Follows evs) (hseen : book.RemembersLog (accepted evs))
    (hok : book.Undisturbed batch) {answer : Except QuoteBookError ApplyBatch}
    (hids : OwnIds (evs ++ [(batch, answer)])) :
    acceptNext ((accepted evs).filter (·.provider = batch.provider)) batch =
      if book.judge batch = .ok .applied then
        (accepted evs).filter (·.provider = batch.provider) ++ [batch]
      else (accepted evs).filter (·.provider = batch.provider) := by
  have hsame : (batch.validate = .ok () ∧
      ∀ a ∈ (accepted evs).filter (·.provider = batch.provider),
        a.batchId ≠ batch.batchId ∧ positionOf a < positionOf batch) ↔
      book.judge batch = .ok .applied := by
    rw [judge_log h hseen hok]
    simp only [mem_filter, decide_eq_true_eq]
    constructor
    · rintro ⟨hvalid, hown⟩
      refine ⟨hvalid, fun a ha hid => ?_, fun a ha hp => (hown a ⟨ha, hp⟩).2⟩
      obtain ⟨ev, hev, rfl⟩ := accepted_given ha
      have hp := hids ev (mem_append_left _ hev) (batch, answer) (by simp) hid
      exact (hown _ ⟨ha, hp⟩).1 hid
    · rintro ⟨hvalid, hnew, hahead⟩
      exact ⟨hvalid, fun a ha => ⟨hnew a ha.1, hahead a ha.1 ha.2⟩⟩
  exact if_congr hsame rfl rfl

theorem run_alone {retention : TimeDelta} {maxQuotes maxBatches : Nat} {hr : 0 < retention}
    {hq : 0 < maxQuotes} {hb : 0 < maxBatches}
    (run : Run apply Undisturbed (fresh retention maxQuotes maxBatches hr hq hb) evs book)
    (hids : OwnIds evs) : book.RemembersLog (accepted evs) ∧
      ∀ p, (accepted evs).filter (·.provider = p) = acceptedAlone (givenBy p evs) := by
  induction run with
  | nil =>
    refine ⟨fun id => ?_, fun p => rfl⟩
    simp [fresh, accepted]
  | @snoc evs book batch run hok ih =>
    obtain ⟨hseen, halone⟩ := ih fun a ha b hb =>
      hids a (mem_append_left _ ha) b (mem_append_left _ hb)
    have hstep := acceptedAlone_step (run_follows run) hseen hok hids
    have hgiven : ∀ p, acceptedAlone (givenBy p (evs ++ [(batch, (book.apply batch).1)])) =
        if batch.provider = p then acceptNext ((accepted evs).filter (·.provider = p)) batch
        else (accepted evs).filter (·.provider = p) := by
      intro p
      rw [halone, givenBy, map_append, filter_append, acceptedAlone, foldl_append]
      by_cases hp : batch.provider = p
      · rw [if_pos hp, map_cons, filter_cons_of_pos (by simpa using hp)]
        rfl
      · rw [if_neg hp, map_cons, filter_cons_of_neg (by simpa using hp)]
        rfl
    by_cases hjudge : book.judge batch = .ok .applied
    · rw [apply_applied hjudge] at hgiven ⊢
      rw [accepted_append, if_pos rfl]
      refine ⟨accept_remembersLog hseen hjudge hok.2, fun p => ?_⟩
      rw [hgiven, filter_append]
      by_cases hp : batch.provider = p
      · subst hp
        rw [if_pos rfl, hstep, if_pos hjudge]
        simp
      · rw [if_neg hp, filter_cons_of_neg (by simpa using hp), filter_nil,
          append_nil]
    · rw [apply_other hjudge] at hgiven ⊢
      rw [accepted_append, if_neg hjudge]
      refine ⟨hseen, fun p => ?_⟩
      rw [hgiven]
      by_cases hp : batch.provider = p
      · subst hp
        rw [if_pos rfl, hstep, if_neg hjudge]
      · rw [if_neg hp]

/-- What two books show alike. -/
structure ReadsAlike (evs₁ evs₂ : List (QuoteBatchV1 × Except QuoteBookError ApplyBatch))
    (book₁ book₂ : QuoteBook D) : Prop where
  accepted : ∀ p : Provider,
    (accepted evs₁).filter (·.provider = p) = (accepted evs₂).filter (·.provider = p)
  quotes : ∀ k : QuoteKey, (book₁.quotes[k]?).map (·.quote) = (book₂.quotes[k]?).map (·.quote)
  cursors : ∀ p : Provider,
    (book₁.cursors[p]?).map Cursor.position = (book₂.cursors[p]?).map Cursor.position
  snapshots : ∀ session builtAt₁ builtAt₂ s₁ s₂, book₁.snapshot session builtAt₁ = .ok s₁ →
    book₂.snapshot session builtAt₂ = .ok s₂ → ∀ q : QuoteV1, q ∈ s₁.quotes ↔ q ∈ s₂.quotes

/-- **Providers do not interfere.** Two runs that give a book the same batches of each provider in
the same order, however these are interleaved, accept the same of them and read alike. -/
theorem providers_independent {retentionSeconds : UInt32} {maxQuotes maxBatches : Nat}
    {book₀ book₁ book₂ : QuoteBook D}
    {evs₁ evs₂ : List (QuoteBatchV1 × Except QuoteBookError ApplyBatch)}
    (hnew : new retentionSeconds maxQuotes maxBatches = .ok book₀)
    (run₁ : Run apply Undisturbed book₀ evs₁ book₁)
    (run₂ : Run apply Undisturbed book₀ evs₂ book₂) (hids₁ : OwnIds evs₁) (hids₂ : OwnIds evs₂)
    (hgiven : ∀ p, givenBy p evs₁ = givenBy p evs₂) : ReadsAlike evs₁ evs₂ book₁ book₂ := by
  obtain ⟨retention, hr, hq, hb, rfl⟩ := new_ok hnew
  have h₁ := run_follows run₁
  have h₂ := run_follows run₂
  have haccepted : ∀ p : Provider,
      (accepted evs₁).filter (·.provider = p) = (accepted evs₂).filter (·.provider = p) := by
    intro p
    rw [(run_alone run₁ hids₁).2, (run_alone run₂ hids₂).2, hgiven]
  have hwindow : ∀ p : Provider, sinceReset p (accepted evs₁) = sinceReset p (accepted evs₂) := by
    intro p
    rw [← sinceReset_filter, haccepted, sinceReset_filter]
  refine ⟨haccepted, fun k => ?_, fun p => ?_, fun session builtAt₁ builtAt₂ s₁ s₂ hs₁ hs₂ q => ?_⟩
  · rw [h₁.replays.quotes, h₂.replays.quotes, lastQuote, lastQuote, hwindow]
  · rw [h₁.replays.cursors, h₂.replays.cursors, hwindow]
  · rw [mem_snapshot h₁.sound h₁.replays hs₁, mem_snapshot h₂.sound h₂.replays hs₂, lastQuote,
      lastQuote, hwindow]

/-- The feed with the reset, the other provider's batch last. -/
def reorderedFeed : List QuoteBatchV1 := renewedFeed.tail ++ renewedFeed.take 1

instance : Decidable (OwnIds evs) := inferInstanceAs (Decidable (∀ a ∈ _, ∀ b ∈ _, _ → _))

theorem providers_independent_late :
    let book := (default : QuoteBook BookDocument)
    ReadsAlike (play apply book renewedFeed).1 (play apply book reorderedFeed).1
      (play apply book renewedFeed).2 (play apply book reorderedFeed).2 := by
  have hplayed : Allowed apply Undisturbed (default : QuoteBook BookDocument) renewedFeed ∧
      Allowed apply Undisturbed (default : QuoteBook BookDocument) reorderedFeed ∧
      OwnIds (play apply (default : QuoteBook BookDocument) renewedFeed).1 ∧
      OwnIds (play apply (default : QuoteBook BookDocument) reorderedFeed).1 := by
    decide +kernel
  obtain ⟨hfirst, hlate, hids₁, hids₂⟩ := hplayed
  refine providers_independent new_default (Run.play hfirst) (Run.play hlate) hids₁ hids₂ ?_
  intro p
  cases p <;> decide +kernel

end QuoteBook

end SpxSpark.Core
