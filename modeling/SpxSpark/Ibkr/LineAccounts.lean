import SpxSpark.Ibkr.MarketDataLines

/-!
# LineAccounts — every open line is accounted for while a batch is in flight

Inside an operation some subscriptions are in no lane: a batch just asked for, or one about to be
restored.
-/

namespace SpxSpark.Ibkr

open Lib List

/-! ## Accounts -/

/-- Subscriptions in hand, under their labels. -/
abbrev Held := Label → Subscription → Prop

def holds (subs : Subscriptions) : Held := fun label sub => subs.lookup label = some sub

def holdsOne (label : Label) (sub : Subscription) : Held := fun k x => k = label ∧ x = sub

/-- Nothing is held under the label. -/
def Held.Without (held : Held) (label : Label) : Prop := ∀ sub, ¬ held label sub

/-- The line may be the one the row was asked for: an id that was not read fits every line. -/
def Row.Fits (row : Row) (line : Line) : Prop :=
  row.requestId = none ∨ row.requestId = some line.request

/-- What is held and what is open stand for each other. -/
structure Accounts (held : Held) (link : Link) : Prop where
  /-- A held subscription has a row. -/
  known : ∀ {label sub}, held label sub → sub.row < link.rows.length
  /-- An open line is one that a held subscription stands for. -/
  covered : ∀ {line}, line ∈ link.lines → ∃ sub row, held line.label sub ∧ sub.ticker = true ∧
    link.rows[sub.row]? = some row ∧ row.subscribed = true ∧ row.Fits line
  /-- A held subscription that stands has its line, unless the broker rejected it. -/
  standing : ∀ {label sub row}, held label sub → link.rows[sub.row]? = some row →
    row.subscribed = true → ∃ line, line.label = label ∧ row.Fits line ∧
      (line ∈ link.lines ∨ line ∈ link.rejectedLines)

/-- What holds of the requests at any time. -/
structure Book (link : Link) : Prop where
  line_known : ∀ line ∈ link.lines, line.request < link.nextRequest
  log_known : ∀ logged ∈ link.subscriptionRejectionLog, logged.reqId < link.nextRequest
  log_closed : ∀ logged ∈ link.subscriptionRejectionLog, ∀ line ∈ link.lines,
    (line.request : Int) ≠ logged.reqId
  tracked : ∀ request row, link.subscriptionRowsByReqId.lookup request = some row →
    link.requestOf row = some request
  sound : ∀ row ∈ link.rows, row.subscribed = true → row.error = none

/-- The link is marked as failed. -/
def Flagged (link : Link) : Prop :=
  link.subscriptionHealthFailed = true ∨ link.subscriptionsLost = true

/-- The lines are accounted for, unless the link is flagged. -/
structure Settled (ctx : Prop) (held : Held) (link : Link) : Prop where
  book : Book link
  accounts : Flagged link ∨ ctx ∧ Accounts held link

variable {ctx ctx' : Prop} {held held' : Held} {link link' : Link} {label : Label}
  {sub : Subscription}

theorem Accounts.congr (hheld : ∀ k x, held k x ↔ held' k x) (h : Accounts held link) :
    Accounts held' link := by
  have heq : held = held' := by
    funext k x
    exact propext (hheld k x)
  exact heq ▸ h

namespace Settled

theorem of_flagged (hbook : Book link) (hflag : Flagged link) : Settled ctx held link :=
  ⟨hbook, .inl hflag⟩

theorem imp (h : Settled ctx held link) (hctx : ctx → ctx')
    (hheld : ctx → ∀ k x, held k x ↔ held' k x) : Settled ctx' held' link :=
  ⟨h.book, h.accounts.imp_right fun ⟨hc, ha⟩ => ⟨hctx hc, ha.congr (hheld hc)⟩⟩

theorem clear (h : Settled ctx held link) (hflag : ¬ Flagged link) : ctx ∧ Accounts held link :=
  h.accounts.resolve_left hflag

theorem of_eq (h : Settled ctx held link) (hrows : link'.rows = link.rows)
    (hlines : link'.lines = link.lines) (hrejected : link'.rejectedLines = link.rejectedLines)
    (hlog : link'.subscriptionRejectionLog = link.subscriptionRejectionLog)
    (hnext : link.nextRequest ≤ link'.nextRequest)
    (htracked : ∀ request row, link'.subscriptionRowsByReqId.lookup request = some row →
      link.requestOf row = some request)
    (hflag : Flagged link → Flagged link') : Settled ctx held link' := by
  constructor
  · constructor
    · intro line hline
      rw [hlines] at hline
      exact (h.book.line_known line hline).trans_le hnext
    · intro logged hlogged
      rw [hlog] at hlogged
      have := h.book.log_known logged hlogged
      omega
    · intro logged hlogged line hline
      rw [hlog] at hlogged
      rw [hlines] at hline
      exact h.book.log_closed logged hlogged line hline
    · intro request row hrow
      unfold Link.requestOf
      rw [hrows]
      exact htracked request row hrow
    · intro row hrow
      rw [hrows] at hrow
      exact h.book.sound row hrow
  · refine h.accounts.imp hflag fun ⟨hc, ha⟩ => ⟨hc, ?_⟩
    constructor
    · intro label sub hheld
      rw [hrows]
      exact ha.known hheld
    · intro line hline
      rw [hlines] at hline
      rw [hrows]
      exact ha.covered hline
    · intro label sub row hheld hrow hsub
      rw [hrows] at hrow
      rw [hlines, hrejected]
      exact ha.standing hheld hrow hsub

end Settled

/-! ## Callbacks -/

variable {code : Nat}

theorem Link.requestOf_markRow {row other : Nat} :
    (link.markRow row code).requestOf other = link.requestOf other := by
  unfold Link.markRow Link.requestOf
  rw [getElem?_modify]
  cases link.rows[other]? with
  | none => rfl
  | some r => by_cases h : row = other <;> simp [h]

theorem Link.markRow_row {row other : Nat} {r : Row}
    (h : (link.markRow row code).rows[other]? = some r) :
    ∃ r', link.rows[other]? = some r' ∧ r.requestId = r'.requestId ∧
      (r.subscribed = true → r = r' ∧ other ≠ row) := by
  unfold Link.markRow at h
  rw [getElem?_modify] at h
  cases hr : link.rows[other]? with
  | none =>
    rw [hr] at h
    cases h
  | some r' =>
    rw [hr] at h
    by_cases hrow : row = other
    · simp only [hrow, if_true, Option.map_eq_map, Option.map_some, Option.some.injEq] at h
      subst h
      exact ⟨r', rfl, rfl, nofun⟩
    · simp only [hrow, if_false, Option.map_eq_map, Option.map_some, Option.some.injEq] at h
      subst h
      exact ⟨r', rfl, rfl, fun _ => ⟨rfl, fun heq => hrow heq.symm⟩⟩

section

variable (h : Settled ctx held link)

include h

theorem Settled.markRow {row request : Nat} (hrow : link.requestOf row = some request)
    (hclosed : ∀ line ∈ link.lines, line.request ≠ request) :
    Settled ctx held (link.markRow row code) := by
  constructor
  · refine ⟨h.book.line_known, h.book.log_known, h.book.log_closed, ?_, ?_⟩
    · intro request row hlookup
      rw [Link.requestOf_markRow]
      exact h.book.tracked request row hlookup
    · intro r hr hsub
      obtain ⟨i, hi⟩ := mem_iff_getElem?.mp hr
      obtain ⟨r', hr', -, hsame⟩ := Link.markRow_row hi
      obtain ⟨rfl, -⟩ := hsame hsub
      exact h.book.sound r (mem_of_getElem? hr') hsub
  · refine h.accounts.imp_right fun ⟨hc, ha⟩ => ⟨hc, ?_⟩
    constructor
    · intro label sub hheld
      show sub.row < (link.rows.modify row _).length
      rw [length_modify]
      exact ha.known hheld
    · intro line hline
      obtain ⟨sub, r, hheld, hticker, hr, hsub, hfits⟩ := ha.covered hline
      refine ⟨sub, r, hheld, hticker, ?_, hsub, hfits⟩
      -- the marked row's request has no line, so it is not the one that covers this line
      have hne : row ≠ sub.row := by
        rintro rfl
        have hid : r.requestId = some request := by
          unfold Link.requestOf at hrow
          rw [hr] at hrow
          exact hrow
        rcases hfits with hnone | hsome
        · rw [hid] at hnone
          cases hnone
        · rw [hid] at hsome
          exact hclosed line hline (Option.some.inj hsome).symm
      show (link.rows.modify row _)[sub.row]? = some r
      rw [getElem?_modify, hr]
      exact congrArg some (if_neg hne)
    · intro label sub r hheld hr hsub
      obtain ⟨r', hr', -, hsame⟩ := Link.markRow_row hr
      obtain ⟨rfl, -⟩ := hsame hsub
      exact ha.standing hheld hr' hsub

theorem Settled.observeConnectivity (code : Nat) :
    Settled ctx held (link.observeConnectivity code) := by
  unfold Link.observeConnectivity
  split
  · exact h.of_eq rfl rfl rfl rfl le_rfl h.book.tracked id
  · split
    · split
      · refine Settled.of_flagged ?_ (.inl rfl)
        exact ⟨nofun, h.book.log_known, nofun, h.book.tracked, h.book.sound⟩
      · exact h.of_eq rfl rfl rfl rfl le_rfl h.book.tracked id
    · exact h

theorem Settled.observeConflict (reqId : Int) (code : Nat)
    (monotonic : ℚ) : Settled ctx held (link.observeConflict reqId code monotonic) := by
  unfold Link.observeConflict
  split
  · split
    · exact h.of_eq rfl rfl rfl rfl le_rfl h.book.tracked id
    · exact h.of_eq rfl rfl rfl rfl le_rfl h.book.tracked fun _ => .inl rfl
  · exact h

omit h in
theorem Link.nextRequest_observeConnectivity :
    (link.observeConnectivity code).nextRequest = link.nextRequest := by
  unfold Link.observeConnectivity
  split
  · rfl
  · split
    · split <;> rfl
    · rfl

variable {reqId : Int}

omit h in
theorem Link.nextRequest_observeConflict {monotonic : ℚ} :
    (link.observeConflict reqId code monotonic).nextRequest = link.nextRequest := by
  unfold Link.observeConflict
  split
  · split <;> rfl
  · rfl

omit h in
theorem Settled.logRejection (hreq : reqId < link.nextRequest) (h : Settled ctx held link) :
    Settled ctx held (link.logRejection reqId code) := by
  have hsub : ∀ {line}, line ∈ (link.logRejection reqId code).lines →
      line ∈ link.lines ∧ (line.request : Int) ≠ reqId := by
    intro line hline
    obtain ⟨hmem, hne⟩ := mem_filter.mp hline
    exact ⟨hmem, of_decide_eq_true hne⟩
  have hlog : ∀ logged ∈ (link.logRejection reqId code).subscriptionRejectionLog,
      logged ∈ link.subscriptionRejectionLog ∨ logged.reqId = reqId := by
    intro logged hlogged
    simp only [Link.logRejection] at hlogged
    rcases mem_append.mp (mem_of_mem_drop hlogged) with hold | hnew
    · exact .inl hold
    · rw [mem_singleton.mp hnew]
      exact .inr rfl
  constructor
  · refine ⟨fun line hline => h.book.line_known line (hsub hline).1, ?_, ?_, h.book.tracked,
      h.book.sound⟩
    · intro logged hlogged
      rcases hlog logged hlogged with hold | heq
      · exact h.book.log_known logged hold
      · rw [heq]
        exact hreq
    · intro logged hlogged line hline
      rcases hlog logged hlogged with hold | heq
      · exact h.book.log_closed logged hold line (hsub hline).1
      · rw [heq]
        exact (hsub hline).2
  · refine h.accounts.imp_right fun ⟨hc, ha⟩ =>
      ⟨hc, ha.known, fun hline => ha.covered (hsub hline).1, ?_⟩
    intro label sub row hheld hrow hsubscribed
    obtain ⟨line, hlabel, hfits, hline⟩ := ha.standing hheld hrow hsubscribed
    refine ⟨line, hlabel, hfits, ?_⟩
    rcases hline with hopen | hrejected
    · by_cases heq : (line.request : Int) = reqId
      · exact .inr (mem_append_right _ (mem_filter.mpr ⟨hopen, decide_eq_true heq⟩))
      · exact .inl (mem_filter.mpr ⟨hopen, decide_eq_true heq⟩)
    · exact .inr (mem_append_left _ hrejected)

theorem Settled.observeRejection (hclosed : ∀ line ∈ link.lines, (line.request : Int) ≠ reqId) :
    Settled ctx held (link.observeRejection reqId code) := by
  unfold Link.observeRejection
  split
  · exact h.of_eq rfl rfl rfl rfl le_rfl h.book.tracked fun _ => .inl rfl
  · rename_i hneg
    split
    · exact h
    · rename_i row hrow
      have hmark : Settled ctx held (link.markRow row code) := by
        refine h.markRow (h.book.tracked _ _ hrow) fun line hline heq => ?_
        have := hclosed line hline
        omega
      refine hmark.of_eq rfl rfl rfl rfl le_rfl hmark.book.tracked ?_
      rintro (hhealth | hlost)
      · left
        show (link.subscriptionHealthFailed || _) = true
        rw [show link.subscriptionHealthFailed = true from hhealth]
        rfl
      · exact .inr hlost

theorem Settled.onError {monotonic : ℚ} : Settled ctx held (link.onError reqId code monotonic) := by
  unfold Link.onError
  split
  · exact h
  · rename_i hreq
    show Settled ctx held (if code ∈ subscriptionRejectionCodes then _ else _)
    split
    · have hconflict := (h.observeConnectivity code).observeConflict reqId code monotonic
      refine (hconflict.logRejection ?_).observeRejection ?_
      · rw [Link.nextRequest_observeConflict, Link.nextRequest_observeConnectivity]
        omega
      · intro line hline
        exact of_decide_eq_true (mem_filter.mp hline).2
    · exact h.observeConnectivity code

omit h in
theorem Settled.receive (event : BrokerEvent) (h : Settled ctx held link) :
    Settled ctx held (link.receive event) := by
  cases event with
  | error reqId code monotonic => exact h.onError
  | disconnected => exact h.of_eq rfl rfl rfl rfl le_rfl h.book.tracked id
  | capacity lines => exact h.of_eq rfl rfl rfl rfl le_rfl h.book.tracked id

theorem Settled.receive_all {events : List BrokerEvent} :
    Settled ctx held (events.foldl Link.receive link) := by
  induction events generalizing link with
  | nil => exact h
  | cons event rest ih => exact ih (h.receive event)

theorem Settled.absorb : Settled ctx held link.absorb := by
  have hscript : Settled ctx held { link with script := link.script.tail } :=
    h.of_eq rfl rfl rfl rfl le_rfl h.book.tracked id
  exact hscript.receive_all

end

end SpxSpark.Ibkr
