import SpxSpark.Ibkr.LineAccounts

/-!
# BatchSpecs — what each program of the link does to the accounts

A batch asked for is held when it comes back; a cancelled batch is held no more, or the link is
flagged.
-/

namespace SpxSpark.Ibkr

open Lib List
open Effect (wp wp_bind wp_get wp_ite wp_modify wp_mono)

variable {ctx : Prop} {held : Held} {link s : Link} {label : Label} {sub : Subscription}
  {E : Empty → Link → Prop}

theorem conseq {α σ : Type} {m : Effect σ Empty α} {Q Q' : α → σ → Prop}
    {E : Empty → σ → Prop} {s : σ} (h : wp m Q (fun error _ => error.elim) s)
    (hQ : ∀ a t, Q a t → Q' a t) : wp m Q' E s :=
  wp_mono hQ nofun h

/-! ## Opening a line -/

variable {row : Nat}

theorem Book.tracked_addRow {request : Nat} {r : Row} (h : Book s)
    (hlookup : s.subscriptionRowsByReqId.lookup request = some row) :
    (s.addRow r).requestOf row = some request := by
  have hrow := h.tracked request row hlookup
  unfold Link.requestOf at hrow ⊢
  cases hr : s.rows[row]? with
  | none =>
    rw [hr] at hrow
    cases hrow
  | some _ =>
    have hlt := (List.getElem?_eq_some_iff.mp hr).1
    show (s.rows ++ [r])[row]?.bind _ = some request
    rw [List.getElem?_append_left hlt]
    exact hrow

theorem Accounts.known_addRow {k : Label} {x : Subscription} {r : Row} {ticker : Bool}
    (h : Accounts held s) (hx : (held ⊔ holdsOne label ⟨ticker, s.rows.length⟩) k x) :
    x.row < (s.addRow r).rows.length := by
  show x.row < (s.rows ++ [r]).length
  rw [length_append, length_singleton]
  rcases hx with hold | ⟨-, rfl⟩
  · exact (h.known hold).trans (Nat.lt_succ_self _)
  · exact Nat.lt_succ_self _

theorem Settled.addRow (h : Settled ctx held s) :
    Settled ctx (held ⊔ holdsOne label ⟨false, s.rows.length⟩)
      (s.addRow ⟨label, false, some .subscribeFailed, none⟩) := by
  constructor
  · refine ⟨h.book.line_known, h.book.log_known, h.book.log_closed, ?_, ?_⟩
    · exact fun request row hlookup => h.book.tracked_addRow hlookup
    · intro row hrow hsub
      rcases mem_append.mp hrow with hold | hnew
      · exact h.book.sound row hold hsub
      · rw [mem_singleton.mp hnew] at hsub
        cases hsub
  · refine h.accounts.imp_right fun ⟨hc, ha⟩ => ⟨hc, ?_⟩
    constructor
    · exact ha.known_addRow
    · intro line hline
      obtain ⟨x, row, hx, hticker, hrow, hsub⟩ := ha.covered hline
      refine ⟨x, row, .inl hx, hticker, ?_, hsub⟩
      show (s.rows ++ [_])[x.row]? = some row
      rw [List.getElem?_append_left (ha.known hx)]
      exact hrow
    · intro k x row hx hrow hsub
      have hrow' : (s.rows ++ [_])[x.row]? = some row := hrow
      rcases hx with hold | ⟨-, rfl⟩
      · rw [List.getElem?_append_left (ha.known hold)] at hrow'
        exact ha.standing hold hrow' hsub
      · rw [getElem?_concat_length] at hrow'
        cases Option.some.inj hrow'
        cases hsub

theorem Settled.openLine {known : Bool} (h : Settled ctx held s)
    (hfresh : ctx → held.Without label) :
    Settled ctx (held ⊔ holdsOne label ⟨true, s.rows.length⟩) (s.openLine label known) := by
  have hlines : ∀ {line}, line ∈ (s.openLine label known).lines →
      line ∈ s.lines ∧ line.label ≠ label ∨ line = ⟨label, s.nextRequest⟩ := by
    intro line hline
    rcases mem_append.mp hline with hold | hnew
    · obtain ⟨hmem, hne⟩ := mem_filter.mp hold
      exact .inl ⟨hmem, of_decide_eq_true hne⟩
    · exact .inr (mem_singleton.mp hnew)
  have hfits : Row.Fits ⟨label, true, none, if known then some s.nextRequest else none⟩
      ⟨label, s.nextRequest⟩ := by
    cases known with
    | false => exact .inl rfl
    | true => exact .inr rfl
  constructor
  · refine ⟨?_, ?_, ?_, ?_, ?_⟩
    · intro line hline
      show line.request < s.nextRequest + 1
      rcases hlines hline with ⟨hold, -⟩ | rfl
      · exact (h.book.line_known line hold).trans (Nat.lt_succ_self _)
      · exact Nat.lt_succ_self _
    · intro logged hlogged
      have := h.book.log_known logged hlogged
      show logged.reqId < ((s.nextRequest + 1 : Nat) : Int)
      omega
    · intro logged hlogged line hline
      rcases hlines hline with ⟨hold, -⟩ | rfl
      · exact h.book.log_closed logged hlogged line hold
      · have := h.book.log_known logged hlogged
        exact this.ne'
    · exact fun request row hlookup => h.book.tracked_addRow hlookup
    · intro row hrow hsub
      rcases mem_append.mp hrow with hold | hnew
      · exact h.book.sound row hold hsub
      · rw [mem_singleton.mp hnew]
  · refine h.accounts.imp_right fun ⟨hc, ha⟩ => ⟨hc, ?_⟩
    constructor
    · exact ha.known_addRow
    · intro line hline
      rcases hlines hline with ⟨hold, -⟩ | rfl
      · obtain ⟨x, row, hx, hticker, hrow, hsub⟩ := ha.covered hold
        refine ⟨x, row, .inl hx, hticker, ?_, hsub⟩
        show (s.rows ++ [_])[x.row]? = some row
        rw [List.getElem?_append_left (ha.known hx)]
        exact hrow
      · exact ⟨_, _, .inr ⟨rfl, rfl⟩, rfl, getElem?_concat_length, rfl, hfits⟩
    · intro k x row hx hrow hsub
      have hrow' : (s.rows ++ [_])[x.row]? = some row := hrow
      rcases hx with hold | ⟨rfl, rfl⟩
      · rw [List.getElem?_append_left (ha.known hold)] at hrow'
        obtain ⟨line, rfl, hline, hopen⟩ := ha.standing hold hrow' hsub
        refine ⟨line, rfl, hline, hopen.imp_left fun hmem => ?_⟩
        -- a held label is not the one opened, so its line is not replaced
        have hne : line.label ≠ label := fun heq => hfresh hc x (heq ▸ hold)
        exact mem_append_left _ (mem_filter.mpr ⟨hmem, decide_eq_true hne⟩)
      · rw [getElem?_concat_length] at hrow'
        cases Option.some.inj hrow'
        exact ⟨_, rfl, hfits, .inl (mem_append_right _ (mem_singleton.mpr rfl))⟩

/-! ## Closing a line -/

theorem Settled.closeLine (h : Settled ctx (held ⊔ holdsOne label sub) s)
    (hfresh : ctx → held.Without label) : Settled ctx held (s.closeLine label) := by
  have hlines : ∀ {line}, line ∈ (s.closeLine label).lines →
      line ∈ s.lines ∧ line.label ≠ label := by
    intro line hline
    obtain ⟨hmem, hne⟩ := mem_filter.mp hline
    exact ⟨hmem, of_decide_eq_true hne⟩
  constructor
  · exact ⟨fun line hline => h.book.line_known line (hlines hline).1, h.book.log_known,
      fun logged hlogged line hline => h.book.log_closed logged hlogged line (hlines hline).1,
      h.book.tracked, h.book.sound⟩
  · refine h.accounts.imp_right fun ⟨hc, ha⟩ => ⟨hc, ?_⟩
    constructor
    · exact fun hx => ha.known (.inl hx)
    · intro line hline
      obtain ⟨hmem, hne⟩ := hlines hline
      obtain ⟨x, row, hx, hrest⟩ := ha.covered hmem
      rcases hx with hold | ⟨heq, -⟩
      · exact ⟨x, row, hold, hrest⟩
      · exact (hne heq).elim
    · intro k x row hx hrow hsub
      obtain ⟨line, rfl, hfits, hopen⟩ := ha.standing (.inl hx) hrow hsub
      refine ⟨line, rfl, hfits, hopen.imp_left fun hmem => ?_⟩
      have hne : line.label ≠ label := fun heq => hfresh hc x (heq ▸ hx)
      exact mem_filter.mpr ⟨hmem, decide_eq_true hne⟩

theorem Settled.dropIdle (h : Settled ctx (held ⊔ holdsOne label sub) s)
    (hidle : sub.ticker = true → s.subscribedRow sub = false) : Settled ctx held s := by
  refine ⟨h.book, h.accounts.imp_right fun ⟨hc, ha⟩ => ⟨hc, ?_, ?_, ?_⟩⟩
  · exact fun hx => ha.known (.inl hx)
  · intro line hline
    obtain ⟨x, row, hx, hticker, hrow, hsub, hfits⟩ := ha.covered hline
    rcases hx with hold | ⟨-, rfl⟩
    · exact ⟨x, row, hold, hticker, hrow, hsub, hfits⟩
    · have hfalse := hidle hticker
      unfold Link.subscribedRow at hfalse
      rw [hrow, Option.any_some, hsub] at hfalse
      cases hfalse
  · exact fun hx => ha.standing (.inl hx)

/-! ## Programs -/

theorem exchange_spec (h : Settled ctx held s) :
    wp exchange (fun _ t => Settled ctx held t) E s :=
  h.absorb

theorem subscribeContract_spec (h : Settled ctx held s) (hfresh : ctx → held.Without label) :
    wp (subscribeContract label) (fun sub t => Settled ctx (held ⊔ holdsOne label sub) t)
      E s := by
  unfold subscribeContract
  rw [wp_bind]
  refine conseq (exchange_spec h) fun course t ht => ?_
  rw [wp_bind, wp_get, wp_ite]
  constructor
  · intro _
    exact ht.addRow
  · intro _
    exact ht.openLine hfresh

variable {labels : List Label}

theorem qualifyAndSubscribe_spec (hnodup : ctx → labels.Nodup) (h : Settled ctx held s)
    (hfresh : ctx → ∀ label ∈ labels, held.Without label) :
    wp (qualifyAndSubscribe labels)
      (fun subs t => Settled ctx (held ⊔ holds subs) t ∧ ∀ label ∈ subs, label ∈ labels) E s := by
  induction labels generalizing held s E with
  | nil =>
    refine ⟨h.imp id fun _ k x => ⟨.inl, fun hx => hx.elim id nofun⟩, nofun⟩
  | cons label rest ih =>
    have hhead : ctx → label ∉ rest := fun hc => (nodup_cons.mp (hnodup hc)).1
    have hrest : ctx → rest.Nodup := fun hc => (nodup_cons.mp (hnodup hc)).2
    unfold qualifyAndSubscribe
    rw [wp_bind]
    refine conseq (subscribeContract_spec h fun hc => hfresh hc label
      (mem_cons_self ..)) fun sub t ht => ?_
    rw [wp_bind]
    have hfresh' : ctx → ∀ k ∈ rest, (held ⊔ holdsOne label sub).Without k := by
      rintro hc k hk x (hx | ⟨rfl, -⟩)
      · exact hfresh hc k (mem_cons_of_mem _ hk) x hx
      · exact hhead hc hk
    refine conseq (ih hrest ht hfresh') fun later u hu => ?_
    obtain ⟨hu, hkeys⟩ := hu
    have hdisjoint : ctx → ∀ k, k ∈ (AList.singleton label sub : Subscriptions) →
        k ∉ later := by
      intro hc k hk hlater
      rw [Dict.mem_singleton_dict.mp hk] at hlater
      exact hhead hc (hkeys label hlater)
    refine ⟨hu.imp id fun hc k x => ?_, fun k hk => ?_⟩
    · show (held k x ∨ holdsOne label sub k x) ∨ holds later k x ↔ held k x ∨ holds _ k x
      unfold holds
      rw [Dict.lookup_update_some (hdisjoint hc), Dict.lookup_singleton_some, or_assoc]
      exact or_congr_right (or_congr_left (and_congr_right fun _ => eq_comm))
    · rcases Dict.mem_update.mp hk with hone | hlater
      · rw [Dict.mem_singleton_dict.mp hone]
        simp
      · exact mem_cons_of_mem _ (hkeys k hlater)

theorem resolveOptionDefinitions_spec (h : Settled ctx held s) :
    wp (resolveOptionDefinitions labels)
      (fun resolved t => Settled ctx held t ∧ resolved.Sublist labels) E s := by
  unfold resolveOptionDefinitions
  rw [wp_bind, wp_modify, wp_bind]
  have hasked : Settled ctx held { s with nextRequest := s.nextRequest + labels.length } :=
    h.of_eq rfl rfl rfl rfl (Nat.le_add_right ..) h.book.tracked id
  exact conseq (exchange_spec hasked) fun course t ht => ⟨ht, filter_sublist⟩

theorem resolveSlowDefinitions_spec (h : Settled ctx held s) :
    wp (resolveSlowDefinitions labels)
      (fun resolved t => Settled ctx held t ∧ ∀ some', resolved = some some' →
        some'.Sublist labels) E s := by
  unfold resolveSlowDefinitions
  rw [wp_bind, wp_modify, wp_bind]
  have hasked : Settled ctx held { s with nextRequest := s.nextRequest + labels.length } :=
    h.of_eq rfl rfl rfl rfl (Nat.le_add_right ..) h.book.tracked id
  refine conseq (exchange_spec hasked) fun course t ht => ⟨ht, ?_⟩
  intro resolved hresolved
  split at hresolved
  · cases hresolved
  · cases hresolved
    exact filter_sublist

theorem cancelSubscription_spec (h : Settled ctx (held ⊔ holdsOne label sub) s)
    (hfresh : ctx → held.Without label) : wp (cancelSubscription label sub)
      (fun ok t => Settled ctx (held ⊔ fun k x => ok = false ∧ holdsOne label sub k x) t) E s := by
  have hdone : ∀ {t}, Settled ctx held t →
      Settled ctx (held ⊔ fun k x => true = false ∧ holdsOne label sub k x) t := fun ht =>
    ht.imp id fun _ k x => ⟨.inl, fun hx => hx.elim id fun hx => absurd hx.1 nofun⟩
  unfold cancelSubscription
  rw [wp_ite]
  constructor
  · intro hticker
    refine hdone (h.dropIdle fun htrue => ?_)
    rw [hticker] at htrue
    cases htrue
  · intro _
    rw [wp_bind]
    refine conseq (exchange_spec h) fun course t ht => ?_
    rw [wp_bind, wp_get, wp_ite, wp_ite]
    refine ⟨fun _ => ?_, fun _ => ⟨fun _ => hdone (ht.closeLine hfresh), fun hidle => ?_⟩⟩
    · exact ht.imp id fun _ k x => or_congr_right ⟨fun hx => ⟨rfl, hx⟩, fun hx => hx.2⟩
    · exact hdone (ht.dropIdle fun _ => Bool.eq_false_iff.mpr hidle)

theorem cancelSubscriptions_spec {entries : List ((_ : Label) × Subscription)}
    (hnodup : (entries.map (·.1)).Nodup)
    (h : Settled ctx (held ⊔ fun k x => ⟨k, x⟩ ∈ entries) s)
    (hfresh : ctx → ∀ entry ∈ entries, held.Without entry.1) :
    wp (cancelSubscriptions entries) (fun ok t => ∃ rest : Held,
      (ok = true → ∀ k x, ¬ rest k x) ∧ Settled ctx (held ⊔ rest) t) E s := by
  induction entries generalizing held s E with
  | nil => exact ⟨_, fun _ _ _ => not_mem_nil, h⟩
  | cons entry rest ih =>
    obtain ⟨label, sub⟩ := entry
    obtain ⟨hhead, hrest⟩ := nodup_cons.mp hnodup
    have hnot : ∀ {x : Subscription}, (⟨label, x⟩ : (_ : Label) × Subscription) ∉ rest :=
      fun hx => hhead (mem_map.mpr ⟨_, hx, rfl⟩)
    have hstart : Settled ctx ((held ⊔ fun k x => ⟨k, x⟩ ∈ rest) ⊔ holdsOne label sub) s := by
      refine h.imp id fun _ k x => ?_
      show held k x ∨ _ ∈ _ ↔ (held k x ∨ _) ∨ (k = label ∧ x = sub)
      rw [mem_cons, or_assoc, or_comm (a := _ ∈ rest)]
      refine or_congr_right (or_congr_left ⟨fun heq => ?_, fun ⟨hk, hx⟩ => ?_⟩)
      · cases heq
        exact ⟨rfl, rfl⟩
      · rw [hk, hx]
    have hfreshHead : ctx → (held ⊔ fun k x => ⟨k, x⟩ ∈ rest).Without label := by
      rintro hc x (hx | hx)
      · exact hfresh hc _ (mem_cons_self ..) x hx
      · exact hnot hx
    unfold cancelSubscriptions
    rw [wp_bind]
    refine conseq (cancelSubscription_spec hstart hfreshHead) fun ok t ht => ?_
    rw [wp_bind]
    let left : Held := fun k x => ok = false ∧ holdsOne label sub k x
    have hmid : Settled ctx ((held ⊔ left) ⊔ fun k x => ⟨k, x⟩ ∈ rest) t :=
      ht.imp id fun _ k x => or_right_comm
    have hfreshRest : ctx → ∀ entry ∈ rest, (held ⊔ left).Without entry.1 := by
      rintro hc ⟨k, y⟩ hentry x (hx | ⟨-, hk, -⟩)
      · exact hfresh hc _ (mem_cons_of_mem _ hentry) x hx
      · exact hnot ((show k = label from hk) ▸ hentry)
    refine conseq (ih hrest hmid hfreshRest) fun others u hu => ?_
    obtain ⟨later, hlater, hu⟩ := hu
    refine ⟨left ⊔ later, fun hboth k x hx => ?_, hu.imp id fun _ k x => or_assoc⟩
    obtain ⟨hok, hothers⟩ := Bool.and_eq_true_iff.mp hboth
    rcases hx with ⟨hfalse, -⟩ | hx
    · rw [hok] at hfalse
      cases hfalse
    · exact hlater hothers k x hx

/-! ## Rows and their requests -/

variable {lane : Lane}

theorem Settled.registerRow (h : Settled ctx held s) :
    Settled ctx held (s.registerRow lane row) := by
  unfold Link.registerRow
  split
  · exact h
  · rename_i request hrequest
    refine h.of_eq rfl rfl rfl rfl le_rfl (fun r i hi => ?_) id
    have hi' : (s.subscriptionRowsByReqId.insert request row).lookup r = some i := hi
    by_cases hr : r = request
    · subst hr
      rw [AList.lookup_insert] at hi'
      cases hi'
      exact hrequest
    · rw [AList.lookup_insert_ne hr] at hi'
      exact h.book.tracked r i hi'

theorem Settled.registerSubscriptionRows (h : Settled ctx held s) (subs : Subscriptions)
    (lane : Lane) : Settled ctx held (s.registerSubscriptionRows subs lane) := by
  unfold Link.registerSubscriptionRows
  induction subs.entries.map (·.2.row) generalizing s with
  | nil => exact h
  | cons row rest ih => exact ih (Settled.registerRow h)

theorem Settled.unregisterRow (h : Settled ctx held s) :
    Settled ctx held (s.unregisterRow row) := by
  unfold Link.unregisterRow
  split
  · exact h
  · rename_i request hrequest
    refine h.of_eq rfl rfl rfl rfl le_rfl (fun r i hi => ?_) id
    have hi' : (s.subscriptionRowsByReqId.erase request).lookup r = some i := hi
    by_cases hr : r = request
    · subst hr
      rw [AList.lookup_erase] at hi'
      cases hi'
    · rw [AList.lookup_erase_ne hr] at hi'
      exact h.book.tracked r i hi'

theorem Settled.unregisterSubscriptionRows (h : Settled ctx held s) (subs : Subscriptions) :
    Settled ctx held (s.unregisterSubscriptionRows subs) := by
  unfold Link.unregisterSubscriptionRows
  induction subs.entries.map (·.2.row) generalizing s with
  | nil => exact h
  | cons row rest ih => exact ih (Settled.unregisterRow h)

/-! ## Batches -/

theorem Settled.failHealth {ctx' : Prop} {held' : Held} (h : Settled ctx held s) :
    Settled ctx' held' s.failHealth ∧ Flagged s.failHealth := by
  have hbook : Settled ctx held s.failHealth :=
    h.of_eq rfl rfl rfl rfl le_rfl h.book.tracked fun _ => .inl rfl
  exact ⟨.of_flagged hbook.book (.inl rfl), .inl rfl⟩

theorem Settled.loseSubscriptions {ctx' : Prop} {held' : Held} (h : Settled ctx held s) :
    Settled ctx' held' s.loseSubscriptions ∧ Flagged s.loseSubscriptions := by
  have hbook : Settled ctx held s.loseSubscriptions :=
    h.of_eq rfl rfl rfl rfl le_rfl h.book.tracked fun _ => .inl rfl
  exact ⟨.of_flagged hbook.book (.inl rfl), .inl rfl⟩

variable {subs : Subscriptions}

theorem cancelBatch_spec (h : Settled ctx (held ⊔ holds subs) s)
    (hfresh : ctx → ∀ label ∈ subs, held.Without label) : wp (cancelBatch subs)
      (fun ok t => Settled ctx held t ∧ (ok = false → Flagged t)) E s := by
  unfold cancelBatch
  rw [wp_bind, wp_get, wp_ite]
  constructor
  · intro _
    obtain ⟨hlost, hflag⟩ := (h.unregisterSubscriptionRows subs).loseSubscriptions
    exact ⟨hlost, fun _ => hflag⟩
  · intro _
    rw [wp_bind]
    have hentries : Settled ctx (held ⊔ fun k x => ⟨k, x⟩ ∈ subs.entries) s :=
      h.imp id fun _ k x => or_congr_right AList.mem_lookup_iff
    have hfreshEntries : ctx → ∀ entry ∈ subs.entries, held.Without entry.1 := fun hc entry he =>
      hfresh hc entry.1 (AList.mem_keys.mpr (mem_map.mpr ⟨entry, he, rfl⟩))
    refine conseq (cancelSubscriptions_spec subs.nodupKeys hentries hfreshEntries)
      fun result t ht => ?_
    obtain ⟨rest, hrest, ht⟩ := ht
    rw [wp_bind, wp_get, wp_ite, wp_ite]
    refine ⟨fun _ => ?_, fun _ => ⟨fun _ => ?_, fun hresult => ?_⟩⟩
    · obtain ⟨hlost, hflag⟩ := (ht.unregisterSubscriptionRows subs).loseSubscriptions
      exact ⟨hlost, fun _ => hflag⟩
    · obtain ⟨hfailed, hflag⟩ := ht.failHealth
      exact ⟨hfailed, fun _ => hflag⟩
    · have hnone := hrest (Bool.eq_true_of_not_eq_false hresult)
      have hheld : Settled ctx held t :=
        ht.imp id fun _ k x => ⟨fun hx => hx.resolve_right (hnone k x), .inl⟩
      exact ⟨hheld.unregisterSubscriptionRows subs, nofun⟩

theorem rejectionsSince_closed {sequence : Nat} {hit : Option Nat × Nat} (hbook : Book s)
    (hhit : hit ∈ s.rejectionsSince subs sequence) (hrow : hit.1 = some row) :
    ∃ request, s.requestOf row = some request ∧ ∀ line ∈ s.lines, line.request ≠ request := by
  obtain ⟨logged, hlogged, rfl⟩ := mem_map.mp hhit
  have hfound := find?_some hrow
  have heq := of_decide_eq_true hfound
  cases hrequest : s.requestOf row with
  | none =>
    rw [hrequest] at heq
    cases heq
  | some request =>
    rw [hrequest] at heq
    have hid : (request : Int) = logged.reqId := Option.some.inj heq
    refine ⟨request, rfl, fun line hline hsame => ?_⟩
    have hmem := (mem_filter.mp (mem_filter.mp hlogged).1).1
    refine hbook.log_closed logged hmem line hline ?_
    rw [hsame]
    exact hid

theorem applySubscriptionRejections_spec {sequence : Nat} (h : Settled ctx held s) :
    wp (applySubscriptionRejections subs sequence) (fun _ t => Settled ctx held t) E s := by
  unfold applySubscriptionRejections
  rw [wp_bind, wp_get, wp_bind, wp_modify]
  -- marking a row changes no request and no line, so the hits stay good ones
  have hhits : ∀ hit ∈ s.rejectionsSince subs sequence, ∀ row, hit.1 = some row →
      ∃ request, s.requestOf row = some request ∧ ∀ line ∈ s.lines, line.request ≠ request :=
    fun hit hhit row hrow => rejectionsSince_closed h.book hhit hrow
  show Settled ctx held (List.foldl _ s _)
  generalize s.rejectionsSince subs sequence = hits at hhits
  induction hits generalizing s with
  | nil => exact h
  | cons hit rest ih =>
    obtain ⟨found, code⟩ := hit
    have hrest := fun other hother => hhits other (mem_cons_of_mem _ hother)
    cases found with
    | none => exact ih h hrest
    | some row =>
      obtain ⟨request, hrequest, hclosed⟩ := hhits _ (mem_cons_self ..) row rfl
      refine ih (h.markRow hrequest hclosed) fun other hother row' hrow' => ?_
      obtain ⟨request', hrequest', hclosed'⟩ := hrest other hother row' hrow'
      exact ⟨request', Link.requestOf_markRow.trans hrequest', hclosed'⟩

theorem subscriptionBatchSucceeded_spec {count rejection connectivity : Nat} {confirm : Bool}
    (h : Settled ctx held s) :
    wp (subscriptionBatchSucceeded subs count rejection connectivity confirm lane)
      (fun _ t => Settled ctx held t) E s := by
  have hrest : ∀ {t}, Settled ctx held t → wp (do
      let link ← get
      if link.connectivityChangedSince connectivity then
        modify Link.loseSubscriptions
        pure false
      else if link.subscriptionLifecycleBlocked then pure false
      else
        let rejected ← applySubscriptionRejections subs rejection
        if rejected then pure false
        else
          modify (Link.registerSubscriptionRows subs lane)
          pure true : LinkOp Bool) (fun _ t => Settled ctx held t) E t := by
    intro t ht
    rw [wp_bind, wp_get, wp_ite, wp_ite]
    refine ⟨fun _ => ht.loseSubscriptions.1, fun _ => ⟨fun _ => ht, fun _ => ?_⟩⟩
    rw [wp_bind]
    refine conseq (applySubscriptionRejections_spec ht) fun rejected u hu => ?_
    rw [wp_ite]
    exact ⟨fun _ => hu, fun _ => hu.registerSubscriptionRows subs lane⟩
  unfold subscriptionBatchSucceeded
  rw [wp_bind, wp_get, wp_ite]
  refine ⟨fun _ => h, fun _ => ?_⟩
  split
  · rw [wp_bind]
    exact conseq (exchange_spec h) fun _ t ht => hrest ht
  · exact hrest h

theorem qualifyAndSubscribeForLane_spec (hnodup : ctx → labels.Nodup) (h : Settled ctx held s)
    (hfresh : ctx → ∀ label ∈ labels, held.Without label) :
    wp (qualifyAndSubscribeForLane labels lane)
      (fun subs t => Settled ctx (held ⊔ holds subs) t ∧ ∀ label ∈ subs, label ∈ labels) E s := by
  unfold qualifyAndSubscribeForLane
  rw [wp_bind, wp_get, wp_bind, wp_modify, wp_bind]
  have hlane : Settled ctx held { s with subscriptionRequestLane := some lane } :=
    h.of_eq rfl rfl rfl rfl le_rfl h.book.tracked id
  refine conseq (qualifyAndSubscribe_spec hnodup hlane hfresh) fun subs t ht => ?_
  have hregistered := ht.1.registerSubscriptionRows subs lane
  exact ⟨hregistered.of_eq rfl rfl rfl rfl le_rfl hregistered.book.tracked id, ht.2⟩

variable {released : Subscriptions}

theorem restorable_nodup : (restorable released).Nodup :=
  (List.Sublist.map Sigma.fst filter_sublist).nodup released.keys_nodup

theorem mem_of_restorable (h : label ∈ restorable released) : label ∈ released := by
  obtain ⟨entry, hentry, rfl⟩ := mem_map.mp h
  exact AList.mem_keys.mpr (mem_map.mpr ⟨entry, (mem_filter.mp hentry).1, rfl⟩)

theorem Settled.keepHealthy (h : Settled ctx (held ⊔ holds subs) s) :
    Settled ctx (held ⊔ holds (subs.restrict fun _ sub => s.healthyRow sub)) s := by
  have hpart : ∀ {k x}, holds (subs.restrict fun _ sub => s.healthyRow sub) k x →
      holds subs k x := fun hx => (Dict.lookup_restrict_some.mp hx).1
  refine ⟨h.book, h.accounts.imp_right fun ⟨hc, ha⟩ => ⟨hc, ?_, ?_, ?_⟩⟩
  · exact fun hx => ha.known (hx.imp_right hpart)
  · intro line hline
    obtain ⟨x, row, hx, hticker, hrow, hsub, hfits⟩ := ha.covered hline
    refine ⟨x, row, hx.imp_right fun hx => ?_, hticker, hrow, hsub, hfits⟩
    refine Dict.lookup_restrict_some.mpr ⟨hx, ?_⟩
    have herror := h.book.sound row (mem_of_getElem? hrow) hsub
    unfold Link.healthyRow
    rw [hrow, Option.any_some, hsub, herror]
    rfl
  · exact fun hx => ha.standing (hx.imp_right hpart)

theorem restoreSubscriptions_spec (h : Settled ctx held s)
    (hfresh : ctx → ∀ label ∈ released, held.Without label) :
    wp (restoreSubscriptions released lane)
      (fun restored t => Settled ctx (held ⊔ holds restored) t ∧
        ∀ label ∈ restored, label ∈ released) E s := by
  have hnothing : ∀ {t}, Settled ctx held t →
      Settled ctx (held ⊔ holds ∅) t ∧ ∀ label ∈ (∅ : Subscriptions), label ∈ released :=
    fun ht => ⟨ht.imp id fun _ k x => ⟨.inl, fun hx => hx.elim id nofun⟩, nofun⟩
  unfold restoreSubscriptions
  rw [wp_bind, wp_get, wp_ite, wp_ite]
  refine ⟨fun _ => hnothing h, fun _ => ⟨fun _ => hnothing h, fun _ => ?_⟩⟩
  rw [wp_bind]
  have hfreshLabels : ctx → ∀ label ∈ restorable released, held.Without label :=
    fun hc label hlabel => hfresh hc label (mem_of_restorable hlabel)
  refine conseq (qualifyAndSubscribe_spec (fun _ => restorable_nodup) h hfreshLabels)
    fun restored t ht => ?_
  obtain ⟨ht, hkeys⟩ := ht
  rw [wp_bind]
  refine conseq (subscriptionBatchSucceeded_spec ht) fun ok u hu => ?_
  rw [wp_ite]
  constructor
  · intro _
    rw [wp_bind]
    refine conseq (cancelBatch_spec hu fun hc label hlabel =>
      hfreshLabels hc label (hkeys label hlabel)) fun _ v hv => ?_
    exact ⟨hv.1.failHealth.1, nofun⟩
  · intro _
    rw [wp_bind, wp_get]
    refine ⟨hu.keepHealthy, fun label hlabel => ?_⟩
    obtain ⟨sub, hsub, -⟩ := Dict.mem_restrict.mp hlabel
    exact mem_of_restorable (hkeys label (Dict.mem_of_lookup hsub))

end SpxSpark.Ibkr
