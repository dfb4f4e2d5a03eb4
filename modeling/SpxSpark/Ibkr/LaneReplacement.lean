import SpxSpark.Ibkr.BatchSpecs
import SpxSpark.Ibkr.SubscriptionOps

/-!
# LaneReplacement — the replacement of a lane's lines keeps the accounts

Whatever fails in a replacement, the lines it ends with are those of the lane it hands back.
-/

namespace SpxSpark.Ibkr

open Lib
open Effect (wp wp_bind wp_get wp_ite)

variable {ctx : Prop} {held held' : Held} {s : Link} {label : Label} {sub : Subscription}
  {subs : Subscriptions} {E : Empty → Link → Prop}

/-! ## Parts and unions -/

theorem holds_of_mem (h : label ∈ subs) : ∃ sub, holds subs label sub := Dict.mem_iff_lookup.mp h

theorem mem_of_holds (h : holds subs label sub) : label ∈ subs := Dict.mem_of_lookup h

/-- A dictionary is its part under a predicate and its part under the negation. -/
theorem holds_split (subs : Subscriptions) (q : Label → Bool) (label : Label)
    (sub : Subscription) : holds subs label sub ↔ holds (subs.restrict fun k _ => !q k) label sub ∨
      holds (subs.restrict fun k _ => q k) label sub := by
  unfold holds
  rw [Dict.lookup_restrict_some, Dict.lookup_restrict_some, ← and_or_left]
  cases q label <;> simp

theorem holds_without {part : Subscriptions}
    (hpart : ∀ k x, holds part k x → holds subs k x) : holds subs label sub ↔
      holds (subs.restrict fun k _ => k ∉ part) label sub ∨ holds part label sub := by
  constructor
  · intro hsub
    by_cases hmem : label ∈ part
    · obtain ⟨other, hother⟩ := holds_of_mem hmem
      have heq : other = sub := Option.some.inj ((hpart _ _ hother).symm.trans hsub)
      exact .inr (heq ▸ hother)
    · exact .inl (Dict.lookup_restrict_some.mpr ⟨hsub, decide_eq_true hmem⟩)
  · rintro (hsub | hsub)
    · exact (Dict.lookup_restrict_some.mp hsub).1
    · exact hpart _ _ hsub

theorem not_holds_without {part : Subscriptions} (hmem : label ∈ part) :
    ¬ holds (subs.restrict fun k _ => k ∉ part) label sub := fun hsub =>
  of_decide_eq_true (Dict.lookup_restrict_some.mp hsub).2 hmem

theorem holds_update {d e : Subscriptions} (h : ∀ k, k ∈ d → k ∉ e) :
    holds (Dict.update d e) label sub ↔ holds d label sub ∨ holds e label sub :=
  Dict.lookup_update_some h

theorem holds_none (h : subs.size = 0) : ¬ holds subs label sub := by
  intro hx
  have hnil : subs.entries = [] := List.length_eq_zero_iff.mp h
  have hmem := AList.mem_lookup_iff.mp hx
  rw [hnil] at hmem
  cases hmem

/-- Once a flag is set it stays set, and nothing has to be accounted for. -/
theorem Settled.absurd (h : Settled False held s) : Settled ctx held' s :=
  h.imp False.elim False.elim

/-! ## Optional cancellations -/

theorem cancelAny_spec (h : Settled ctx (held ⊔ holds subs) s)
    (hfresh : ctx → ∀ label ∈ subs, held.Without label) : wp (cancelAny subs)
      (fun ok t => Settled ctx held t ∧ (ok = false → Flagged t)) E s := by
  unfold cancelAny
  rw [wp_ite]
  constructor
  · intro hnone
    exact ⟨h.imp id fun _ k x => ⟨fun hx => hx.resolve_right (holds_none hnone), .inl⟩, nofun⟩
  · intro _
    exact cancelBatch_spec h hfresh

theorem restoreAny_spec {released : Subscriptions} {lane : Lane}
    (h : Settled ctx held s) (hfresh : ctx → ∀ label ∈ released, held.Without label) :
    wp (restoreAny released lane)
      (fun restored t => Settled ctx (held ⊔ holds restored) t ∧
        ∀ label ∈ restored, label ∈ released) E s := by
  unfold restoreAny
  rw [wp_ite]
  constructor
  · intro _
    exact ⟨h.imp id fun _ k x => ⟨.inl, fun hx => hx.elim id nofun⟩, nofun⟩
  · intro _
    exact restoreSubscriptions_spec h hfresh

/-! ## Replacement -/

/-- What a replacement hands back: the lane as desired, or a part of the lane as it was. -/
structure Replacement (current : Subscriptions) (desired added : List Label)
    (result : ReplaceOutcome × Subscriptions) : Prop where
  replaced : result.1 = .replaced → ∀ label ∈ result.2, label ∈ desired
  kept : result.1 ≠ .replaced → ∀ label ∈ result.2, label ∈ current
  known : ∀ label ∈ result.2, label ∈ current ∨ label ∈ added

section Replace

variable {current : Subscriptions} {desired added release : List Label} {lane : Lane}

theorem released_without (hcurrent : ∀ label ∈ current, held.Without label) :
    ∀ label ∈ current.restrict fun label _ => label ∈ release,
      (held ⊔ holds (current.restrict fun label _ => label ∉ release)).Without label := by
  intro label hlabel sub hsub
  obtain ⟨hrelease, hmem⟩ := Dict.mem_restrict_keys.mp hlabel
  rcases hsub with hheld | hremaining
  · exact hcurrent label hmem sub hheld
  · have hnot := (Dict.mem_restrict_keys.mp (mem_of_holds hremaining)).1
    exact of_decide_eq_true hnot (of_decide_eq_true hrelease)

theorem restoreReleased_spec
    (h : Settled ctx (held ⊔ holds (current.restrict fun label _ => label ∉ release)) s)
    (hcurrent : ctx → ∀ label ∈ current, held.Without label) :
    wp (restoreSubscriptions (current.restrict fun label _ => label ∈ release) lane)
      (fun restored t => Settled ctx (held ⊔ holds
          (Dict.update (current.restrict fun label _ => label ∉ release) restored)) t ∧
        ∀ label ∈ Dict.update (current.restrict fun label _ => label ∉ release) restored,
          label ∈ current) E s := by
  refine conseq (restoreSubscriptions_spec h fun hc =>
    released_without (hcurrent hc)) fun restored t ht => ?_
  obtain ⟨ht, hkeys⟩ := ht
  have hdisjoint : ∀ k, (k ∈ current.restrict fun label _ => label ∉ release) → k ∉ restored := by
    intro k hk hrestored
    have hnot := (Dict.mem_restrict_keys.mp hk).1
    have hrelease := (Dict.mem_restrict_keys.mp (hkeys k hrestored)).1
    exact of_decide_eq_true hnot (of_decide_eq_true hrelease)
  refine ⟨ht.imp id fun _ k x => ?_, fun label hlabel => ?_⟩
  · exact or_assoc.trans (or_congr_right (holds_update hdisjoint).symm)
  · rcases Dict.mem_update.mp hlabel with hremaining | hrestored
    · exact (Dict.mem_restrict_keys.mp hremaining).2
    · exact (Dict.mem_restrict_keys.mp (hkeys label hrestored)).2

theorem replaceLines_spec (hadded : added.Nodup) (hdesired : ∀ label ∈ added, label ∈ desired)
    (hnew : ∀ label ∈ added, label ∉ current) (h : Settled ctx (held ⊔ holds current) s)
    (hcurrent : ctx → ∀ label ∈ current, held.Without label)
    (hfresh : ctx → ∀ label ∈ added, held.Without label) :
    wp (replaceLines lane current desired added release)
      (fun result t => Settled ctx (held ⊔ holds result.2) t ∧
        Replacement current desired added result) E s := by
  -- a part of the lane as it was is handed back by every failure
  have hpart : ∀ {outcome : ReplaceOutcome} {subs : Subscriptions}, outcome ≠ .replaced →
      (∀ label ∈ subs, label ∈ current) → Replacement current desired added (outcome, subs) :=
    fun hne hsubs => ⟨fun heq => (hne heq).elim, fun _ => hsubs, fun k hk => .inl (hsubs k hk)⟩
  have hsplit : Settled ctx ((held ⊔ holds (current.restrict fun label _ => label ∉ release)) ⊔
      holds (current.restrict fun label _ => label ∈ release)) s := by
    refine h.imp id fun _ k x => ?_
    have hx := holds_split current (· ∈ release) k x
    simp only [← decide_not] at hx
    exact (or_congr_right hx).trans or_assoc.symm
  unfold replaceLines
  rw [wp_bind]
  refine conseq (cancelAny_spec hsplit fun hc =>
    released_without (hcurrent hc)) fun released t ht => ?_
  obtain ⟨ht, hflag⟩ := ht
  rw [wp_ite]
  refine ⟨fun hfailed => ⟨.of_flagged ht.book (hflag hfailed), hpart (by simp) fun _ => id⟩,
    fun _ => ?_⟩
  rw [wp_bind, wp_get, wp_bind]
  refine conseq (resolveOptionDefinitions_spec ht) fun definitions u hu => ?_
  obtain ⟨hu, hdefinitions⟩ := hu
  have hnotRemaining : ctx → ∀ label ∈ definitions,
      (held ⊔ holds (current.restrict fun label _ => label ∉ release)).Without label := by
    intro hc label hlabel sub hsub
    have hmem := hdefinitions.subset hlabel
    rcases hsub with hheld | hremaining
    · exact hfresh hc label hmem sub hheld
    · exact hnew label hmem (Dict.mem_restrict_keys.mp (mem_of_holds hremaining)).2
  rw [wp_bind]
  refine conseq (qualifyAndSubscribe_spec (fun _ => hdefinitions.nodup hadded) hu
    hnotRemaining) fun additions v hv => ?_
  obtain ⟨hv, hkeys⟩ := hv
  have hadditions : ∀ label ∈ additions, label ∈ added := fun label hlabel =>
    hdefinitions.subset (hkeys label hlabel)
  have hcancelAdditions : ctx → ∀ label ∈ additions,
      (held ⊔ holds (current.restrict fun label _ => label ∉ release)).Without label :=
    fun hc label hlabel => hnotRemaining hc label (hkeys label hlabel)
  rw [wp_bind]
  refine conseq (subscriptionBatchSucceeded_spec hv) fun ok v' hv' => ?_
  rw [wp_ite]
  constructor
  · intro _
    rw [wp_bind]
    refine conseq (cancelBatch_spec hv' hcancelAdditions) fun _ x hx => ?_
    rw [wp_bind]
    exact conseq (restoreReleased_spec hx.1 hcurrent) fun restored y hy =>
      ⟨hy.1, hpart (by simp) hy.2⟩
  · intro _
    let remaining := current.restrict fun label _ => label ∉ release
    let retained := remaining.restrict fun label _ => label ∈ desired
    let dropped := remaining.restrict fun label _ => label ∉ desired
    have hparts : Settled ctx ((held ⊔ (holds retained ⊔ holds additions)) ⊔ holds dropped) v' := by
      refine hv'.imp id fun _ k x => ?_
      have hx := holds_split remaining (· ∈ desired) k x
      simp only [← decide_not] at hx
      show (held k x ∨ holds remaining k x) ∨ holds additions k x ↔
        (held k x ∨ holds retained k x ∨ holds additions k x) ∨ holds dropped k x
      rw [hx]
      tauto
    have hfreshDropped : ctx → ∀ label ∈ dropped,
        (held ⊔ (holds retained ⊔ holds additions)).Without label := by
      intro hc label hlabel sub hsub
      obtain ⟨hnot, hremaining⟩ := Dict.mem_restrict_keys.mp hlabel
      have hmem := (Dict.mem_restrict_keys.mp hremaining).2
      rcases hsub with hheld | hretained | hadds
      · exact hcurrent hc label hmem sub hheld
      · have hyes := (Dict.mem_restrict_keys.mp (mem_of_holds hretained)).1
        exact of_decide_eq_true hnot (of_decide_eq_true hyes)
      · exact hnew label (hadditions label (mem_of_holds hadds)) hmem
    rw [wp_bind]
    refine conseq (cancelBatch_spec hparts hfreshDropped) fun done x hx => ?_
    obtain ⟨hx, hflag⟩ := hx
    rw [wp_ite]
    constructor
    · intro hfailed
      -- the link is flagged, and whatever follows leaves it so
      have hlost : Settled False (held ⊔ holds remaining ⊔ holds additions) x :=
        .of_flagged hx.book (hflag hfailed)
      rw [wp_bind]
      refine conseq (cancelBatch_spec hlost False.elim) fun _ y hy => ?_
      rw [wp_bind]
      exact conseq (restoreReleased_spec hy.1 False.elim) fun restored z hz =>
        ⟨hz.1.absurd, hpart (by simp) hz.2⟩
    · intro _
      have hdisjoint : ∀ k, k ∈ retained → k ∉ additions := fun k hk hadds =>
        hnew k (hadditions k hadds)
          (Dict.mem_restrict_keys.mp (Dict.mem_restrict_keys.mp hk).2).2
      have hresult : ∀ label ∈ Dict.update retained additions,
          label ∈ desired ∧ (label ∈ current ∨ label ∈ added) := by
        intro label hlabel
        rcases Dict.mem_update.mp hlabel with hretained | hadds
        · obtain ⟨hyes, hremaining⟩ := Dict.mem_restrict_keys.mp hretained
          exact ⟨of_decide_eq_true hyes, .inl (Dict.mem_restrict_keys.mp hremaining).2⟩
        · exact ⟨hdesired label (hadditions label hadds), .inr (hadditions label hadds)⟩
      refine ⟨hx.imp id fun _ k x => or_congr_right (holds_update hdisjoint).symm, ?_⟩
      exact ⟨fun _ label hlabel => (hresult label hlabel).1, fun hne => (hne rfl).elim,
        fun label hlabel => (hresult label hlabel).2⟩

end Replace

end SpxSpark.Ibkr
