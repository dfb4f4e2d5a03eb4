import SpxSpark.Ibkr.LaneOperations

/-!
# PinOwnership — admission and release of a pin keep the ownership

An admission gives up lines of two lanes before it asks for its own, and has seven ways to fail
after that.
-/

namespace SpxSpark.Ibkr

open Lib List
open Effect (wp wp_bind wp_get wp_ite wp_modify)

variable {settings : StreamSettings} {bounded : Prop} {w t u : Collector}
  {lane : Lane} {label : Label} {sub : Subscription} {except : List Lane}
  {subs : Subscriptions} {demand : ExactLegQuoteDemand} {reading : DemandReading}
  {legs : ReusedLegs} {victims : PinVictims} {missing : List Label} {link : Link}
  {E : Empty → Collector → Prop}

/-! ## Victims -/

theorem Within.without (h : Within w t) (hfacts : LaneFacts settings w)
    (hmem : label ∈ w.lanes lane) (hlane : lane ∈ except) :
    (others t.lanes except).Without label := by
  intro sub hsub
  obtain ⟨other, hother, hin⟩ := mem_of_others hsub
  have heq : other = lane := (hfacts.home (h.lanes other label hin)).symm.trans (hfacts.home hmem)
  exact hother (heq ▸ hlane)

/-- The labels were the lane's when the admission began, and are not in it now. -/
def Lent (w t : Collector) (lane : Lane) (victims : Subscriptions) : Prop :=
  ∀ label ∈ victims, label ∈ w.lanes lane ∧ label ∉ t.lanes lane

theorem restorePinVictims_owned {released : List (Lane × Subscriptions)}
    (hpair : released.Pairwise fun a b => a.1 ≠ b.1)
    (hlent : ∀ r ∈ released, r.1 ≠ .pinned ∧ Lent w t r.1 r.2) (hwithin : Within w t)
    (h : Settled (LaneContext settings bounded w) (records t) t.link) :
    wp (restorePinVictims released) (fun _ u => Owned settings bounded u) E t := by
  induction released generalizing t with
  | nil => exact hwithin.owned h
  | cons head rest ih =>
    obtain ⟨lane, victims⟩ := head
    obtain ⟨hhead, hrest⟩ := pairwise_cons.mp hpair
    obtain ⟨hlane, hvictims⟩ := hlent _ (mem_cons_self ..)
    have hfresh : LaneContext settings bounded w → ∀ k ∈ victims, (records t).Without k := by
      intro hc k hk x hx
      obtain ⟨hmem, hnot⟩ := hvictims k hk
      rcases (others_split (show lane ∉ [] from not_mem_nil)).mp hx with hother | hown
      · exact hwithin.without hc.1 hmem (mem_cons_self ..) x hother
      · exact hnot (mem_of_holds hown)
    unfold restorePinVictims
    refine wp_seq_onLink (restoreSubscriptions_spec h hfresh) fun restored l hl => ?_
    obtain ⟨hl, hkeys⟩ := hl
    rw [wp_bind, wp_modify, wp_bind]
    refine wp_onLink_modify ?_
    have hdisjoint : ∀ k, k ∈ t.lanes lane → k ∉ restored := fun k hk hrestored =>
      (hvictims k (hkeys k hrestored)).2 hk
    have hheld : Settled (LaneContext settings bounded w)
        (records (t.setLane lane (Dict.update (t.lanes lane) restored))) l := by
      refine hl.imp id fun _ k x => ?_
      rw [records_setLane rfl, holds_update hdisjoint, ← or_assoc]
      exact or_congr_left (others_split not_mem_nil)
    have hfail : Settled (LaneContext settings bounded w)
        (records (t.setLane lane (Dict.update (t.lanes lane) restored)))
        (Link.failHealthIf (restored.size ≠ victims.size) l) := by
      unfold Link.failHealthIf
      split
      · exact hheld.failHealth.1
      · exact hheld
    refine ih hrest (fun r hr => ?_) ?_ hfail
    · obtain ⟨hne, hlent⟩ := hlent r (mem_cons_of_mem _ hr)
      refine ⟨hne, fun k hk => ⟨(hlent k hk).1, ?_⟩⟩
      show k ∉ (t.setLane lane _).lanes r.1
      rw [setLane_ne (hhead r hr).symm]
      exact (hlent k hk).2
    · refine (hwithin.setLane lane hlane fun k hk => ?_).onLink _
      rcases Dict.mem_update.mp hk with hown | hrestored
      · exact hwithin.lanes lane k hown
      · exact (hvictims k (hkeys k hrestored)).1

theorem preemptVictims_spec (hwithin : Within w t) (hlane : lane ≠ .pinned)
    (hsub : ∀ k x, holds subs k x → holds (t.lanes lane) k x)
    (h : Settled (LaneContext settings bounded w) (records t) t.link) :
    wp (preemptVictims lane subs) (fun ok u => Within w u ∧
      Settled (LaneContext settings bounded w) (records u) u.link ∧
      (ok = false → Flagged u.link) ∧ (∀ other, other ≠ lane → u.lanes other = t.lanes other) ∧
      (ok = true → u.lanes = (t.setLane lane
        ((t.lanes lane).restrict fun k _ => k ∉ subs)).lanes)) E t := by
  let kept := (t.lanes lane).restrict fun k _ => k ∉ subs
  have hparts : Settled (LaneContext settings bounded w)
      ((others t.lanes [lane] ⊔ holds kept) ⊔ holds subs) t.link :=
    h.imp id fun _ k x => (others_split not_mem_nil).trans
      ((or_congr_right (holds_without hsub)).trans or_assoc.symm)
  have hfresh : LaneContext settings bounded w → ∀ k ∈ subs,
      (others t.lanes [lane] ⊔ holds kept).Without k := by
    rintro hc k hk x (hx | hx)
    · obtain ⟨y, hy⟩ := holds_of_mem hk
      have hmem := hwithin.lanes lane k (mem_of_holds (hsub k y hy))
      exact hwithin.without hc.1 hmem (mem_cons_self ..) x hx
    · exact not_holds_without hk hx
  unfold preemptVictims
  refine wp_seq_onLink (cancelAny_spec hparts hfresh) fun ok l hl => ?_
  obtain ⟨hl, hflag⟩ := hl
  rw [wp_ite]
  constructor
  · intro hfailed
    exact ⟨hwithin.onLink l, .of_flagged hl.book (hflag hfailed), fun _ => hflag hfailed,
      fun _ _ => rfl, nofun⟩
  · intro _
    rw [wp_bind, wp_modify]
    refine ⟨(hwithin.setLane lane hlane fun k hk => ?_).onLink l, ?_, nofun,
      fun _ => setLane_ne, fun _ => rfl⟩
    · exact hwithin.lanes lane k (Dict.mem_restrict_keys.mp hk).2
    · exact hl.imp id fun _ k x => (records_setLane rfl).symm

/-! ## The commitment -/

/-- Where an admission stands once its victims are given up. -/
structure PinReady (settings : StreamSettings) (legs : ReusedLegs) (victims : PinVictims)
    (missing : List Label) (w t : Collector) : Prop where
  within : Within w t
  unpinned : ∀ label, label ∉ w.lanes .pinned
  rotationVictims : Lent w t .rotation victims.rotation
  hotVictims : Lent w t .hot victims.hot
  hotLegs : ∀ k x, holds legs.hot k x → holds (t.lanes .hot) k x
  rotationLegs : ∀ k x, holds legs.rotation k x → holds (t.lanes .rotation) k x
  legs_disjoint : ∀ k, k ∈ legs.rotation → k ∉ legs.hot
  missing_nodup : missing.Nodup
  missing_spxw : ∀ k ∈ missing, k.IsSpxw
  missing_new : ∀ k ∈ missing, k ∉ w.lanes .hot ∧ k ∉ w.lanes .rotation

section

variable (h : PinReady settings legs victims missing w t)

include h

theorem PinReady.onLink (link : Link) :
    PinReady settings legs victims missing w { t with link := link } :=
  ⟨h.within.onLink link, h.unpinned, h.rotationVictims, h.hotVictims, h.hotLegs, h.rotationLegs,
    h.legs_disjoint, h.missing_nodup, h.missing_spxw, h.missing_new⟩

theorem PinReady.not_missing
    (hmem : label ∈ w.lanes lane) (hlane : lane ∈ optionLanes) : label ∉ missing := by
  intro hmissing
  obtain ⟨hhot, hrotation⟩ := h.missing_new label hmissing
  rcases mem_optionLanes.mp hlane with rfl | rfl | rfl
  · exact hhot hmem
  · exact hrotation hmem
  · exact h.unpinned label hmem

theorem PinReady.fresh
    (hc : LaneContext settings bounded w) : ∀ k ∈ missing, (records t).Without k := by
  intro k hk x hx
  obtain ⟨lane, -, hmem⟩ := mem_of_others hx
  have hin := h.within.lanes lane k hmem
  refine h.not_missing hin ?_ hk
  rw [← hc.1.home hin]
  exact isSpxw_iff_home.mp (h.missing_spxw k hk)

theorem PinReady.restore (hsettled : Settled (LaneContext settings bounded w) (records t) t.link) :
    wp (restorePinVictims victims.released) (fun _ u => Owned settings bounded u) E t := by
  refine restorePinVictims_owned ?_ (fun r hr => ?_) h.within hsettled
  · exact pairwise_cons.mpr ⟨fun r hr => by rw [mem_singleton.mp hr]; nofun,
      pairwise_singleton _ _⟩
  · rcases mem_cons.mp hr with rfl | hr
    · exact ⟨nofun, h.rotationVictims⟩
    · rw [mem_singleton.mp hr]
      exact ⟨nofun, h.hotVictims⟩

end

section Commit

variable {additions : Subscriptions}

theorem mem_pinned (hkeys : ∀ k ∈ additions, k ∈ missing)
    (hpin : label ∈ Dict.update legs.existing additions) :
    label ∈ legs.rotation ∨ label ∈ legs.hot ∨ label ∈ missing := by
  rcases Dict.mem_update.mp hpin with hleg | hadd
  · exact (Dict.mem_update.mp hleg).imp_right .inl
  · exact .inr (.inr (hkeys label hadd))

theorem commitPin_hot : (commitPin demand legs additions victims.hot t).lanes .hot =
    (t.lanes .hot).restrict fun label _ => label ∉ legs.hot := rfl

theorem commitPin_rotation : (commitPin demand legs additions victims.hot t).lanes .rotation =
    (t.lanes .rotation).restrict fun label _ => label ∉ legs.rotation := rfl

theorem commitPin_pinned : (commitPin demand legs additions victims.hot t).lanes .pinned =
    Dict.update legs.existing additions := rfl

theorem commitPin_other (hlane : lane ∉ optionLanes) :
    (commitPin demand legs additions victims.hot t).lanes lane = t.lanes lane := by
  have hparts := fun heq => hlane (mem_optionLanes.mpr heq)
  refine (setLane_ne fun heq => hparts (.inr (.inr heq))).trans ?_
  exact (setLane_ne fun heq => hparts (.inr (.inl heq))).trans
    (setLane_ne fun heq => hparts (.inl heq))

variable (demand) in
theorem commitPin_records (h : PinReady settings legs victims missing w t)
    (hkeys : ∀ k ∈ additions, k ∈ missing) : ∀ label sub,
    (records t ⊔ holds additions) label sub ↔
      records (commitPin demand legs additions victims.hot t) label sub := by
  intro label sub
  have hunpinned : ¬ holds (t.lanes .pinned) label sub := by
    rw [h.within.pinned]
    exact fun hx => h.unpinned label (mem_of_holds hx)
  have hexisting : ∀ k, k ∈ legs.existing → k ∉ additions := by
    intro k hk hadd
    have hmissing := hkeys k hadd
    rcases Dict.mem_update.mp hk with hleg | hleg
    · obtain ⟨x, hx⟩ := holds_of_mem hleg
      have hin := h.within.lanes .rotation k (mem_of_holds (h.rotationLegs k x hx))
      exact (h.missing_new k hmissing).2 hin
    · obtain ⟨x, hx⟩ := holds_of_mem hleg
      have hin := h.within.lanes .hot k (mem_of_holds (h.hotLegs k x hx))
      exact (h.missing_new k hmissing).1 hin
  have hrest : others (commitPin demand legs additions victims.hot t).lanes optionLanes label sub ↔
      others t.lanes optionLanes label sub := others_congr fun _ => commitPin_other
  show records t label sub ∨ holds additions label sub ↔ _
  rw [records_options, records_options, hrest, commitPin_hot, commitPin_rotation,
    commitPin_pinned, holds_without h.hotLegs, holds_without h.rotationLegs,
    holds_update hexisting, ReusedLegs.existing, holds_update h.legs_disjoint]
  tauto

theorem commitPin_context (h : PinReady settings legs victims missing w t)
    (hroom : bounded → missing.length = 0 ∨
      lineCount t optionLanes + missing.length ≤ settings.maxOptionLines)
    (hkeys : ∀ k ∈ additions, k ∈ missing) (hw : LaneContext settings bounded w) :
    LaneContext settings bounded (commitPin demand legs additions victims.hot t) := by
  obtain ⟨hfacts, hbound⟩ := hw
  have hhotLeg : ∀ k ∈ legs.hot, k ∈ w.lanes .hot := by
    intro k hk
    obtain ⟨x, hx⟩ := holds_of_mem hk
    exact h.within.lanes .hot k (mem_of_holds (h.hotLegs k x hx))
  have hrotationLeg : ∀ k ∈ legs.rotation, k ∈ w.lanes .rotation := by
    intro k hk
    obtain ⟨x, hx⟩ := holds_of_mem hk
    exact h.within.lanes .rotation k (mem_of_holds (h.rotationLegs k x hx))
  have hne : ∀ {k}, k ∈ w.lanes .hot → k ∉ w.lanes .rotation := fun hhot hrotation =>
    absurd ((hfacts.home hhot).symm.trans (hfacts.home hrotation)) nofun
  have hplan : (commitPin demand legs additions victims.hot t).desiredHotLabels =
      w.desiredHotLabels := by
    show t.optionPlan.elim _ _ = _
    rw [h.within.plan]
    rfl
  refine ⟨⟨fun {lane label} hlabel => ?_, ?_, ?_⟩, fun hb => ?_⟩
  · by_cases hlane : lane ∈ optionLanes
    · rcases mem_optionLanes.mp hlane with rfl | rfl | rfl
      · rw [commitPin_hot] at hlabel
        obtain ⟨hleft, hin⟩ := Dict.mem_restrict_keys.mp hlabel
        have hmem := h.within.lanes .hot label hin
        refine homeLane_hot ?_ fun hpin => ?_
        · rw [hplan]
          exact (hfacts.option hmem hlane).hot rfl
        · rcases mem_pinned hkeys hpin with hleg | hleg | hmissing
          · exact hne hmem (hrotationLeg label hleg)
          · exact of_decide_eq_true hleft hleg
          · exact h.not_missing hmem hlane hmissing
      · rw [commitPin_rotation] at hlabel
        obtain ⟨hleft, hin⟩ := Dict.mem_restrict_keys.mp hlabel
        have hmem := h.within.lanes .rotation label hin
        have hhome := hfacts.option hmem hlane
        refine homeLane_rotation hhome.spxw (fun hpin => ?_) ?_
        · rcases mem_pinned hkeys hpin with hleg | hleg | hmissing
          · exact of_decide_eq_true hleft hleg
          · exact hne (hhotLeg label hleg) hmem
          · exact h.not_missing hmem hlane hmissing
        · rw [hplan]
          exact hhome.rotation rfl
      · refine homeLane_pinned ?_ hlabel
        rcases mem_pinned hkeys hlabel with hleg | hleg | hmissing
        · exact (hfacts.option (hrotationLeg label hleg) (by decide)).spxw
        · exact (hfacts.option (hhotLeg label hleg) (by decide)).spxw
        · exact h.missing_spxw label hmissing
    · rw [commitPin_other hlane] at hlabel
      exact homeLane_fixed (hfacts.home (h.within.lanes lane label hlabel)) hlane
  · show ∀ chunk ∈ t.slowChunks, _
    rw [h.within.chunks]
    exact hfacts.chunks
  · show (∀ scheduler, t.slowScheduler = some scheduler → _) → ∀ k, k ∉ t.lanes .slow
    rw [h.within.scheduler]
    exact fun hnone k hk => hfacts.idle hnone k (h.within.lanes .slow k hk)
  · -- every label was in an option lane before, or is one of those asked for
    have hcount : lineCount (commitPin demand legs additions victims.hot t) optionLanes ≤
        lineCount t optionLanes + missing.length := by
      refine (lineCount_le (laneLabels t optionLanes ∪ missing.toFinset)
        fun lane hlane label hlabel => ?_).trans ((Finset.card_union_le _ _).trans
          (Nat.add_le_add (lineCount_eq (w := t)).ge (toFinset_card_le _)))
      rw [Finset.mem_union, mem_laneLabels, mem_toFinset]
      rcases mem_optionLanes.mp hlane with rfl | rfl | rfl
      · rw [commitPin_hot] at hlabel
        exact .inl ⟨.hot, by decide, (Dict.mem_restrict_keys.mp hlabel).2⟩
      · rw [commitPin_rotation] at hlabel
        exact .inl ⟨.rotation, by decide, (Dict.mem_restrict_keys.mp hlabel).2⟩
      · rcases mem_pinned hkeys hlabel with hleg | hleg | hmissing
        · obtain ⟨x, hx⟩ := holds_of_mem hleg
          exact .inl ⟨.rotation, by decide, mem_of_holds (h.rotationLegs label x hx)⟩
        · obtain ⟨x, hx⟩ := holds_of_mem hleg
          exact .inl ⟨.hot, by decide, mem_of_holds (h.hotLegs label x hx)⟩
        · exact .inr hmissing
    have hless : lineCount t optionLanes ≤ lineCount w optionLanes :=
      lineCount_mono fun lane hlane label hlabel =>
        ⟨lane, hlane, h.within.lanes lane label hlabel⟩
    have := hbound hb
    rcases hroom hb with hnone | hfits
    · omega
    · omega

end Commit

/-! ## Admission -/

theorem subscribePin_owned (h : PinReady settings legs victims missing w t)
    (hroom : bounded → missing.length = 0 ∨
      lineCount t optionLanes + missing.length ≤ settings.maxOptionLines)
    (hsettled : Settled (LaneContext settings bounded w) (records t) t.link) :
    wp (subscribePin demand reading legs victims missing)
      (fun _ u => Owned settings bounded u) E t := by
  unfold subscribePin
  rw [wp_bind, wp_get]
  refine wp_seq_onLink (qualifyAndSubscribe_spec (fun _ => h.missing_nodup) hsettled h.fresh)
    fun additions l hl => ?_
  obtain ⟨hl, hkeys⟩ := hl
  have hfresh : LaneContext settings bounded w → ∀ k ∈ additions, (records t).Without k :=
    fun hc k hk => h.fresh hc k (hkeys k hk)
  refine wp_seq_onLink (subscriptionBatchSucceeded_spec hl) fun succeeded l₂ hl₂ => ?_
  rw [wp_ite]
  constructor
  · intro _
    refine wp_seq_onLink (cancelBatch_spec hl₂ hfresh) fun _ l₃ hl₃ => ?_
    rw [wp_bind]
    exact conseq ((h.onLink l₃).restore hl₃.1) fun _ u hu => hu
  · intro _
    rw [wp_bind, wp_get, wp_ite]
    constructor
    · intro _
      refine wp_seq_onLink (cancelBatch_spec hl₂ hfresh) fun _ l₃ hl₃ => ?_
      rw [wp_bind]
      exact conseq ((h.onLink l₃).restore hl₃.1) fun _ u hu => hu
    · intro _
      rw [wp_bind, wp_modify]
      have hcommit := commitPin_records demand (h.onLink l₂) hkeys
      have hlink : Settled (LaneContext settings bounded w) (records t ⊔ holds additions)
          (deferRotation 0 (l₂.registerSubscriptionRows legs.existing .pinned)) :=
        (hl₂.registerSubscriptionRows legs.existing .pinned).deferRotation
      exact hlink.imp (commitPin_context (h.onLink l₂) hroom hkeys) fun _ => hcommit

/-- Victims are subscriptions of their lane, and none is a leg of the demand. -/
structure PinVictims.Of (victims : PinVictims) (demand : ExactLegQuoteDemand) (w : Collector) :
    Prop where
  rotation : ∀ k x, holds victims.rotation k x → holds (w.lanes .rotation) k x ∧ k ∉ demand.labels
  hot : ∀ k x, holds victims.hot k x → holds (w.lanes .hot) k x ∧ k ∉ demand.labels

theorem selectPairVictims_sub {needed : Nat} {excluded : List Label} {atm : Int}
    (h : holds (selectPairVictims subs needed excluded atm) label sub) :
    holds subs label sub ∧ label ∉ excluded := by
  obtain ⟨hsub, hchosen⟩ := Dict.lookup_restrict_some.mp h
  have heligible := (of_decide_eq_true hchosen).1
  exact ⟨hsub, of_decide_eq_true (mem_filter.mp heligible).2⟩

theorem chosen_sub {c : Prop} [Decidable c] {needed : Nat} {excluded : List Label} {atm : Int}
    (h : holds (if c then ∅ else selectPairVictims subs needed excluded atm) label sub) :
    holds subs label sub ∧ label ∉ excluded := by
  split at h
  · cases h
  · exact selectPairVictims_sub h

theorem choosePinVictims_of (settings : StreamSettings) (demand : ExactLegQuoteDemand)
    (missing : List Label) (w : Collector) :
    (choosePinVictims settings demand missing w).1.Of demand w :=
  ⟨fun _ _ => chosen_sub, fun _ _ => chosen_sub⟩

theorem demand_labels (h : (demand.specs.map optionSpecLabel).toFinset = demand.labels.toFinset) :
    demand.labels.Nodup ∧ ∀ label ∈ demand.labels, label.IsSpxw := by
  have hmem : ∀ label, label ∈ demand.specs.map optionSpecLabel ↔ label ∈ demand.labels := by
    intro label
    rw [← mem_toFinset, h, mem_toFinset]
  constructor
  · have hne : optionSpecLabel demand.longLeg.spec ≠ optionSpecLabel demand.shortLeg.spec := by
      intro heq
      exact demand.legs_distinct (congrArg OptionContractSpec.strike
        (optionSpecLabel_injective heq))
    refine nodup_cons.mpr ⟨fun hsame => ?_, nodup_singleton _⟩
    -- were the two labels one, both specs would have it
    have hone : ∀ label ∈ demand.labels, label = demand.shortLeg.label := by
      intro label hlabel
      rcases mem_cons.mp hlabel with rfl | hlabel
      · exact mem_singleton.mp hsame
      · exact mem_singleton.mp hlabel
    exact hne ((hone _ ((hmem _).mp (mem_cons_self ..))).trans (hone _ ((hmem _).mp
      (mem_cons_of_mem _ (mem_singleton.mpr rfl)))).symm)
  · intro label hlabel
    obtain ⟨spec, -, rfl⟩ := mem_map.mp ((hmem label).mpr hlabel)
    exact ⟨_, _, _, rfl⟩

theorem mem_reusedLegs : label ∈ (reusedLegs demand w).existing ↔
    label ∈ demand.labels ∧ (label ∈ w.lanes .hot ∨ label ∈ w.lanes .rotation) := by
  unfold ReusedLegs.existing reusedLegs
  rw [Dict.mem_update, Dict.mem_restrict_keys, Dict.mem_restrict_keys, decide_eq_true_iff,
    decide_eq_true_iff]
  tauto

theorem room_of_not_needed (h : ¬ pinReleaseNeeded settings w missing.length ≠ 0) :
    missing.length = 0 ∨ lineCount w optionLanes + missing.length ≤ settings.maxOptionLines := by
  have hzero := not_not.mp h
  unfold pinReleaseNeeded at hzero
  split at hzero
  · rename_i hnone
    exact .inl hnone
  · dsimp only at hzero
    omega

theorem preemptForPin_owned (hunpinned : ∀ label, label ∉ w.lanes .pinned)
    (hdefinitions : (demand.specs.map optionSpecLabel).toFinset = demand.labels.toFinset)
    (hvictims : victims.Of demand w) (h : Owned settings bounded w) :
    wp (preemptForPin settings demand reading (reusedLegs demand w) victims
        (demand.labels.filter (· ∉ (reusedLegs demand w).existing)))
      (fun _ u => Owned settings bounded u) E w := by
  obtain ⟨hnodup, hspxw⟩ := demand_labels hdefinitions
  unfold preemptForPin
  rw [wp_bind]
  refine conseq (preemptVictims_spec Within.refl nofun
    (fun k x hx => (hvictims.rotation k x hx).1) h) fun rotationFree t ht => ?_
  obtain ⟨hwithin, hsettled, -, -, hlanes⟩ := ht
  rw [wp_ite]
  refine ⟨fun hfailed => hwithin.owned hsettled, fun hfree => ?_⟩
  have hlanes := hlanes (Bool.eq_true_of_not_eq_false hfree)
  have hhot : t.lanes .hot = w.lanes .hot := by
    rw [hlanes]
    exact setLane_ne nofun
  have hrotation : t.lanes .rotation =
      (w.lanes .rotation).restrict fun k _ => k ∉ victims.rotation := by
    rw [hlanes, setLane_self]
  rw [wp_bind]
  refine conseq (preemptVictims_spec hwithin nofun (fun k x hx => ?_) hsettled)
    fun hotFree u hu => ?_
  · rw [hhot]
    exact (hvictims.hot k x hx).1
  obtain ⟨hwithin', hsettled', -, hother, hlanes'⟩ := hu
  have hrotation' : u.lanes .rotation =
      (w.lanes .rotation).restrict fun k _ => k ∉ victims.rotation :=
    (hother .rotation nofun).trans hrotation
  have hlentRotation : Lent w u .rotation victims.rotation := by
    intro k hk
    obtain ⟨x, hx⟩ := holds_of_mem hk
    refine ⟨mem_of_holds (hvictims.rotation k x hx).1, fun hin => ?_⟩
    rw [hrotation'] at hin
    exact of_decide_eq_true (Dict.mem_restrict_keys.mp hin).1 hk
  rw [wp_ite]
  constructor
  · intro _
    rw [wp_bind]
    refine conseq (restorePinVictims_owned (pairwise_singleton _ _)
      (fun r hr => ?_) hwithin' hsettled') fun _ v hv => hv
    rw [mem_singleton.mp hr]
    exact ⟨nofun, hlentRotation⟩
  · intro hfree'
    have hhot' : u.lanes .hot = (w.lanes .hot).restrict fun k _ => k ∉ victims.hot := by
      rw [hlanes' (Bool.eq_true_of_not_eq_false hfree'), setLane_self, hhot]
    have hready : PinReady settings (reusedLegs demand w) victims
        (demand.labels.filter (· ∉ (reusedLegs demand w).existing)) w u := by
      refine ⟨hwithin', hunpinned, hlentRotation, fun k hk => ?_, fun k x hx => ?_,
        fun k x hx => ?_, fun k hk hhot => ?_, hnodup.filter _, fun k hk => ?_, fun k hk => ?_⟩
      · obtain ⟨x, hx⟩ := holds_of_mem hk
        refine ⟨mem_of_holds (hvictims.hot k x hx).1, fun hin => ?_⟩
        rw [hhot'] at hin
        exact of_decide_eq_true (Dict.mem_restrict_keys.mp hin).1 hk
      · obtain ⟨hsub, hleg⟩ := Dict.lookup_restrict_some.mp hx
        rw [hhot']
        refine Dict.lookup_restrict_some.mpr ⟨hsub, decide_eq_true fun hvictim => ?_⟩
        obtain ⟨y, hy⟩ := holds_of_mem hvictim
        exact (hvictims.hot k y hy).2 (of_decide_eq_true hleg)
      · obtain ⟨hsub, hleg⟩ := Dict.lookup_restrict_some.mp hx
        rw [hrotation']
        refine Dict.lookup_restrict_some.mpr ⟨hsub, decide_eq_true fun hvictim => ?_⟩
        obtain ⟨y, hy⟩ := holds_of_mem hvictim
        exact (hvictims.rotation k y hy).2 (of_decide_eq_true hleg).1
      · have hcold := (of_decide_eq_true (Dict.mem_restrict_keys.mp hk).1).2
        exact hcold (Dict.mem_restrict_keys.mp hhot).2
      · exact hspxw k (mem_filter.mp hk).1
      · obtain ⟨hlabel, hnew⟩ := mem_filter.mp hk
        have hnot := of_decide_eq_true hnew
        exact ⟨fun hhot => hnot (mem_reusedLegs.mpr ⟨hlabel, .inl hhot⟩),
          fun hrotation => hnot (mem_reusedLegs.mpr ⟨hlabel, .inr hrotation⟩)⟩
    rw [wp_bind, wp_get, wp_ite]
    constructor
    · intro _
      rw [wp_bind]
      exact conseq (hready.restore hsettled') fun _ v hv => hv
    · intro hneeded
      exact subscribePin_owned hready (fun _ => room_of_not_needed hneeded) hsettled'

theorem admitExactLegPin_owned (hunpinned : ∀ label, label ∉ w.lanes .pinned)
    (h : Owned settings bounded w) :
    wp (admitExactLegPin settings demand reading) (fun _ u => Owned settings bounded u)
      E w := by
  unfold admitExactLegPin
  rw [wp_bind, wp_get, wp_ite, wp_ite]
  refine ⟨fun _ => h, fun _ => ⟨fun _ => h, fun hdefinitions => ?_⟩⟩
  have hdefinitions := not_not.mp hdefinitions
  split
  · exact h
  · let missing := demand.labels.filter (· ∉ (reusedLegs demand w).existing)
    refine wp_seq_onLink (Q := fun _ l => Settled (LaneContext settings bounded w) (records w) l) ?_
      fun resolved l hl => ?_
    · rw [wp_ite]
      refine ⟨fun _ => h, fun _ => ?_⟩
      exact conseq (resolveOptionDefinitions_spec h)
        fun _ l hl => hl.1
    have howned : Owned settings bounded { w with link := l } :=
      (Within.refl.onLink l).owned hl
    rw [wp_ite]
    refine ⟨fun _ => howned, fun _ => ?_⟩
    split
    · exact howned
    · rw [wp_bind, wp_get]
      have hvictims := choosePinVictims_of settings demand missing { w with link := l }
      dsimp only
      generalize choosePinVictims settings demand missing { w with link := l } = chosen at hvictims
      obtain ⟨victims, unmet⟩ := chosen
      dsimp only at hvictims ⊢
      rw [wp_ite]
      refine ⟨fun _ => howned, fun _ => ?_⟩
      exact preemptForPin_owned hunpinned hdefinitions hvictims howned

/-! ## Release -/

/-- What a release may leave in the option lanes fits the ceiling. -/
def releaseFits (settings : StreamSettings) (w : Collector) : Prop :=
  ((w.lanes .hot).keys ++ (w.lanes .rotation).keys ++
    ((w.lanes .pinned).keys ++ w.exactLegHotVictims.keys).filter
      (· ∈ w.desiredHotLabels)).dedup.length ≤ settings.maxOptionLines

instance : Decidable (releaseFits settings w) := inferInstanceAs (Decidable (_ ≤ _))

theorem released_context {hot' : Subscriptions}
    (hhot : ∀ k ∈ hot', k ∈ w.lanes .hot ∨ k ∈ w.desiredHotLabels ∧
      (k ∈ w.lanes .pinned ∨ k ∈ w.exactLegHotVictims))
    (hfits : bounded → releaseFits settings w) (hplan : t.optionPlan = w.optionPlan)
    (hchunks : t.slowChunks = w.slowChunks) (hscheduler : t.slowScheduler = w.slowScheduler)
    (hlanes : t.lanes = ((w.setLane .pinned ∅).setLane .hot hot').lanes)
    (hw : LaneContext settings bounded w) : LaneContext settings bounded t := by
  obtain ⟨hfacts, -⟩ := hw
  have hdesired : t.desiredHotLabels = w.desiredHotLabels := by
    unfold Collector.desiredHotLabels
    rw [hplan]
  have hpinned : ∀ k, k ∉ t.lanes .pinned := by
    intro k hk
    rw [hlanes] at hk
    exact (Dict.not_mem_empty : k ∉ (∅ : Subscriptions)) hk
  have hotLane : t.lanes .hot = hot' := by
    rw [hlanes, setLane_self]
  have hother : ∀ lane, lane ≠ .hot → lane ≠ .pinned → t.lanes lane = w.lanes lane := by
    intro lane hne hne'
    rw [hlanes, setLane_ne hne, setLane_ne hne']
  refine ⟨⟨fun {lane label} hlabel => ?_, ?_, ?_⟩, fun hb => ?_⟩
  · by_cases hlane : lane ∈ optionLanes
    · rcases mem_optionLanes.mp hlane with rfl | rfl | rfl
      · rw [hotLane] at hlabel
        refine homeLane_hot ?_ (hpinned label)
        rw [hdesired]
        rcases hhot label hlabel with hmem | ⟨hmem, -⟩
        · exact (hfacts.option hmem hlane).hot rfl
        · exact hmem
      · rw [hother .rotation nofun nofun] at hlabel
        have hhome := hfacts.option hlabel hlane
        refine homeLane_rotation hhome.spxw (hpinned label) ?_
        rw [hdesired]
        exact hhome.rotation rfl
      · exact absurd hlabel (hpinned label)
    · have hparts := fun heq => hlane (mem_optionLanes.mpr heq)
      rw [hother lane (fun heq => hparts (.inl heq)) fun heq => hparts (.inr (.inr heq))] at hlabel
      exact homeLane_fixed (hfacts.home hlabel) hlane
  · rw [hchunks]
    exact hfacts.chunks
  · rw [hscheduler, hother .slow nofun nofun]
    exact hfacts.idle
  · refine (lineCount_le ((w.lanes .hot).keys ++ (w.lanes .rotation).keys ++
      ((w.lanes .pinned).keys ++ w.exactLegHotVictims.keys).filter
        (· ∈ w.desiredHotLabels)).toFinset fun lane hlane label hlabel => ?_).trans
      ((card_toFinset _).trans_le (hfits hb))
    rw [mem_toFinset, mem_append, mem_append]
    rcases mem_optionLanes.mp hlane with rfl | rfl | rfl
    · rw [hotLane] at hlabel
      rcases hhot label hlabel with hmem | ⟨hmem, hfrom⟩
      · exact .inl (.inl hmem)
      · exact .inr (mem_filter.mpr ⟨mem_append.mpr hfrom, decide_eq_true hmem⟩)
    · rw [hother .rotation nofun nofun] at hlabel
      exact .inl (.inr hlabel)
    · exact absurd hlabel (hpinned label)

theorem released_lanes {hot hot' : Subscriptions} :
    (((w.setLane .hot hot).setLane .pinned ∅).setLane .hot hot').lanes =
      ((w.setLane .pinned ∅).setLane .hot hot').lanes := by
  funext other
  by_cases hhot : other = .hot
  · rw [hhot, setLane_self, setLane_self]
  · rw [setLane_ne hhot, setLane_ne hhot]
    by_cases hpinned : other = .pinned
    · rw [hpinned, setLane_self, setLane_self]
    · rw [setLane_ne hpinned, setLane_ne hpinned, setLane_ne hhot]

theorem released_records {hot' : Subscriptions}
    (hlanes : t.lanes = ((w.setLane .pinned ∅).setLane .hot hot').lanes) :
    records t label sub ↔ others w.lanes [.hot, .pinned] label sub ∨ holds hot' label sub := by
  unfold records
  rw [hlanes, others_setLane not_mem_nil, others_clearLane (by decide)]
  refine or_congr_left (exists_congr fun lane => and_congr_left fun _ => not_congr ?_)
  simp only [mem_cons, not_mem_nil, or_false]
  exact or_comm

theorem releaseExactLegPin_owned {reason : String} (hfits : bounded → releaseFits settings w)
    (h : Owned settings bounded w) :
    wp (releaseExactLegPin reason) (fun _ t => Owned settings bounded t ∧
      ∀ label, label ∉ t.lanes .pinned) E w := by
  let transferToHot := (w.lanes .pinned).restrict fun k _ => k ∈ w.desiredHotLabels
  let cancel := (w.lanes .pinned).restrict fun k _ => k ∉ w.desiredHotLabels
  have hparts : Settled (LaneContext settings bounded w)
      ((others w.lanes [.hot, .pinned] ⊔ (holds (w.lanes .hot) ⊔ holds transferToHot)) ⊔
        holds cancel) w.link := by
    refine h.imp id fun _ k x => ?_
    have hsplit := holds_split (w.lanes .pinned) (· ∉ w.desiredHotLabels) k x
    simp only [decide_not, Bool.not_not] at hsplit
    show others w.lanes [] k x ↔ (others w.lanes [.hot, .pinned] k x ∨
      holds (w.lanes .hot) k x ∨ holds transferToHot k x) ∨ holds cancel k x
    rw [others_split (show Lane.pinned ∉ [] from not_mem_nil),
      others_split (show Lane.hot ∉ [Lane.pinned] by decide), hsplit]
    simp only [cancel, decide_not]
    tauto
  have hdisjoint : LaneContext settings bounded w → ∀ k, k ∈ w.lanes .hot → k ∉ transferToHot := by
    intro hc k hhot hk
    have hpinned := (Dict.mem_restrict_keys.mp hk).2
    exact absurd ((hc.1.home hhot).symm.trans (hc.1.home hpinned)) nofun
  have hfresh : LaneContext settings bounded w → ∀ k ∈ cancel,
      (others w.lanes [.hot, .pinned] ⊔
        (holds (w.lanes .hot) ⊔ holds transferToHot)).Without k := by
    rintro hc k hk x (hx | hx | hx)
    · exact hc.1.without (Dict.mem_restrict_keys.mp hk).2 (by decide) x hx
    · have hpinned := (Dict.mem_restrict_keys.mp hk).2
      exact absurd ((hc.1.home (mem_of_holds hx)).symm.trans (hc.1.home hpinned)) nofun
    · exact of_decide_eq_true (Dict.mem_restrict_keys.mp hk).1
        (of_decide_eq_true (Dict.mem_restrict_keys.mp (mem_of_holds hx)).1)
  unfold releaseExactLegPin
  rw [wp_bind, wp_get, wp_bind]
  refine wp_onLink_modify ?_
  rw [wp_bind, wp_modify]
  refine wp_seq_onLink (cancelAny_spec (hparts.registerSubscriptionRows _ .hot) hfresh)
    fun releaseOk l hl => ?_
  obtain ⟨hl, -⟩ := hl
  rw [wp_bind, wp_modify]
  let hot := Dict.update (w.lanes .hot) transferToHot
  let released := w.exactLegHotVictims.restrict fun k _ => k ∈ w.desiredHotLabels ∧ k ∉ hot
  have hheld : Settled (LaneContext settings bounded w)
      (others w.lanes [.hot, .pinned] ⊔ holds hot) l :=
    hl.imp id fun hc k x => or_congr_right (holds_update (hdisjoint hc)).symm
  have hreleased : ∀ k ∈ released, (k ∈ w.desiredHotLabels ∧ k ∉ hot) ∧
      k ∈ w.exactLegHotVictims := fun k hk =>
    ⟨of_decide_eq_true (Dict.mem_restrict_keys.mp hk).1, (Dict.mem_restrict_keys.mp hk).2⟩
  -- a wanted label is at home among the pins or in the hot lane
  have hfreshReleased : LaneContext settings bounded w → ∀ k ∈ released,
      (others w.lanes [.hot, .pinned] ⊔ holds hot).Without k := by
    rintro hc k hk x (hx | hx)
    · obtain ⟨⟨hwanted, -⟩, -⟩ := hreleased k hk
      refine hc.1.without_home ?_ x hx
      rw [homeLane_spxw (isSpxw_of_desiredHot hwanted)]
      unfold optionLane
      rw [if_pos hwanted]
      split <;> decide
    · exact (hreleased k hk).1.2 (mem_of_holds hx)
  refine wp_seq_onLink (restoreAny_spec hheld hfreshReleased) fun restored l₂ hl₂ => ?_
  obtain ⟨hl₂, hkeys⟩ := hl₂
  rw [wp_bind, wp_modify, wp_bind]
  refine wp_onLink_modify ?_
  rw [wp_bind, wp_modify, wp_bind]
  refine wp_onLink_modify ?_
  have hnew : ∀ k, k ∈ hot → k ∉ restored := fun k hk hrestored =>
    (hreleased k (hkeys k hrestored)).1.2 hk
  have hend : Settled (LaneContext settings bounded w)
      (others w.lanes [.hot, .pinned] ⊔ (holds (Dict.update hot restored)))
      (deferRotation 0 (Link.failHealthIf (restored.size ≠ released.size) l₂)) := by
    have hmerged : Settled (LaneContext settings bounded w)
        (others w.lanes [.hot, .pinned] ⊔ (holds (Dict.update hot restored))) l₂ :=
      hl₂.imp id fun _ k x => or_assoc.trans (or_congr_right (holds_update hnew).symm)
    refine Settled.deferRotation ?_
    unfold Link.failHealthIf
    split
    · exact hmerged.failHealth.1
    · exact hmerged
  have hwanted : ∀ k ∈ Dict.update hot restored, k ∈ w.lanes .hot ∨ k ∈ w.desiredHotLabels ∧
      (k ∈ w.lanes .pinned ∨ k ∈ w.exactLegHotVictims) := by
    intro k hk
    rcases Dict.mem_update.mp hk with hin | hrestored
    · rcases Dict.mem_update.mp hin with hhot | htransfer
      · exact .inl hhot
      · obtain ⟨hyes, hpinned⟩ := Dict.mem_restrict_keys.mp htransfer
        exact .inr ⟨of_decide_eq_true hyes, .inl hpinned⟩
    · obtain ⟨⟨hyes, -⟩, hvictim⟩ := hreleased k (hkeys k hrestored)
      exact .inr ⟨hyes, .inr hvictim⟩
  exact ⟨hend.imp (released_context hwanted hfits rfl rfl rfl released_lanes)
    fun _ k x => (released_records released_lanes).symm, fun k => Dict.not_mem_empty⟩

/-! ## One observation of the demand file -/

/-- Where a demand releases pins, what the release may leave fits the ceiling. -/
def demandFits (settings : StreamSettings) (reading : DemandReading) (w : Collector) : Prop :=
  (demandAction settings reading w).releases → releaseFits settings w

theorem demandAction_admits (h : demandAction settings reading w = .admitDemand demand) :
    (w.lanes .pinned).size = 0 := by
  unfold demandAction at h
  dsimp only at h
  split at h
  · split at h <;> cases h
  · split at h
    · split at h
      · cases h
      · split at h
        · cases h
        · split at h <;> cases h
    · split at h
      · cases h
      · cases h
      · split at h <;> cases h
      · split at h
        · cases h
        · split at h
          · cases h
          · split at h
            · assumption
            · cases h

theorem reconcileExactLegDemand_owned (hfits : bounded → demandFits settings reading w)
    (h : Owned settings bounded w) : wp (reconcileExactLegDemand settings reading)
      (fun _ t => Owned settings bounded t) E w := by
  have hnoted : Owned settings bounded (noteRevision settings reading w) ∧
      (noteRevision settings reading w).lanes = w.lanes ∧
      (noteRevision settings reading w).link = w.link ∧
      (releaseFits settings w → releaseFits settings (noteRevision settings reading w)) := by
    unfold noteRevision
    split
    · exact ⟨h.of_same rfl rfl rfl rfl rfl, rfl, rfl, id⟩
    · exact ⟨h, rfl, rfl, id⟩
  obtain ⟨howned, hlanes, hlink, hrelease⟩ := hnoted
  unfold reconcileExactLegDemand
  rw [wp_bind, wp_get, wp_bind, wp_modify]
  have hfits : bounded → (demandAction settings reading w).releases →
      releaseFits settings (noteRevision settings reading w) := fun hb hr =>
    hrelease (hfits hb hr)
  cases haction : demandAction settings reading w with
  | nothing => exact howned
  | acknowledge ack => exact howned
  | release reason =>
    rw [haction] at hfits
    rw [wp_bind]
    exact conseq (releaseExactLegPin_owned (fun hb => hfits hb rfl) howned)
      fun _ t ht => ht.1
  | refresh demand =>
    rw [wp_ite]
    constructor
    · intro _
      rw [wp_bind]
      refine wp_onLink_modify ?_
      exact (Settled.failHealth howned).1
    · intro _
      rw [wp_bind, wp_modify]
      exact howned.of_same rfl rfl rfl rfl rfl
  | supersede demand =>
    rw [haction] at hfits
    rw [wp_bind]
    refine conseq (releaseExactLegPin_owned (fun hb => hfits hb rfl) howned)
      fun _ t ht => ?_
    rw [wp_bind, wp_get, wp_ite]
    refine ⟨fun _ => ht.1, fun _ => ?_⟩
    rw [wp_bind]
    exact conseq (admitExactLegPin_owned ht.2 ht.1) fun _ u hu => hu
  | admitDemand demand =>
    have hunpinned : ∀ label, label ∉ (noteRevision settings reading w).lanes .pinned := by
      rw [hlanes]
      exact fun label hlabel => by
        obtain ⟨sub, hsub⟩ := holds_of_mem hlabel
        exact holds_none (demandAction_admits haction) hsub
    rw [wp_bind]
    exact conseq (admitExactLegPin_owned hunpinned howned) fun _ u hu => hu

end SpxSpark.Ibkr
