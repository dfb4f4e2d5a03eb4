import SpxSpark.Ibkr.LaneOwnership

/-!
# LaneOperations — plan refresh, rotation, SPY and slow lane keep the ownership

One lemma for each operation: from an owned state it ends in an owned state, on every path.
-/

namespace SpxSpark.Ibkr

open Lib List
open Effect (wp wp_bind wp_get wp_ite wp_modify)

variable {settings : StreamSettings} {bounded ctx : Prop} {held : Held} {w t : Collector}
  {lane : Lane} {label : Label} {sub : Subscription} {except : List Lane} {subs : Subscriptions}
  {plan : OptionSubscriptionPlan} {link : Link} {E : Empty → Collector → Prop}

/-! ## One lane at a time -/

theorem wp_seq_onLink {α β : Type} {m : LinkOp α} {f : α → CollectorOp β}
    {Q : α → Link → Prop} {R : β → Collector → Prop}
    (h : wp m Q (fun error _ => error.elim) w.link)
    (hf : ∀ a link, Q a link → wp (f a) R E { w with link := link }) :
    wp (onLink m >>= f) R E w := by
  rw [wp_bind]
  exact wp_onLink (conseq h hf)

theorem others_clearLane (hlane : lane ∉ except) :
    others (w.setLane lane ∅).lanes except label sub ↔
      others w.lanes (lane :: except) label sub := by
  rw [others_setLane hlane]
  exact ⟨fun h => h.elim id nofun, .inl⟩

theorem cancelLane_spec {E : Empty → Link → Prop}
    (h : Settled ctx (others w.lanes except) w.link) (hctx : ctx → LaneFacts settings w)
    (hlane : lane ∉ except) :
    wp (cancelBatch (w.lanes lane)) (fun ok link =>
      Settled ctx (others w.lanes (lane :: except)) link ∧ (ok = false → Flagged link))
      E w.link := by
  have hsplit : Settled ctx (others w.lanes (lane :: except) ⊔ holds (w.lanes lane)) w.link :=
    h.imp id fun _ _ _ => others_split hlane
  exact cancelBatch_spec hsplit fun hc label hlabel =>
    (hctx hc).without hlabel (mem_cons_self ..)

/-! ## The hot lane -/

/-- The plan's hot labels and the pins fit the ceiling together. -/
def refreshFits (settings : StreamSettings) (plan : OptionSubscriptionPlan) (w : Collector) :
    Prop :=
  (desiredLabels plan ++ (w.lanes .pinned).keys).dedup.length ≤ settings.maxOptionLines

instance : Decidable (refreshFits settings plan w) := inferInstanceAs (Decidable (_ ≤ _))

/-- After a refresh that failed the lanes only lost labels; after one that did not, the hot lane is
what the new plan wants and is not pinned. -/
theorem refreshed_context {outcome : ReplaceOutcome} {added : List Label}
    (hadded : ∀ label ∈ added, label ∈ desiredLabels plan ∧ label ∉ w.lanes .pinned)
    (hsubs : Replacement (w.lanes .hot) (desiredLabels plan) added (outcome, subs))
    (hdone : outcome = .replaced)
    (hfits : bounded → refreshFits settings plan w) (hw : LaneContext settings bounded w)
    (hplan : t.optionPlan = some plan) (hchunks : t.slowChunks = w.slowChunks)
    (hscheduler : t.slowScheduler = w.slowScheduler)
    (hlanes : t.lanes = ((w.setLane .rotation ∅).setLane .hot subs).lanes) :
    LaneContext settings bounded t := by
  obtain ⟨hfacts, hbound⟩ := hw
  have hdesired : t.desiredHotLabels = desiredLabels plan := by
    unfold Collector.desiredHotLabels
    rw [hplan]
    rfl
  have hhot : t.lanes .hot = subs := by rw [hlanes]; rfl
  have hrotation : t.lanes .rotation = ∅ := by rw [hlanes]; rfl
  have hother : ∀ lane, lane ≠ .hot → lane ≠ .rotation → t.lanes lane = w.lanes lane := by
    intro lane hne hne'
    rw [hlanes, setLane_ne hne, setLane_ne hne']
  have hpinned : t.lanes .pinned = w.lanes .pinned := hother .pinned nofun nofun
  have hcold : ∀ label ∈ subs, label ∉ t.lanes .pinned := by
    intro label hlabel hmem
    rw [hpinned] at hmem
    rcases hsubs.known label hlabel with hcurrent | hnew
    · exact absurd ((hfacts.option hcurrent (by decide)).pinned.mp hmem) nofun
    · exact (hadded label hnew).2 hmem
  refine ⟨⟨?_, ?_, ?_⟩, fun hb => ?_⟩
  · intro lane label hlabel
    by_cases hlaneHot : lane = .hot
    · subst hlaneHot
      rw [hhot] at hlabel
      refine homeLane_hot ?_ (hcold label hlabel)
      rw [hdesired]
      exact hsubs.replaced hdone label hlabel
    · by_cases hlaneRotation : lane = .rotation
      · subst hlaneRotation
        rw [hrotation] at hlabel
        exact absurd hlabel (Dict.not_mem_empty)
      · rw [hother lane hlaneHot hlaneRotation] at hlabel
        have hhome := hfacts.home hlabel
        by_cases hlanePinned : lane = .pinned
        · subst hlanePinned
          refine homeLane_pinned (optionHome hhome (by decide)).spxw ?_
          rw [hpinned]
          exact hlabel
        · refine homeLane_fixed hhome fun hmem => ?_
          rcases mem_optionLanes.mp hmem with heq | heq | heq
          · exact hlaneHot heq
          · exact hlaneRotation heq
          · exact hlanePinned heq
  · rw [hchunks]
    exact hfacts.chunks
  · rw [hscheduler, hother .slow nofun nofun]
    exact hfacts.idle
  · refine (lineCount_le (desiredLabels plan ++ (w.lanes .pinned).keys).toFinset
      fun lane hlane label hlabel => ?_).trans ((card_toFinset _).trans_le (hfits hb))
    rw [mem_toFinset, mem_append]
    rcases mem_optionLanes.mp hlane with rfl | rfl | rfl
    · rw [hhot] at hlabel
      exact .inl (hsubs.replaced hdone label hlabel)
    · rw [hrotation] at hlabel
      exact absurd hlabel (Dict.not_mem_empty)
    · rw [hpinned] at hlabel
      exact .inr hlabel

theorem reconcileOptionPlan_owned (hfits : bounded → refreshFits settings plan w)
    (h : Owned settings bounded w) :
    wp (reconcileOptionPlan settings plan) (fun _ t => Owned settings bounded t) E w := by
  unfold reconcileOptionPlan
  rw [wp_bind, wp_get]
  refine wp_seq_onLink (cancelLane_spec h And.left not_mem_nil) fun cancelled l hl => ?_
  obtain ⟨hl, hflag⟩ := hl
  rw [wp_ite]
  refine ⟨fun hfailed => Owned.of_flagged hl.book (hflag hfailed), fun _ => ?_⟩
  rw [wp_bind, wp_modify]
  let added := sortedLabels byText ((desiredLabels plan).filter fun label =>
    label ∉ w.lanes .hot ∧ label ∉ w.lanes .pinned)
  have hadded : ∀ label ∈ added, label ∈ desiredLabels plan ∧
      label ∉ w.lanes .hot ∧ label ∉ w.lanes .pinned := by
    intro label hlabel
    obtain ⟨hmem, hnew⟩ := mem_filter.mp (sortedLabels_perm.mem_iff.mp hlabel)
    exact ⟨hmem, of_decide_eq_true hnew⟩
  have hnodup : added.Nodup :=
    sortedLabels_perm.nodup_iff.mpr ((nodup_dedup _).filter _)
  have hsplit : Settled (LaneContext settings bounded w)
      (others w.lanes [.hot, .rotation] ⊔ holds (w.lanes .hot)) l :=
    hl.imp id fun _ _ _ => others_split (by decide)
  -- a label that is wanted and not pinned is at home in the hot lane or in rotation
  have hfresh : LaneContext settings bounded w → ∀ label ∈ added,
      (others w.lanes [.hot, .rotation]).Without label := by
    intro hc label hlabel
    obtain ⟨hmem, -, hpinned⟩ := hadded label hlabel
    refine hc.1.without_home ?_
    rw [homeLane_spxw (isSpxw_of_desired hmem)]
    unfold optionLane
    rw [if_neg hpinned]
    split <;> decide
  refine wp_seq_onLink (replaceLines_spec hnodup (fun k hk => (hadded k hk).1)
    (fun k hk => (hadded k hk).2.1) hsplit
    (fun hc k hk => hc.1.without hk (by decide)) hfresh) fun result l' hl' => ?_
  obtain ⟨outcome, subs⟩ := result
  obtain ⟨hl', hsubs⟩ := hl'
  have hheld : ∀ k x, (others w.lanes [.hot, .rotation] ⊔ holds subs) k x ↔
      others ((w.setLane .rotation ∅).setLane .hot subs).lanes [] k x := by
    intro k x
    rw [others_setLane not_mem_nil, others_clearLane (by decide)]
    refine or_congr_left (exists_congr fun lane => and_congr_left fun _ => not_congr ?_)
    simp only [mem_cons, not_mem_nil, or_false]
    exact or_comm
  rw [wp_bind, wp_modify, wp_ite]
  constructor
  · intro hdone
    exact hl'.imp (fun hc => refreshed_context (fun k hk => ⟨(hadded k hk).1, (hadded k hk).2.2⟩)
      hsubs hdone hfits hc rfl rfl rfl rfl) fun _ => hheld
  · intro hfailed
    have hwithin : Within w ((w.setLane .rotation ∅).setLane .hot subs) := by
      refine (Within.refl.setLane .rotation nofun ?_).setLane .hot nofun (hsubs.kept hfailed)
      exact fun k hk => absurd hk Dict.not_mem_empty
    exact (hwithin.onLink l').owned (hl'.imp id fun _ => hheld)

/-! ## Lanes other than the hot one -/

theorem LaneContext.of_lanes (hw : LaneContext settings bounded w)
    (hplan : t.optionPlan = w.optionPlan) (hpinned : t.lanes .pinned = w.lanes .pinned)
    (hchunks : t.slowChunks = w.slowChunks)
    (hhome : ∀ lane, ∀ label ∈ t.lanes lane,
      label ∈ w.lanes lane ∨ homeLane settings w label = lane)
    (hidle : (∀ scheduler, t.slowScheduler = some scheduler →
      scheduler.activeChunkIndex = none) → ∀ label, label ∉ t.lanes .slow)
    (hcount : bounded → lineCount t optionLanes ≤ settings.maxOptionLines) :
    LaneContext settings bounded t := by
  refine ⟨⟨fun {lane label} hlabel => ?_, ?_, hidle⟩, hcount⟩
  · rw [homeLane_congr hplan hpinned]
    exact (hhome lane label hlabel).elim hw.1.home id
  · rw [hchunks]
    exact hw.1.chunks

theorem LaneContext.of_setLane (hw : LaneContext settings bounded w)
    (hplan : t.optionPlan = w.optionPlan) (hchunks : t.slowChunks = w.slowChunks)
    (hlanes : t.lanes = (w.setLane lane subs).lanes) (hlane : lane ∉ optionLanes)
    (hhome : ∀ label ∈ subs, label ∈ w.lanes lane ∨ homeLane settings w label = lane)
    (hidle : (∀ scheduler, t.slowScheduler = some scheduler →
      scheduler.activeChunkIndex = none) → ∀ label, label ∉ t.lanes .slow) :
    LaneContext settings bounded t := by
  have hother : ∀ other, other ≠ lane → t.lanes other = w.lanes other := by
    intro other hne
    rw [hlanes, setLane_ne hne]
  have hself : t.lanes lane = subs := by
    rw [hlanes, setLane_self]
  have hoption : ∀ other ∈ optionLanes, t.lanes other = w.lanes other := fun other hmem =>
    hother other fun heq => hlane (heq ▸ hmem)
  refine hw.of_lanes hplan (hoption .pinned (by decide)) hchunks (fun other label hlabel => ?_)
    hidle fun hb => (lineCount_mono fun other hmem label hlabel => ?_).trans (hw.2 hb)
  · by_cases heq : other = lane
    · subst heq
      rw [hself] at hlabel
      exact hhome label hlabel
    · rw [hother other heq] at hlabel
      exact .inl hlabel
  · rw [hoption other hmem] at hlabel
    exact ⟨other, hmem, hlabel⟩

/-! ## The rotation lane -/

theorem slice_of_getD {i : Nat} {P : List OptionContractSpec → Prop}
    (h : ∀ slice ∈ plan.rotations, P slice) (hnil : P []) : P (plan.rotations.getD i []) := by
  unfold List.getD
  cases hslice : plan.rotations[i]? with
  | none => exact hnil
  | some slice => exact h slice (mem_of_getElem? hslice)

theorem eligibleSpecs_sublist {slice : List OptionContractSpec} :
    (eligibleSpecs settings w slice).Sublist slice :=
  (take_sublist _ _).trans filter_sublist

theorem eligibleSpecs_unpinned {slice : List OptionContractSpec} {spec : OptionContractSpec}
    (h : spec ∈ eligibleSpecs settings w slice) : optionSpecLabel spec ∉ w.lanes .pinned :=
  of_decide_eq_true (mem_filter.mp ((take_sublist _ _).subset h)).2

theorem eligible_home {i : Nat} (hplan : w.optionPlan = some plan)
    (h : label ∈ (eligibleSpecs settings w (plan.rotations.getD i [])).map optionSpecLabel) :
    homeLane settings w label = .rotation := by
  obtain ⟨spec, hspec, rfl⟩ := mem_map.mp h
  refine homeLane_rotation ⟨_, _, _, rfl⟩ (eligibleSpecs_unpinned hspec) fun hhot => ?_
  unfold Collector.desiredHotLabels at hhot
  rw [hplan] at hhot
  obtain ⟨other, hother, heq⟩ := mem_map.mp (mem_dedup.mp hhot)
  rw [optionSpecLabel_injective heq] at hother
  have hcold : ∀ spec ∈ plan.rotations.getD i [], spec ∉ plan.hot :=
    slice_of_getD plan.slice_cold nofun
  exact hcold spec (eligibleSpecs_sublist.subset hspec) hother

theorem size_hot_add_pinned (h : LaneFacts settings w) :
    (w.lanes .hot).size + (w.lanes .pinned).size ≤ lineCount w optionLanes := by
  rw [lineCount_eq, ← Dict.card_keySet, ← Dict.card_keySet, ← Finset.card_union_of_disjoint]
  · refine Finset.card_le_card fun label hlabel => mem_laneLabels.mpr ?_
    rcases Finset.mem_union.mp hlabel with hhot | hpinned
    · exact ⟨.hot, by decide, Dict.mem_keySet.mp hhot⟩
    · exact ⟨.pinned, by decide, Dict.mem_keySet.mp hpinned⟩
  · refine Finset.disjoint_left.mpr fun label hhot hpinned => ?_
    have hhome := (h.home (Dict.mem_keySet.mp hhot)).symm.trans
      (h.home (Dict.mem_keySet.mp hpinned))
    exact absurd hhome nofun

theorem rotated_count {count : Nat} (hfacts : LaneFacts settings w)
    (hbound : lineCount w optionLanes ≤ settings.maxOptionLines)
    (hlanes : t.lanes = (w.setLane .rotation subs).lanes) (hsize : subs.size ≤ count)
    (hcount : count ≤ settings.maxOptionLines - (w.lanes .hot).size - (w.lanes .pinned).size) :
    lineCount t optionLanes ≤ settings.maxOptionLines := by
  have hfit := (size_hot_add_pinned hfacts).trans hbound
  refine (lineCount_le ((w.lanes .hot).keySet ∪ subs.keySet ∪ (w.lanes .pinned).keySet)
    fun lane hlane label hlabel => ?_).trans ?_
  · rw [hlanes] at hlabel
    rw [Finset.mem_union, Finset.mem_union, Dict.mem_keySet, Dict.mem_keySet, Dict.mem_keySet]
    rcases mem_optionLanes.mp hlane with rfl | rfl | rfl
    · exact .inl (.inl hlabel)
    · exact .inl (.inr hlabel)
    · exact .inr hlabel
  · refine (Finset.card_union_le _ _).trans ((Nat.add_le_add_right (Finset.card_union_le _ _)
      _).trans ?_)
    rw [Dict.card_keySet, Dict.card_keySet, Dict.card_keySet]
    omega

theorem rotated_context {count : Nat} (hw : LaneContext settings bounded w)
    (hplan : t.optionPlan = w.optionPlan) (hchunks : t.slowChunks = w.slowChunks)
    (hscheduler : t.slowScheduler = w.slowScheduler)
    (hlanes : t.lanes = (w.setLane .rotation subs).lanes)
    (hhome : ∀ label ∈ subs, homeLane settings w label = .rotation) (hsize : subs.size ≤ count)
    (hcount : count ≤ settings.maxOptionLines - (w.lanes .hot).size - (w.lanes .pinned).size) :
    LaneContext settings bounded t := by
  have hother : ∀ lane, lane ≠ .rotation → t.lanes lane = w.lanes lane := by
    intro lane hne
    rw [hlanes, setLane_ne hne]
  refine hw.of_lanes hplan (hother .pinned nofun) hchunks (fun lane label hlabel => ?_) ?_
    fun hb => rotated_count hw.1 (hw.2 hb) hlanes hsize hcount
  · by_cases heq : lane = .rotation
    · subst heq
      rw [hlanes, setLane_self] at hlabel
      exact .inr (hhome label hlabel)
    · rw [hother lane heq] at hlabel
      exact .inl hlabel
  · rw [hscheduler, hother .slow nofun]
    exact hw.1.idle

theorem Settled.deferRotation {retryAt : ℚ} (h : Settled ctx held link) :
    Settled ctx held (deferRotation retryAt link) :=
  h.of_eq rfl rfl rfl rfl le_rfl h.book.tracked id

theorem wp_onLink_modify {f : Link → Link} {Q : PUnit → Collector → Prop}
    (h : Q ⟨⟩ { w with link := f w.link }) : wp (onLink (modify f)) Q E w := h

theorem rotateOptions_owned {now : ℚ} (h : Owned settings bounded w) :
    wp (rotateOptions settings now) (fun _ t => Owned settings bounded t) E w := by
  unfold rotateOptions
  rw [wp_bind, wp_get]
  split
  · exact h
  · rename_i plan hplan
    have hempty : Within w (w.setLane .rotation ∅) :=
      Within.refl.setLane .rotation nofun fun k hk => absurd hk Dict.not_mem_empty
    -- with the rotation lane cancelled and cleared the state is owned
    have hcleared : ∀ {l}, Settled (LaneContext settings bounded w) (others w.lanes [.rotation]) l →
        Settled (LaneContext settings bounded w) (records (w.setLane .rotation ∅)) l :=
      fun hl => hl.imp id fun _ _ _ => (others_clearLane not_mem_nil).symm
    have hcancel := cancelLane_spec (E := fun error _ => error.elim) h And.left
      (show Lane.rotation ∉ [] from not_mem_nil)
    rw [wp_ite, wp_ite]
    refine ⟨fun _ => h, fun _ => ⟨fun _ => ?_, fun _ => ?_⟩⟩
    · refine wp_seq_onLink hcancel fun _ l hl => ?_
      rw [wp_bind, wp_modify]
      refine wp_onLink_modify ?_
      have hwithin : Within w { w.setLane .rotation ∅ with
          rotationIndex := w.rotationIndex - 1
          link := deferRotation (now + Link.optionRotationRetrySeconds) l } :=
        ⟨hempty.plan, hempty.chunks, hempty.scheduler, hempty.pinned, hempty.lanes⟩
      exact hwithin.owned (hcleared hl.1).deferRotation
    · refine wp_seq_onLink hcancel fun cancelled l hl => ?_
      obtain ⟨hl, hflag⟩ := hl
      rw [wp_ite]
      refine ⟨fun hfailed => Owned.of_flagged hl.book (hflag hfailed), fun _ => ?_⟩
      rw [wp_bind, wp_modify]
      rw [wp_bind, wp_get]
      let eligible := eligibleSpecs settings w
        (plan.rotations.getD (w.rotationIndex % plan.rotationCount) [])
      have hslice : (plan.rotations.getD (w.rotationIndex % plan.rotationCount) []).Nodup :=
        slice_of_getD plan.slice_nodup nodup_nil
      have hnodup : (eligible.map optionSpecLabel).Nodup :=
        (eligibleSpecs_sublist.nodup hslice).map optionSpecLabel_injective
      refine wp_seq_onLink (resolveOptionDefinitions_spec hl) fun definitions l₂ hl₂ => ?_
      obtain ⟨hl₂, hsub⟩ := hl₂
      have hhome : ∀ k ∈ definitions, homeLane settings w k = .rotation := fun k hk =>
        eligible_home hplan (hsub.subset hk)
      have hfresh : LaneContext settings bounded w → ∀ k ∈ definitions,
          (others w.lanes [.rotation]).Without k := fun hc k hk =>
        hc.1.without_home (by rw [hhome k hk]; decide)
      refine wp_seq_onLink (qualifyAndSubscribeForLane_spec (fun _ => hsub.nodup hnodup) hl₂
        hfresh)
        fun replacement l₃ hl₃ => ?_
      obtain ⟨hl₃, hkeys⟩ := hl₃
      refine wp_seq_onLink (subscriptionBatchSucceeded_spec hl₃) fun ok l₄ hl₄ => ?_
      rw [wp_ite]
      constructor
      · intro _
        refine wp_seq_onLink (cancelBatch_spec hl₄ fun hc k hk => hfresh hc k (hkeys k hk))
          fun _ l₅ hl₅ => wp_onLink_modify ?_
        exact (hempty.onLink _).owned (hcleared hl₅.1).deferRotation
      · intro _
        rw [wp_bind, wp_modify]
        refine wp_onLink_modify ?_
        have hsize : replacement.size ≤ eligible.length := by
          have := Dict.size_le fun k hk => hsub.subset (hkeys k hk)
          rwa [length_map] at this
        refine (Settled.deferRotation hl₄).imp (fun hc => ?_) fun _ k x => ?_
        · exact rotated_context hc rfl rfl rfl setLane_setLane
            (fun k hk => hhome k (hkeys k hk)) hsize (length_take_le _ _)
        · exact (records_setLane setLane_setLane).symm

/-! ## The SPY lane -/

theorem mem_spyOptionContracts {expiry : String} {strikes : List Int}
    (h : label ∈ spyOptionContracts expiry strikes) : homeLane settings w label = .spy := by
  obtain ⟨strike, -, hmem⟩ := mem_flatMap.mp h
  rcases mem_cons.mp hmem with rfl | hmem
  · rfl
  · rw [mem_singleton.mp hmem]
    rfl

theorem ensureSpyOptionPlan_owned {reading : SpyReading} (h : Owned settings bounded w) :
    wp (ensureSpyOptionPlan settings reading) (fun _ t => Owned settings bounded t) E w := by
  -- the lane with labels of its own, and what else changes is no lane
  have howned : ∀ {t : Collector} {subs : Subscriptions},
      Settled (LaneContext settings bounded w) (others w.lanes [.spy] ⊔ holds subs) t.link →
      t.lanes = (w.setLane .spy subs).lanes → t.optionPlan = w.optionPlan →
      t.slowChunks = w.slowChunks → t.slowScheduler = w.slowScheduler →
      (∀ k ∈ subs, k ∈ w.lanes .spy ∨ homeLane settings w k = .spy) →
      Owned settings bounded t := by
    intro t subs ht hlanes hplan hchunks hscheduler hhome
    refine ht.imp (fun hc => hc.of_setLane hplan hchunks hlanes (by decide) hhome ?_)
      fun _ _ _ => (records_setLane hlanes).symm
    have hslow : (w.setLane .spy subs).lanes .slow = w.lanes .slow := setLane_ne nofun
    rw [hscheduler, hlanes, hslow]
    exact hc.1.idle
  have hsplit : Settled (LaneContext settings bounded w)
      (others w.lanes [.spy] ⊔ holds (w.lanes .spy)) w.link :=
    h.imp id fun _ _ _ => others_split not_mem_nil
  unfold ensureSpyOptionPlan
  rw [wp_bind, wp_get, wp_ite, wp_ite, wp_ite]
  refine ⟨fun _ => h, fun _ => ⟨fun _ => ?_, fun _ => ⟨fun _ => h, fun _ => ?_⟩⟩⟩
  · let unhealthy := (w.lanes .spy).restrict fun _ sub => !w.link.healthyRow sub
    let kept := (w.lanes .spy).restrict fun label _ => label ∉ unhealthy
    have hpart : ∀ k x, holds unhealthy k x → holds (w.lanes .spy) k x := fun k x hx =>
      (Dict.lookup_restrict_some.mp hx).1
    have hparts : Settled (LaneContext settings bounded w)
        ((others w.lanes [.spy] ⊔ holds kept) ⊔ holds unhealthy) w.link :=
      hsplit.imp id fun _ k x => (or_congr_right (holds_without hpart)).trans or_assoc.symm
    have hfresh : LaneContext settings bounded w → ∀ k ∈ unhealthy,
        (others w.lanes [.spy] ⊔ holds kept).Without k := by
      rintro hc k hk x (hx | hx)
      · obtain ⟨y, hy⟩ := holds_of_mem hk
        exact hc.1.without (mem_of_holds (hpart k y hy)) (by decide) x hx
      · exact not_holds_without hk hx
    refine wp_seq_onLink (cancelBatch_spec hparts hfresh) fun _ l hl => ?_
    rw [wp_modify]
    exact howned hl.1 rfl rfl rfl rfl fun k hk =>
      .inl (Dict.mem_restrict_keys.mp hk).2
  · split
    · exact h
    · rename_i price hprice
      rw [wp_ite]
      refine ⟨fun _ => h, fun _ => ?_⟩
      let desired := (spyOptionContracts reading.expiry (buildSpyOptionStrikes price
        settings.spyOptionLines (max settings.spyStrikeStep 1))).dedup
      let added := sortedLabels byText (desired.filter fun label => label ∉ w.lanes .spy)
      have hdesired : ∀ k ∈ desired, homeLane settings w k = .spy := fun k hk =>
        mem_spyOptionContracts (mem_dedup.mp hk)
      have hadded : ∀ k ∈ added, k ∈ desired ∧ k ∉ w.lanes .spy := by
        intro k hk
        obtain ⟨hmem, hnew⟩ := mem_filter.mp (sortedLabels_perm.mem_iff.mp hk)
        exact ⟨hmem, of_decide_eq_true hnew⟩
      have hnodup : added.Nodup :=
        sortedLabels_perm.nodup_iff.mpr ((nodup_dedup _).filter _)
      have hfresh : LaneContext settings bounded w → ∀ k ∈ added,
          (others w.lanes [.spy]).Without k := fun hc k hk =>
        hc.1.without_home (by rw [hdesired k (hadded k hk).1]; decide)
      refine wp_seq_onLink (replaceLines_spec hnodup (fun k hk => (hadded k hk).1)
        (fun k hk => (hadded k hk).2) hsplit (fun hc k hk => hc.1.without hk (by decide)) hfresh)
        fun result l hl => ?_
      obtain ⟨outcome, subs⟩ := result
      obtain ⟨hl, hsubs⟩ := hl
      have hhome : ∀ k ∈ subs, k ∈ w.lanes .spy ∨ homeLane settings w k = .spy := fun k hk =>
        (hsubs.known k hk).imp_right fun hk => hdesired k (hadded k hk).1
      rw [wp_bind, wp_modify]
      cases outcome with
      | releaseFailed => exact howned hl rfl rfl rfl rfl hhome
      | additionsFailed => exact howned hl rfl rfl rfl rfl hhome
      | dropFailed => exact howned hl rfl rfl rfl rfl hhome
      | replaced => exact howned hl rfl rfl rfl rfl hhome

/-! ## The slow lane -/

theorem SlowPollScheduler.advance_active (scheduler : SlowPollScheduler) (now : ℚ) :
    ((scheduler.advance now).1 = .none ∧
      (scheduler.advance now).2.activeChunkIndex = scheduler.activeChunkIndex) ∨
    (∃ chunk, (scheduler.advance now).1 = .start chunk ∧ scheduler.activeChunkIndex = none ∧
      (scheduler.advance now).2.activeChunkIndex = some chunk) ∨
    ∃ chunk, (scheduler.advance now).1 = .finish chunk ∧
      scheduler.activeChunkIndex = some chunk ∧
      (scheduler.advance now).2.activeChunkIndex = none := by
  unfold SlowPollScheduler.advance
  split
  · exact .inl ⟨rfl, rfl⟩
  · split
    · rename_i chunk hactive
      split
      · exact .inl ⟨rfl, rfl⟩
      · exact .inr (.inr ⟨chunk, rfl, hactive, rfl⟩)
    · rename_i hactive
      simp only
      split
      · exact .inl ⟨rfl, rfl⟩
      · exact .inr (.inl ⟨_, rfl, hactive, rfl⟩)

theorem slowContract_home (h : label ∈ settings.slowContracts) :
    homeLane settings w label = .slow := by
  obtain ⟨name, hname, rfl⟩ := mem_map.mp h
  exact if_pos (of_decide_eq_true (mem_filter.mp hname).2)

theorem slowContracts_nodup : settings.slowContracts.Nodup :=
  (settings.baseContracts_nodup.filter _).map fun _ _ => Label.context.inj

theorem chunk_sublist {i : Nat} (h : LaneFacts settings w) :
    (w.slowChunks.getD i []).Sublist settings.slowContracts := by
  unfold List.getD
  cases hchunk : w.slowChunks[i]? with
  | none => exact nil_sublist _
  | some chunk => exact h.chunks chunk (mem_of_getElem? hchunk)

theorem slowLane_owned (hw : ctx → LaneContext settings bounded w)
    (ht : Settled ctx (others w.lanes [.slow] ⊔ holds subs) t.link)
    (hlanes : t.lanes = (w.setLane .slow subs).lanes) (hplan : t.optionPlan = w.optionPlan)
    (hchunks : t.slowChunks = w.slowChunks)
    (hhome : ctx → ∀ k ∈ subs, homeLane settings w k = .slow)
    (hidle : (∀ scheduler, t.slowScheduler = some scheduler →
      scheduler.activeChunkIndex = none) → ctx → ∀ k, k ∉ subs) : Owned settings bounded t := by
  refine ht.imp (fun hc => (hw hc).of_setLane hplan hchunks hlanes (by decide)
    (fun k hk => .inr (hhome hc k hk)) fun hnone => ?_) fun _ _ _ => (records_setLane hlanes).symm
  have hslow : t.lanes .slow = subs := by
    rw [hlanes, setLane_self]
  rw [hslow]
  exact hidle hnone hc

theorem slowLane_cleared (hw : ctx → LaneContext settings bounded w)
    (ht : Settled ctx (others w.lanes [.slow]) t.link)
    (hlanes : t.lanes = (w.setLane .slow ∅).lanes) (hplan : t.optionPlan = w.optionPlan)
    (hchunks : t.slowChunks = w.slowChunks) : Owned settings bounded t := by
  have hnone : Settled ctx (others w.lanes [.slow] ⊔ holds ∅) t.link :=
    ht.imp id fun _ k x => ⟨.inl, fun hx => hx.elim id nofun⟩
  exact slowLane_owned hw hnone hlanes hplan hchunks (fun _ k hk => absurd hk Dict.not_mem_empty)
    fun _ _ k => Dict.not_mem_empty

theorem startSlowChunk_owned {scheduler : SlowPollScheduler} {chunk : Nat}
    {reading : SlowReading} (hactive : scheduler.activeChunkIndex = some chunk)
    (hctx : ctx → LaneContext settings bounded w) (hempty : ctx → ∀ k, k ∉ w.lanes .slow)
    (h : Settled ctx (records w) w.link) : wp (startSlowChunk scheduler chunk reading)
      (fun _ t => Owned settings bounded t) E (setSlowScheduler scheduler w) := by
  have hothers : Settled ctx (others w.lanes [.slow]) w.link :=
    h.imp id fun hc k x => (others_split not_mem_nil).trans
      ⟨fun hx => hx.resolve_right fun hx => hempty hc k (mem_of_holds hx), .inl⟩
  unfold startSlowChunk
  rw [wp_bind, wp_get]
  refine wp_seq_onLink (resolveSlowDefinitions_spec hothers) fun resolved l hl => ?_
  obtain ⟨hl, hsub⟩ := hl
  split
  · -- the exchange was raised: what the lane holds is cancelled
    have hsplit : Settled ctx (others w.lanes [.slow] ⊔ holds (w.lanes .slow)) l :=
      hl.imp id fun hc k x => ⟨.inl, fun hx => hx.resolve_right fun hx =>
        hempty hc k (mem_of_holds hx)⟩
    refine wp_seq_onLink (cancelBatch_spec hsplit fun hc k hk => absurd hk (hempty hc k))
      fun _ l₂ hl₂ => ?_
    rw [wp_modify]
    exact slowLane_cleared hctx hl₂.1 rfl rfl rfl
  · rename_i contracts
    have hcontracts : contracts.Sublist (w.slowChunks.getD chunk []) := hsub contracts rfl
    rw [wp_ite]
    refine ⟨fun _ => ?_, fun _ => ?_⟩
    · rw [wp_modify]
      refine slowLane_owned hctx (hl.imp id fun hc k x =>
        (⟨.inl, fun hx => hx.resolve_right fun hx => hempty hc k (mem_of_holds hx)⟩ :
          _ ↔ (others w.lanes [.slow] ⊔ holds (w.lanes .slow)) k x)) ?_ rfl rfl
        (fun hc k hk => absurd hk (hempty hc k)) fun _ hc => hempty hc
      funext other
      by_cases heq : other = .slow
      · rw [heq, setLane_self]
        rfl
      · rw [setLane_ne heq]
        rfl
    · rw [wp_bind, wp_get]
      have hhome : ctx → ∀ k ∈ contracts, homeLane settings w k = .slow := fun hc k hk =>
        slowContract_home ((chunk_sublist (hctx hc).1).subset (hcontracts.subset hk))
      have hfresh : ctx → ∀ k ∈ contracts, (others w.lanes [.slow]).Without k := fun hc k hk =>
        (hctx hc).1.without_home (by rw [hhome hc k hk]; decide)
      have hnodup : ctx → contracts.Nodup := fun hc =>
        (hcontracts.trans (chunk_sublist (hctx hc).1)).nodup slowContracts_nodup
      refine wp_seq_onLink (qualifyAndSubscribe_spec hnodup hl hfresh) fun subs l₂ hl₂ => ?_
      obtain ⟨hl₂, hkeys⟩ := hl₂
      rw [wp_bind, wp_modify]
      refine wp_seq_onLink (subscriptionBatchSucceeded_spec hl₂) fun ok l₃ hl₃ => ?_
      rw [wp_ite]
      constructor
      · intro _
        refine wp_seq_onLink (cancelBatch_spec hl₃ fun hc k hk => hfresh hc k (hkeys k hk))
          fun _ l₄ hl₄ => ?_
        rw [wp_modify]
        exact slowLane_cleared hctx hl₄.1 setLane_setLane rfl rfl
      · intro _
        rw [wp_modify]
        refine slowLane_owned hctx hl₃ rfl rfl rfl (fun hc k hk => hhome hc k (hkeys k hk))
          fun hnone => ?_
        have hsome := hnone _ rfl
        rw [hactive] at hsome
        cases hsome

theorem finishSlowChunk_owned {scheduler : SlowPollScheduler} {chunk : Nat}
    {reading : SlowReading} (h : Owned settings bounded w) :
    wp (finishSlowChunk scheduler chunk reading)
      (fun _ t => Owned settings bounded t) E (setSlowScheduler scheduler w) := by
  unfold finishSlowChunk
  rw [wp_bind, wp_get]
  have hcancel := cancelLane_spec (E := fun error _ => error.elim) h And.left
    (show Lane.slow ∉ [] from not_mem_nil)
  refine wp_seq_onLink hcancel fun cancelled l hl => ?_
  obtain ⟨hl, hflag⟩ := hl
  rw [wp_ite, wp_ite]
  refine ⟨fun _ => ?_, fun _ => ⟨fun hfailed => ?_, fun _ => ?_⟩⟩
  · exact slowLane_cleared id hl rfl rfl rfl
  · exact Owned.of_flagged hl.book (hflag hfailed)
  · exact slowLane_cleared id hl rfl rfl rfl

theorem advanceSlowPoll_owned {reading : SlowReading} (h : Owned settings bounded w) :
    wp (advanceSlowPoll reading) (fun _ t => Owned settings bounded t) E w := by
  unfold advanceSlowPoll
  rw [wp_bind, wp_get]
  split
  · exact h
  · rename_i scheduler hscheduler
    rw [wp_ite]
    refine ⟨fun _ => h, fun _ => ?_⟩
    have hcases := scheduler.advance_active reading.now
    generalize scheduler.advance reading.now = advanced at hcases
    obtain ⟨action, next⟩ := advanced
    dsimp only at hcases
    obtain ⟨hnone, hsame⟩ | ⟨chunk, hstart, hidle, hactive⟩ | ⟨chunk, hfinish, -, -⟩ := hcases
    · subst hnone
      refine Settled.imp h (fun hc => hc.of_lanes rfl rfl rfl (fun _ _ => .inl) ?_ hc.2)
        fun _ _ _ => Iff.rfl
      intro hidle
      refine hc.1.idle fun other hother => ?_
      rw [hscheduler] at hother
      cases hother
      exact hsame.symm.trans (hidle next rfl)
    · subst hstart
      refine startSlowChunk_owned hactive id (fun hc => hc.1.idle fun other hother => ?_) h
      rw [hscheduler] at hother
      cases hother
      exact hidle
    · subst hfinish
      exact finishSlowChunk_owned h

/-! ## The base lane -/

theorem persistentContracts_nodup : settings.persistentContracts.Nodup :=
  (settings.baseContracts_nodup.filter _).map fun _ _ => Label.context.inj

theorem persistentContract_home (h : label ∈ settings.persistentContracts) :
    homeLane settings w label = .base := by
  obtain ⟨name, hname, rfl⟩ := mem_map.mp h
  exact if_neg (of_decide_eq_true (mem_filter.mp hname).2)

theorem chunked_sublist {α : Type} {items chunk : List α} {size : Int}
    (h : chunk ∈ chunked items size) : chunk.Sublist items :=
  slices_sublist h

/-- A collector as it is before it has asked for anything. -/
structure Fresh (w : Collector) : Prop where
  lanes : ∀ lane, w.lanes lane = ∅
  chunks : w.slowChunks = []
  book : Book w.link
  lines : w.link.lines = []

theorem subscribeBase_owned {now : ℚ} (hw : Fresh w) :
    wp (subscribeBase settings now) (fun _ t => Owned settings bounded t) E w := by
  have hstart : Settled True ⊥ w.link := by
    refine ⟨hw.book, .inr ⟨trivial, nofun, fun hline => ?_, nofun⟩⟩
    rw [hw.lines] at hline
    cases hline
  have howned : ∀ {t : Collector} {subs : Subscriptions}, Settled True (⊥ ⊔ holds subs) t.link →
      t.lanes = (w.setLane .base subs).lanes → (∀ k ∈ subs, k ∈ settings.persistentContracts) →
      (∀ chunk ∈ t.slowChunks, chunk.Sublist settings.slowContracts) →
      Owned settings bounded t := by
    intro t subs ht hlanes hkeys hchunks
    have hother : ∀ {lane label}, lane ≠ .base → label ∉ t.lanes lane := by
      intro lane label hne
      rw [hlanes, setLane_ne hne, hw.lanes]
      exact Dict.not_mem_empty
    refine ht.imp (fun _ => ⟨⟨fun {lane label} hlabel => ?_, hchunks, fun _ _ => hother nofun⟩,
      fun _ => ?_⟩) fun _ k x => ?_
    · by_cases heq : lane = .base
      · subst heq
        rw [hlanes, setLane_self] at hlabel
        exact persistentContract_home (hkeys label hlabel)
      · exact absurd hlabel (hother heq)
    · refine (lineCount_le ∅ fun lane hlane label hlabel => ?_).trans (Nat.zero_le _)
      exact absurd hlabel (hother fun heq => absurd (heq ▸ hlane) (by decide))
    · rw [records_setLane hlanes]
      refine or_congr_left ⟨False.elim, fun ⟨lane, _, hx⟩ => ?_⟩
      rw [hw.lanes lane] at hx
      cases hx
  unfold subscribeBase
  rw [wp_bind, wp_get]
  refine wp_seq_onLink (qualifyAndSubscribe_spec (fun _ => persistentContracts_nodup) hstart
    fun _ _ _ _ => id) fun subs l hl => ?_
  obtain ⟨hl, hkeys⟩ := hl
  have hnochunk : ∀ chunk ∈ w.slowChunks, chunk.Sublist settings.slowContracts := by
    rw [hw.chunks]
    nofun
  rw [wp_bind, wp_modify, wp_bind, wp_get, wp_ite,
    wp_ite]
  refine ⟨fun _ => ?_, fun _ => ⟨fun _ => howned hl rfl hkeys hnochunk, fun _ => ?_⟩⟩
  · rw [wp_bind]
    refine wp_onLink_modify ?_
    exact howned hl.loseSubscriptions.1 rfl hkeys hnochunk
  · rw [wp_bind]
    refine wp_onLink_modify ?_
    refine wp_seq_onLink (applySubscriptionRejections_spec (hl.registerSubscriptionRows _ .base))
      fun rejected l₂ hl₂ => ?_
    rw [wp_bind]
    refine wp_onLink_modify ?_
    have hl₃ : Settled True (⊥ ⊔ holds subs) (Link.failHealthIf (rejected = true) l₂) := by
      unfold Link.failHealthIf
      split
      · exact hl₂.failHealth.1
      · exact hl₂
    rw [wp_bind, wp_get, wp_ite]
    refine ⟨fun _ => howned hl₃ rfl hkeys hnochunk, fun _ => ?_⟩
    rw [wp_bind, wp_modify]
    exact howned hl₃ rfl hkeys fun chunk hchunk => chunked_sublist hchunk

end SpxSpark.Ibkr
