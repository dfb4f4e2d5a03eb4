import SpxSpark.Ibkr.ExactLegPin
import SpxSpark.Ibkr.LaneReplacement

/-!
# LaneOwnership — every label has one lane it can be in

Which lane may carry a label follows from the label, the settings, the current plan and the pins:
`homeLane`.
-/

namespace SpxSpark.Ibkr

open Lib

/-! ## Labels and lanes -/

/-- Among the option lanes: pins first, then what the plan wants hot. -/
def optionLane (w : Collector) (label : Label) : Lane :=
  if label ∈ w.lanes .pinned then .pinned
  else if label ∈ w.desiredHotLabels then .hot
  else .rotation

def homeLane (settings : StreamSettings) (w : Collector) : Label → Lane
  | .context name => if name ∈ settings.slowPollLabels then .slow else .base
  | .spy _ _ _ => .spy
  | .spxw expiry strike right => optionLane w (.spxw expiry strike right)

/-- Every label is in its home lane, and the slow lane is empty between chunks. -/
structure LaneFacts (settings : StreamSettings) (w : Collector) : Prop where
  home : ∀ {lane label}, label ∈ w.lanes lane → homeLane settings w label = lane
  chunks : ∀ chunk ∈ w.slowChunks, chunk.Sublist settings.slowContracts
  idle : (∀ scheduler, w.slowScheduler = some scheduler → scheduler.activeChunkIndex = none) →
    ∀ label, label ∉ w.lanes .slow

/-- The lanes, and their bound where one is claimed. -/
def LaneContext (settings : StreamSettings) (bounded : Prop) (w : Collector) : Prop :=
  LaneFacts settings w ∧ (bounded → lineCount w optionLanes ≤ settings.maxOptionLines)

/-- What lanes other than some hold. -/
def others (lanes : Lane → Subscriptions) (except : List Lane) : Held :=
  fun label sub => ∃ lane, lane ∉ except ∧ holds (lanes lane) label sub

def records (w : Collector) : Held := others w.lanes []

/-- The state between two operations. -/
def Owned (settings : StreamSettings) (bounded : Prop) (w : Collector) : Prop :=
  Settled (LaneContext settings bounded w) (records w) w.link

variable {settings : StreamSettings} {bounded : Prop} {w t : Collector} {lane : Lane}
  {label : Label} {sub : Subscription} {lanes : Lane → Subscriptions} {except : List Lane}
  {subs : Subscriptions} {plan : OptionSubscriptionPlan} {link : Link}

theorem Owned.of_flagged (hbook : Book w.link) (hflag : Flagged w.link) :
    Owned settings bounded w :=
  Settled.of_flagged hbook hflag

theorem others_split (hlane : lane ∉ except) : others lanes except label sub ↔
    others lanes (lane :: except) label sub ∨ holds (lanes lane) label sub := by
  constructor
  · rintro ⟨other, hother, hsub⟩
    by_cases heq : other = lane
    · exact .inr (heq ▸ hsub)
    · exact .inl ⟨other, List.not_mem_cons_of_ne_of_not_mem heq hother, hsub⟩
  · rintro (⟨other, hother, hsub⟩ | hsub)
    · exact ⟨other, fun hmem => hother (List.mem_cons_of_mem _ hmem), hsub⟩
    · exact ⟨lane, hlane, hsub⟩

theorem setLane_self : (w.setLane lane subs).lanes lane = subs := if_pos rfl

theorem setLane_ne {other : Lane} (h : other ≠ lane) :
    (w.setLane lane subs).lanes other = w.lanes other := if_neg h

theorem others_setLane_of_mem (hlane : lane ∈ except) :
    others (w.setLane lane subs).lanes except label sub ↔ others w.lanes except label sub := by
  refine exists_congr fun other => and_congr_right fun hother => ?_
  have hne : other ≠ lane := fun heq => hother (heq ▸ hlane)
  rw [setLane_ne hne]

theorem others_setLane (hlane : lane ∉ except) :
    others (w.setLane lane subs).lanes except label sub ↔
      others w.lanes (lane :: except) label sub ∨ holds subs label sub := by
  rw [others_split hlane, others_setLane_of_mem (List.mem_cons_self ..), setLane_self]

theorem setLane_setLane {subs' : Subscriptions} :
    ((w.setLane lane subs).setLane lane subs').lanes = (w.setLane lane subs').lanes := by
  funext other
  by_cases heq : other = lane
  · rw [heq, setLane_self, setLane_self]
  · rw [setLane_ne heq, setLane_ne heq, setLane_ne heq]

theorem records_setLane (hlanes : t.lanes = (w.setLane lane subs).lanes) :
    records t label sub ↔ others w.lanes [lane] label sub ∨ holds subs label sub := by
  unfold records
  rw [hlanes, others_setLane List.not_mem_nil]

theorem others_congr {lanes' : Lane → Subscriptions}
    (h : ∀ lane, lane ∉ except → lanes lane = lanes' lane) :
    others lanes except label sub ↔ others lanes' except label sub := by
  refine exists_congr fun lane => and_congr_right fun hlane => ?_
  rw [h lane hlane]

theorem records_options : records w label sub ↔ others w.lanes optionLanes label sub ∨
    holds (w.lanes .hot) label sub ∨ holds (w.lanes .rotation) label sub ∨
      holds (w.lanes .pinned) label sub := by
  unfold records optionLanes
  rw [others_split (show Lane.pinned ∉ [] from List.not_mem_nil),
    others_split (show Lane.rotation ∉ [Lane.pinned] by decide),
    others_split (show Lane.hot ∉ [Lane.rotation, Lane.pinned] by decide), or_assoc, or_assoc]

theorem mem_of_others (h : others lanes except label sub) :
    ∃ lane, lane ∉ except ∧ label ∈ lanes lane := by
  obtain ⟨lane, hlane, hsub⟩ := h
  exact ⟨lane, hlane, mem_of_holds hsub⟩

theorem LaneFacts.without (h : LaneFacts settings w) (hmem : label ∈ w.lanes lane)
    (hlane : lane ∈ except) : (others w.lanes except).Without label := by
  intro sub hsub
  obtain ⟨other, hother, hin⟩ := mem_of_others hsub
  have heq : other = lane := (h.home hin).symm.trans (h.home hmem)
  exact hother (heq ▸ hlane)

theorem LaneFacts.without_home (h : LaneFacts settings w)
    (hlane : homeLane settings w label ∈ except) : (others w.lanes except).Without label := by
  intro sub hsub
  obtain ⟨other, hother, hin⟩ := mem_of_others hsub
  exact hother (h.home hin ▸ hlane)

/-! ## Homes -/

/-- An SPXW option, the only kind the option lanes carry. -/
def Label.IsSpxw (label : Label) : Prop := ∃ expiry strike right, label = .spxw expiry strike right

theorem isSpxw_of_desired (h : label ∈ desiredLabels plan) : label.IsSpxw := by
  obtain ⟨spec, -, rfl⟩ := List.mem_map.mp (List.mem_dedup.mp h)
  exact ⟨_, _, _, rfl⟩

theorem isSpxw_of_desiredHot (h : label ∈ w.desiredHotLabels) : label.IsSpxw := by
  unfold Collector.desiredHotLabels at h
  cases hplan : w.optionPlan with
  | none =>
    rw [hplan] at h
    cases h
  | some plan =>
    rw [hplan] at h
    exact isSpxw_of_desired h

theorem homeLane_spxw (h : label.IsSpxw) : homeLane settings w label = optionLane w label := by
  obtain ⟨expiry, strike, right, rfl⟩ := h
  rfl

theorem homeLane_pinned (h : label.IsSpxw) (hmem : label ∈ w.lanes .pinned) :
    homeLane settings w label = .pinned :=
  (homeLane_spxw h).trans (if_pos hmem)

theorem homeLane_hot (hmem : label ∈ w.desiredHotLabels) (hpinned : label ∉ w.lanes .pinned) :
    homeLane settings w label = .hot :=
  (homeLane_spxw (isSpxw_of_desiredHot hmem)).trans ((if_neg hpinned).trans (if_pos hmem))

theorem homeLane_rotation (h : label.IsSpxw) (hpinned : label ∉ w.lanes .pinned)
    (hcold : label ∉ w.desiredHotLabels) : homeLane settings w label = .rotation :=
  (homeLane_spxw h).trans ((if_neg hpinned).trans (if_neg hcold))

theorem mem_optionLanes : lane ∈ optionLanes ↔ lane = .hot ∨ lane = .rotation ∨ lane = .pinned := by
  simp [optionLanes]

theorem optionLane_mem : optionLane w label ∈ optionLanes := by
  unfold optionLane
  split
  · decide
  · split <;> decide

/-- What it means that an option's home is this lane. -/
structure OptionHome (w : Collector) (label : Label) (lane : Lane) : Prop where
  spxw : label.IsSpxw
  pinned : label ∈ w.lanes .pinned ↔ lane = .pinned
  hot : lane = .hot → label ∈ w.desiredHotLabels
  rotation : lane = .rotation → label ∉ w.desiredHotLabels

theorem optionLane_home : label.IsSpxw → OptionHome w label (optionLane w label) := by
  intro hspxw
  unfold optionLane
  by_cases hpinned : label ∈ w.lanes .pinned
  · rw [if_pos hpinned]
    exact ⟨hspxw, iff_of_true hpinned rfl, nofun, nofun⟩
  · rw [if_neg hpinned]
    by_cases hhot : label ∈ w.desiredHotLabels
    · rw [if_pos hhot]
      exact ⟨hspxw, iff_of_false hpinned nofun, fun _ => hhot, nofun⟩
    · rw [if_neg hhot]
      exact ⟨hspxw, iff_of_false hpinned nofun, nofun, fun _ => hhot⟩

theorem isSpxw_iff_home : label.IsSpxw ↔ homeLane settings w label ∈ optionLanes := by
  constructor
  · intro h
    rw [homeLane_spxw h]
    exact optionLane_mem
  · intro h
    cases label with
    | context name =>
      have hctx : homeLane settings w (.context name) =
          if name ∈ settings.slowPollLabels then .slow else .base := rfl
      rw [hctx] at h
      split at h
      · exact absurd h (by decide)
      · exact absurd h (by decide)
    | spy expiry strike right =>
      have hspy : homeLane settings w (.spy expiry strike right) = .spy := rfl
      rw [hspy] at h
      exact absurd h (by decide)
    | spxw expiry strike right => exact ⟨_, _, _, rfl⟩

theorem optionHome (h : homeLane settings w label = lane) (hlane : lane ∈ optionLanes) :
    OptionHome w label lane := by
  subst h
  have hspxw := isSpxw_iff_home.mpr hlane
  rw [homeLane_spxw hspxw]
  exact optionLane_home hspxw

theorem LaneFacts.option (h : LaneFacts settings w) (hmem : label ∈ w.lanes lane)
    (hlane : lane ∈ optionLanes) : OptionHome w label lane :=
  optionHome (h.home hmem) hlane

theorem homeLane_fixed (h : homeLane settings w label = lane) (hlane : lane ∉ optionLanes) :
    homeLane settings t label = lane := by
  cases label with
  | context name => exact h
  | spy expiry strike right => exact h
  | spxw expiry strike right =>
    have hmem : homeLane settings w (.spxw expiry strike right) ∈ optionLanes := optionLane_mem
    exact (hlane (h ▸ hmem)).elim

theorem homeLane_congr (hplan : t.optionPlan = w.optionPlan)
    (hpinned : t.lanes .pinned = w.lanes .pinned) :
    homeLane settings t label = homeLane settings w label := by
  cases label with
  | context name => rfl
  | spy expiry strike right => rfl
  | spxw expiry strike right =>
    show optionLane t _ = optionLane w _
    unfold optionLane Collector.desiredHotLabels
    rw [hplan, hpinned]

/-! ## Counting -/

/-- The labels of some lanes together. -/
def laneLabels (w : Collector) (lanes : List Lane) : Finset Label :=
  (lanes.flatMap fun lane => (w.lanes lane).keys).toFinset

theorem lineCount_eq {lanes : List Lane} : lineCount w lanes = (laneLabels w lanes).card :=
  (List.card_toFinset _).symm

theorem mem_laneLabels {lanes : List Lane} :
    label ∈ laneLabels w lanes ↔ ∃ lane ∈ lanes, label ∈ w.lanes lane := by
  unfold laneLabels
  rw [List.mem_toFinset, List.mem_flatMap]
  exact Iff.rfl

theorem lineCount_le {lanes : List Lane} (labels : Finset Label)
    (h : ∀ lane ∈ lanes, ∀ label ∈ w.lanes lane, label ∈ labels) :
    lineCount w lanes ≤ labels.card := by
  rw [lineCount_eq]
  refine Finset.card_le_card fun label hlabel => ?_
  obtain ⟨lane, hlane, hmem⟩ := mem_laneLabels.mp hlabel
  exact h lane hlane label hmem

theorem lineCount_mono {lanes : List Lane}
    (h : ∀ lane ∈ lanes, ∀ label ∈ t.lanes lane, ∃ other ∈ lanes, label ∈ w.lanes other) :
    lineCount t lanes ≤ lineCount w lanes := by
  rw [lineCount_eq (w := w)]
  exact lineCount_le _ fun lane hlane label hmem => mem_laneLabels.mpr (h lane hlane label hmem)

/-- Lanes that only lost labels keep the context, as long as plan and pins are the same. -/
structure Within (w t : Collector) : Prop where
  plan : t.optionPlan = w.optionPlan
  chunks : t.slowChunks = w.slowChunks
  scheduler : t.slowScheduler = w.slowScheduler
  pinned : t.lanes .pinned = w.lanes .pinned
  lanes : ∀ lane, ∀ label ∈ t.lanes lane, label ∈ w.lanes lane

theorem Within.refl : Within w w := ⟨rfl, rfl, rfl, rfl, fun _ _ => id⟩

theorem Within.onLink (h : Within w t) (link : Link) : Within w { t with link := link } :=
  ⟨h.plan, h.chunks, h.scheduler, h.pinned, h.lanes⟩

theorem Within.setLane (h : Within w t) (lane : Lane) (hlane : lane ≠ .pinned)
    (hsubs : ∀ label ∈ subs, label ∈ w.lanes lane) : Within w (t.setLane lane subs) := by
  refine ⟨h.plan, h.chunks, h.scheduler, ?_, fun other label hlabel => ?_⟩
  · rw [setLane_ne hlane.symm]
    exact h.pinned
  · by_cases heq : other = lane
    · subst heq
      rw [setLane_self] at hlabel
      exact hsubs label hlabel
    · rw [setLane_ne heq] at hlabel
      exact h.lanes other label hlabel

theorem Within.context (h : Within w t) (hw : LaneContext settings bounded w) :
    LaneContext settings bounded t := by
  obtain ⟨hfacts, hbound⟩ := hw
  refine ⟨⟨?_, ?_, ?_⟩, fun hb => ?_⟩
  · intro lane label hlabel
    rw [homeLane_congr h.plan h.pinned]
    exact hfacts.home (h.lanes lane label hlabel)
  · rw [h.chunks]
    exact hfacts.chunks
  · rw [h.scheduler]
    exact fun hidle label hlabel => hfacts.idle hidle label (h.lanes .slow label hlabel)
  · exact (lineCount_mono fun lane hlane label hlabel =>
      ⟨lane, hlane, h.lanes lane label hlabel⟩).trans (hbound hb)

theorem Within.owned (h : Within w t)
    (hsettled : Settled (LaneContext settings bounded w) (records t) t.link) :
    Owned settings bounded t :=
  hsettled.imp h.context fun _ _ _ => Iff.rfl

theorem Owned.of_same (h : Owned settings bounded w) (hlanes : t.lanes = w.lanes)
    (hplan : t.optionPlan = w.optionPlan) (hchunks : t.slowChunks = w.slowChunks)
    (hscheduler : t.slowScheduler = w.slowScheduler) (hlink : t.link = w.link) :
    Owned settings bounded t := by
  have hwithin : Within w t :=
    ⟨hplan, hchunks, hscheduler, congrFun hlanes .pinned, fun lane label hlabel =>
      congrFun hlanes lane ▸ hlabel⟩
  refine hwithin.owned ?_
  unfold records
  rw [hlanes, hlink]
  exact h

end SpxSpark.Ibkr
