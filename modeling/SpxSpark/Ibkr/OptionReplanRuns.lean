import Mathlib.Data.List.Chain
import SpxSpark.Ibkr.OptionReplan

/-!
# OptionReplanRuns — what a proposed plan rests on

A pending strike is backed by calls that named it, one later than the other, and no call in between
may speak against it: every exit of `observe` either leaves the pending strike to the same calls,
adds the call it was given, or clears it.
-/

namespace SpxSpark.Ibkr.Replan

open Lib List
open OptionReplanController (clearPending pendingSpan recordResult step)

/-! ## The history of a controller -/

abbrev History := List (Tick × ReplanDecision)

/-- Decision times do not go back. -/
def Ordered (evs : History) : Prop :=
  (evs.map fun ev => ev.1.decisionAt).Pairwise (· ≤ ·)

instance (evs : History) : Decidable (Ordered evs) :=
  inferInstanceAs (Decidable (List.Pairwise _ _))

/-- The calls after the last recorded result. -/
def sinceResult (evs : History) : List Tick :=
  (evs.rtakeWhile fun ev => ev.2.proposal.isNone).map Prod.fst

/-- The plan an event proposed, its outcome, and when it was recorded. -/
def resultOf (ev : Tick × ReplanDecision) : Option (ReplanProposal × Bool × Instant) :=
  ev.2.proposal.map fun proposal => (proposal, ev.1.success, ev.1.appliedAt)

/-- The plan an event applied, and when. -/
def appliedBy (ev : Tick × ReplanDecision) : Option (ReplanProposal × Instant) :=
  if ev.1.success then ev.2.proposal.map fun proposal => (proposal, ev.1.appliedAt) else none

def lastResult (evs : History) : Option (ReplanProposal × Bool × Instant) :=
  (evs.filterMap resultOf).getLast?

def lastApplied (evs : History) : Option (ReplanProposal × Instant) :=
  (evs.filterMap appliedBy).getLast?

theorem Ordered.init {evs : History} {ev : Tick × ReplanDecision} (h : Ordered (evs ++ [ev])) :
    Ordered evs := by
  rw [Ordered, map_append, pairwise_append] at h
  exact h.1

theorem Ordered.le_last {evs : History} {ev : Tick × ReplanDecision} (h : Ordered (evs ++ [ev])) :
    ∀ earlier ∈ evs, earlier.1.decisionAt ≤ ev.1.decisionAt := by
  intro earlier hmem
  rw [Ordered, map_append, pairwise_append] at h
  apply h.2.2 _ (mem_map_of_mem hmem)
  simp

theorem sinceResult_silent {evs : History} {tick : Tick} {d : ReplanDecision}
    (h : d.proposal = none) : sinceResult (evs ++ [(tick, d)]) = sinceResult evs ++ [tick] := by
  rw [sinceResult, rtakeWhile_concat_pos _ _ _ (by simp [h]), map_append]
  rfl

theorem lastResult_silent {evs : History} {tick : Tick} {d : ReplanDecision}
    (h : d.proposal = none) : lastResult (evs ++ [(tick, d)]) = lastResult evs := by
  simp [lastResult, filterMap_append, resultOf, h]

theorem lastResult_proposed {evs : History} {tick : Tick} {d : ReplanDecision}
    {p : ReplanProposal} (h : d.proposal = some p) :
    lastResult (evs ++ [(tick, d)]) = some (p, tick.success, tick.appliedAt) := by
  simp [lastResult, filterMap_append, resultOf, h]

theorem lastApplied_silent {evs : History} {tick : Tick} {d : ReplanDecision}
    (h : d.proposal = none ∨ tick.success = false) :
    lastApplied (evs ++ [(tick, d)]) = lastApplied evs := by
  rcases h with h | h <;> simp [lastApplied, filterMap_append, appliedBy, h]

theorem lastApplied_success {evs : History} {tick : Tick} {d : ReplanDecision}
    {p : ReplanProposal} (h : d.proposal = some p) (hsuccess : tick.success = true) :
    lastApplied (evs ++ [(tick, d)]) = some (p, tick.appliedAt) := by
  simp [lastApplied, filterMap_append, appliedBy, h, hsuccess]

/-! ## What backs a pending strike -/

/-- A call that named the strike and its source. -/
def Tick.Names (tick : Tick) (expiry : Text) (atm : Int) (source : Text) : Prop :=
  tick.expiry = expiry ∧ tick.atmStrike = some atm ∧ tick.sourceName = source

/-- The strike lies outside both bands of the strike that is planned. -/
def OutsideBands (settings : ReplanSettings) (accepted atm : Int) : Prop :=
  settings.rearmPoints < |((atm - accepted : Int) : ℚ)| ∧
    settings.triggerPoints ≤ |((atm - accepted : Int) : ℚ)|

/-- A call of this expiry, if it carried a strike, named this strike from this source, outside the
bands. -/
def Tick.Undisturbing (settings : ReplanSettings) (accepted : Int) (expiry : Text) (atm : Int)
    (source : Text) (tick : Tick) : Prop :=
  tick.expiry = expiry → ∀ strike, tick.atmStrike = some strike →
    strike = atm ∧ tick.sourceName = source ∧ OutsideBands settings accepted strike

/-- The first call and the later ones that count, among calls none of which speaks against them. -/
structure Backed (settings : ReplanSettings) (accepted : Int) (expiry : Text) (atm : Int)
    (source : Text) (calls : List Tick) (first : Tick) (seen : List Tick) : Prop where
  among : ∃ before between, calls = before ++ first :: between ∧ seen.Sublist between ∧
    ∀ tick ∈ between, tick.Undisturbing settings accepted expiry atm source
  names : ∀ tick ∈ first :: seen, tick.Names expiry atm source
  rising : (first :: seen).IsChain fun a b => a.observedAt < b.observedAt

/-- The last call that counts. -/
def lastSeen (first : Tick) (seen : List Tick) : Tick := seen.getLastD first

namespace Backed

variable {settings : ReplanSettings} {accepted : Int} {expiry : Text} {atm : Int} {source : Text}
  {calls : List Tick} {first : Tick} {seen : List Tick}

theorem start (calls : List Tick) {tick : Tick} (h : tick.Names expiry atm source) :
    Backed settings accepted expiry atm source (calls ++ [tick]) tick [] where
  among := ⟨calls, [], rfl, List.Sublist.refl _, by simp⟩
  names := by simpa using h
  rising := isChain_singleton _

theorem pass (h : Backed settings accepted expiry atm source calls first seen) {tick : Tick}
    (hquiet : tick.Undisturbing settings accepted expiry atm source) :
    Backed settings accepted expiry atm source (calls ++ [tick]) first seen where
  among := by
    obtain ⟨before, between, rfl, hsub, hbetween⟩ := h.among
    refine ⟨before, between ++ [tick], by simp, ?_, ?_⟩
    · exact hsub.trans (sublist_append_left _ _)
    · intro t ht
      rcases mem_append.mp ht with ht | ht
      · exact hbetween t ht
      · rw [mem_singleton.mp ht]
        exact hquiet
  names := h.names
  rising := h.rising

theorem next (h : Backed settings accepted expiry atm source calls first seen) {tick : Tick}
    (hnames : tick.Names expiry atm source) (hbands : OutsideBands settings accepted atm)
    (hlater : (lastSeen first seen).observedAt < tick.observedAt) :
    Backed settings accepted expiry atm source (calls ++ [tick]) first (seen ++ [tick]) where
  among := by
    have hquiet : tick.Undisturbing settings accepted expiry atm source := by
      intro _ strike hstrike
      have hsame : strike = atm := Option.some.inj (hstrike.symm.trans hnames.2.1)
      subst hsame
      exact ⟨rfl, hnames.2.2, hbands⟩
    obtain ⟨before, between, rfl, hsub, hbetween⟩ := h.among
    refine ⟨before, between ++ [tick], by simp, hsub.append (List.Sublist.refl _), ?_⟩
    intro t ht
    rcases mem_append.mp ht with ht | ht
    · exact hbetween t ht
    · rw [mem_singleton.mp ht]
      exact hquiet
  names := by
    intro t ht
    rw [← cons_append] at ht
    rcases mem_append.mp ht with ht | ht
    · exact h.names t ht
    · rw [mem_singleton.mp ht]
      exact hnames
  rising := by
    rw [← cons_append, isChain_append]
    refine ⟨h.rising, isChain_singleton _, ?_⟩
    intro a ha b hb
    have hlast : lastSeen first seen = a := by
      rw [getLast?_cons, Option.mem_some_iff] at ha
      rw [lastSeen, getLastD_eq_getLast?]
      exact ha
    have hnew : tick = b := by simpa using hb
    subst hlast hnew
    exact hlater

end Backed

/-! ## The exits of a call -/

def ReplanReason.requiredCount (settings : ReplanSettings) : ReplanReason → ℕ
  | .emergencyMove => settings.emergencyConfirmationCount
  | _ => settings.confirmationCount

def ReplanReason.requiredSpan (settings : ReplanSettings) : ReplanReason → ℚ
  | .emergencyMove => settings.emergencySpanSeconds
  | _ => settings.confirmationSpanSeconds

/-- So many seconds have passed since the last plan was applied. -/
def OptionReplanController.Since (c : OptionReplanController) (tick : Tick) (seconds : ℚ) : Prop :=
  ∀ applied ∈ c.lastAppliedAt, seconds ≤ secondsBetween tick.decisionAt applied

/-- The distance a move keeps from the last plan: an emergency is far enough and not too soon, any
other move waits the cooldown out. -/
def Paced (settings : ReplanSettings) (c : OptionReplanController) (tick : Tick)
    (accepted atm : Int) : ReplanReason → Prop
  | .emergencyMove => settings.emergencyPoints ≤ |((atm - accepted : Int) : ℚ)| ∧
      c.Since tick settings.hardMinimumSeconds
  | .confirmedMove => c.Since tick settings.cooldownSeconds
  | _ => False

/-- What a call answers and leaves, once its candidate is noted. -/
inductive Exit (settings : ReplanSettings) (c : OptionReplanController) (tick : Tick) :
    ReplanDecision → OptionReplanController → Prop
  | backingOff {d : ReplanDecision} :
      c.backingOff tick → d.proposal = none → Exit settings c tick d c
  | strikeless {d : ReplanDecision} :
      tick.atmStrike = none → d.proposal = none → Exit settings c tick d c
  | cleared {d : ReplanDecision} : d.proposal = none → Exit settings c tick d c.clearPending
  | counted {d : ReplanDecision} {accepted atm : Int} : ¬c.backingOff tick →
      c.acceptedAtm = some accepted → c.acceptedExpiry = some tick.expiry →
      tick.atmStrike = some atm → OutsideBands settings accepted atm → d.proposal = none →
      Exit settings c tick d (c.countPending tick atm)
  | moved {d : ReplanDecision} {accepted atm : Int} {p : ReplanProposal} : ¬c.backingOff tick →
      c.acceptedAtm = some accepted → c.acceptedExpiry = some tick.expiry →
      tick.atmStrike = some atm → OutsideBands settings accepted atm →
      Paced settings c tick accepted atm p.reason →
      p.reason.requiredCount settings ≤ (c.countPending tick atm).pendingCount →
      p.reason.requiredSpan settings ≤ (c.countPending tick atm).pendingSpan →
      p.atmStrike = atm → p.source = tick.sourceName → p.expiry = tick.expiry →
      d.proposal = some p → Exit settings c tick d (c.countPending tick atm)
  | atOnce {d : ReplanDecision} {p : ReplanProposal} : ¬c.backingOff tick →
      c.acceptedAtm = none ∨ c.acceptedExpiry ≠ some tick.expiry →
      p.reason = .initialPlan ∨ p.reason = .expiryRollover → p.expiry = tick.expiry →
      d.proposal = some p → Exit settings c tick d c

namespace OptionReplanController

variable {settings : ReplanSettings} {c : OptionReplanController} {tick : Tick}

theorem observeMove_exit {accepted atm : Int} (hbacking : ¬c.backingOff tick)
    (haccepted : c.acceptedAtm = some accepted) (hexpiry : c.acceptedExpiry = some tick.expiry)
    (hatm : tick.atmStrike = some atm) (hbands : OutsideBands settings accepted atm) :
    Exit settings c tick (observeMove settings c tick accepted atm).1
      (observeMove settings c tick accepted atm).2 := by
  rw [observeMove]
  dsimp only
  split
  · exact .cleared rfl
  · next hsoon =>
    split
    · next hemergency =>
      split
      · exact .counted hbacking haccepted hexpiry hatm hbands rfl
      · next hshort =>
        rw [not_or, not_lt, not_lt] at hshort
        refine .moved hbacking haccepted hexpiry hatm hbands ?_ ?_ ?_ rfl rfl rfl rfl
        · exact hemergency
        · exact hshort.1
        · exact hshort.2
    · next hcalm =>
      have hwaited : c.Since tick settings.cooldownSeconds := by
        by_contra hearly
        exact hsoon ⟨hcalm, hearly⟩
      split
      · exact .counted hbacking haccepted hexpiry hatm hbands rfl
      · next hshort =>
        rw [not_or, not_lt, not_lt] at hshort
        refine .moved hbacking haccepted hexpiry hatm hbands ?_ ?_ ?_ rfl rfl rfl rfl
        · exact hwaited
        · exact hshort.1
        · exact hshort.2

theorem observeAccepted_exit {accepted : Int} (hbacking : ¬c.backingOff tick)
    (haccepted : c.acceptedAtm = some accepted) (hexpiry : c.acceptedExpiry = some tick.expiry) :
    Exit settings c tick (observeAccepted settings c tick accepted).1
      (observeAccepted settings c tick accepted).2 := by
  rw [observeAccepted]
  cases hatm : tick.atmStrike with
  | none =>
    dsimp only
    split
    · exact .strikeless hatm rfl
    · exact .cleared rfl
  | some atm =>
    dsimp only
    split
    · exact .cleared rfl
    split
    · exact .cleared rfl
    · next hrearm =>
      split
      · exact .cleared rfl
      · next htrigger =>
        exact observeMove_exit hbacking haccepted hexpiry hatm
          ⟨not_le.mp hrearm, not_lt.mp htrigger⟩

theorem observe_exit (settings : ReplanSettings) (c : OptionReplanController) (tick : Tick) :
    Exit settings (c.noteCandidate tick) tick (c.observe settings tick).1
      (c.observe settings tick).2 := by
  rw [observe]
  generalize c.noteCandidate tick = c
  split
  · next hbacking => exact .backingOff hbacking rfl
  · next hbacking =>
    split
    · next accepted expiry haccepted hexpiry =>
      split
      · next hother =>
        refine .atOnce hbacking (.inr ?_) (.inr rfl) rfl rfl
        rw [hexpiry]
        intro hsame
        exact hother (Option.some.inj hsame).symm
      · next hsame =>
        rw [not_not] at hsame
        exact observeAccepted_exit hbacking haccepted (by rw [hexpiry, hsame])
    · next hnone =>
      cases hatm : tick.atmStrike with
      | none => exact .strikeless hatm rfl
      | some atm =>
        refine .atOnce hbacking ?_ (.inl rfl) rfl rfl
        cases haccepted : c.acceptedAtm with
        | none => exact .inl rfl
        | some accepted =>
          right
          intro hexpiry
          exact hnone accepted tick.expiry haccepted hexpiry

@[simp] theorem countPending_acceptedAtm (c : OptionReplanController) (tick : Tick) (atm : Int) :
    (c.countPending tick atm).acceptedAtm = c.acceptedAtm := by
  rw [countPending]
  split_ifs <;> rfl

@[simp] theorem countPending_acceptedExpiry (c : OptionReplanController) (tick : Tick)
    (atm : Int) : (c.countPending tick atm).acceptedExpiry = c.acceptedExpiry := by
  rw [countPending]
  split_ifs <;> rfl

@[simp] theorem countPending_lastAppliedAt (c : OptionReplanController) (tick : Tick)
    (atm : Int) : (c.countPending tick atm).lastAppliedAt = c.lastAppliedAt := by
  rw [countPending]
  split_ifs <;> rfl

@[simp] theorem countPending_failedUntil (c : OptionReplanController) (tick : Tick)
    (atm : Int) : (c.countPending tick atm).failedUntil = c.failedUntil := by
  rw [countPending]
  split_ifs <;> rfl

@[simp] theorem countPending_failedExpiry (c : OptionReplanController) (tick : Tick)
    (atm : Int) : (c.countPending tick atm).failedExpiry = c.failedExpiry := by
  rw [countPending]
  split_ifs <;> rfl

theorem noteCandidate_eq (c : OptionReplanController) (tick : Tick) :
    ∃ last, c.noteCandidate tick = { c with lastCandidateAt := last } := by
  rw [noteCandidate]
  split_ifs
  · exact ⟨_, rfl⟩
  · exact ⟨c.lastCandidateAt, rfl⟩

end OptionReplanController

/-! ## What the state keeps of the history -/

/-- The pending plan was asked for by as many calls as are counted. -/
def PendingBacked (settings : ReplanSettings) (calls : List Tick) (c : OptionReplanController)
    (atm : Int) : Prop :=
  ∃ accepted expiry source first seen,
    c.acceptedAtm = some accepted ∧ c.acceptedExpiry = some expiry ∧
      c.pendingSource = some source ∧ c.pendingFirstAt = some first.observedAt ∧
      c.pendingLastAt = some (lastSeen first seen).observedAt ∧
      c.pendingCount = seen.length + 1 ∧
      Backed settings accepted expiry atm source calls first seen

/-- The plan applied last is the accepted one. -/
def Accepted (evs : History) (c : OptionReplanController) : Prop :=
  (lastApplied evs = none ∧ c.acceptedAtm = none ∧ c.acceptedExpiry = none ∧
      c.lastAppliedAt = none) ∨
    ∃ p at', lastApplied evs = some (p, at') ∧ c.acceptedAtm = some p.atmStrike ∧
      c.acceptedExpiry = some p.expiry ∧ c.lastAppliedAt = some at'

/-- When the backoff of a failure ends. -/
def backoffEnd (settings : ReplanSettings) (failedAt : Instant) : Instant :=
  failedAt + timedelta (max settings.failureBackoffSeconds 0)

/-- What the controller remembers is what the history says. -/
structure Kept (settings : ReplanSettings) (evs : History) (c : OptionReplanController) :
    Prop where
  accepted : Accepted evs c
  failed : ∀ p at', lastResult evs = some (p, false, at') →
    c.failedUntil = some (backoffEnd settings at') ∧ c.failedExpiry = some p.expiry
  backed : ∀ atm, c.pendingAtm = some atm → PendingBacked settings (sinceResult evs) c atm
  waited : c.pendingAtm ≠ none → c.failedExpiry = c.acceptedExpiry →
    ∀ until' ∈ c.failedUntil, ∃ ev ∈ evs, until' ≤ ev.1.decisionAt

theorem Kept.init (settings : ReplanSettings) : Kept settings [] {} where
  accepted := .inl ⟨rfl, rfl, rfl, rfl⟩
  failed := by
    intro p at' h
    cases h
  backed := by
    intro atm h
    cases h
  waited := by
    intro h
    exact absurd rfl h

section

variable {settings : ReplanSettings} {evs : History} {c c' : OptionReplanController} {tick : Tick}
  {d : ReplanDecision}

theorem Kept.noted (h : Kept settings evs c) (tick : Tick) :
    Kept settings evs (c.noteCandidate tick) := by
  obtain ⟨last, heq⟩ := c.noteCandidate_eq tick
  rw [heq]
  exact ⟨h.accepted, h.failed, h.backed, h.waited⟩

theorem PendingBacked.pass {calls : List Tick} {atm : Int}
    (h : PendingBacked settings calls c atm)
    (hquiet : ∀ expiry, c.acceptedExpiry = some expiry → tick.expiry = expiry →
      tick.atmStrike = none) : PendingBacked settings (calls ++ [tick]) c atm := by
  obtain ⟨accepted, expiry, source, first, seen, ha, he, hs, hfirst, hlast, hcount, hbacked⟩ := h
  refine ⟨accepted, expiry, source, first, seen, ha, he, hs, hfirst, hlast, hcount, ?_⟩
  apply hbacked.pass
  intro hexpiry strike hstrike
  rw [hquiet expiry he hexpiry] at hstrike
  cases hstrike

theorem PendingBacked.count {calls : List Tick} {accepted atm : Int}
    (h : ∀ pending, c.pendingAtm = some pending → PendingBacked settings calls c pending)
    (haccepted : c.acceptedAtm = some accepted) (hexpiry : c.acceptedExpiry = some tick.expiry)
    (hatm : tick.atmStrike = some atm) (hbands : OutsideBands settings accepted atm) :
    (c.countPending tick atm).pendingAtm = some atm ∧
      (c.countPending tick atm).pendingSource = some tick.sourceName ∧
      PendingBacked settings (calls ++ [tick]) (c.countPending tick atm) atm := by
  have hnames : tick.Names tick.expiry atm tick.sourceName := ⟨rfl, hatm, rfl⟩
  rw [OptionReplanController.countPending]
  split
  · -- another strike or source: the count starts with this call
    exact ⟨rfl, rfl, accepted, tick.expiry, tick.sourceName, tick, [], haccepted, hexpiry, rfl,
      rfl, rfl, rfl, Backed.start calls hnames⟩
  · next hsame =>
    rw [not_or, not_not, not_not] at hsame
    obtain ⟨accepted', expiry, source, first, seen, ha, he, hs, hfirst, hlast, hcount, hbacked⟩ :=
      h atm hsame.1
    obtain rfl : accepted' = accepted := Option.some.inj (ha.symm.trans haccepted)
    obtain rfl : expiry = tick.expiry := Option.some.inj (he.symm.trans hexpiry)
    obtain rfl : source = tick.sourceName := Option.some.inj (hs.symm.trans hsame.2)
    split
    · next hlater =>
      have hafter : (lastSeen first seen).observedAt < tick.observedAt :=
        hlater _ (Option.mem_def.mpr hlast)
      refine ⟨hsame.1, hsame.2, accepted', tick.expiry, tick.sourceName, first, seen ++ [tick],
        ha, he, hs, hfirst, ?_, ?_, hbacked.next hnames hbands hafter⟩
      · simp [lastSeen]
      · show c.pendingCount + 1 = (seen ++ [tick]).length + 1
        rw [hcount, length_append]
        rfl
    · refine ⟨hsame.1, hsame.2, accepted', tick.expiry, tick.sourceName, first, seen, ha, he, hs,
        hfirst, hlast, hcount, hbacked.pass ?_⟩
      intro _ strike hstrike
      obtain rfl : strike = atm := Option.some.inj (hstrike.symm.trans hatm)
      exact ⟨rfl, rfl, hbands⟩

theorem waited_of_not_backingOff (h : ¬c.backingOff tick)
    (hexpiry : c.acceptedExpiry = some tick.expiry) (hsame : c.failedExpiry = c.acceptedExpiry) :
    ∀ until' ∈ c.failedUntil, until' ≤ tick.decisionAt := by
  intro until' huntil
  by_contra hearly
  exact h ⟨until', huntil, not_le.mp hearly, hsame.trans hexpiry⟩

theorem Accepted.silent (h : Accepted evs c) (hd : d.proposal = none ∨ tick.success = false)
    (hatm : c'.acceptedAtm = c.acceptedAtm) (hexpiry : c'.acceptedExpiry = c.acceptedExpiry)
    (happlied : c'.lastAppliedAt = c.lastAppliedAt) : Accepted (evs ++ [(tick, d)]) c' := by
  rw [Accepted, lastApplied_silent hd, hatm, hexpiry, happlied]
  exact h

theorem Exit.frame (h : Exit settings c tick d c') :
    c'.acceptedAtm = c.acceptedAtm ∧ c'.acceptedExpiry = c.acceptedExpiry ∧
      c'.lastAppliedAt = c.lastAppliedAt ∧ c'.failedUntil = c.failedUntil ∧
      c'.failedExpiry = c.failedExpiry := by
  cases h <;> simp [clearPending]

theorem Kept.silent (h : Kept settings evs c) (hexit : Exit settings c tick d c')
    (hd : d.proposal = none) (hordered : ∀ ev ∈ evs, ev.1.decisionAt ≤ tick.decisionAt) :
    Kept settings (evs ++ [(tick, d)]) c' := by
  obtain ⟨hatm, hexpiry, happlied, huntil, hfailed⟩ := hexit.frame
  have hearlier : ∀ {instant : Instant}, (∃ ev ∈ evs, instant ≤ ev.1.decisionAt) →
      ∃ ev ∈ evs ++ [(tick, d)], instant ≤ ev.1.decisionAt := by
    rintro instant ⟨ev, hev, hle⟩
    exact ⟨ev, mem_append_left _ hev, hle⟩
  refine ⟨h.accepted.silent (.inl hd) hatm hexpiry happlied, ?_, ?_, ?_⟩
  · rw [lastResult_silent hd, huntil, hfailed]
    exact h.failed
  · rw [sinceResult_silent hd]
    intro atm hpending
    cases hexit with
    | backingOff hbacking _ =>
      apply (h.backed atm hpending).pass
      -- the wait of the planned expiry was over when the pending strike was first named
      intro expiry haccepted hsame
      obtain ⟨until', hfuntil, hearly, hfexpiry⟩ := hbacking
      have hboth : c.failedExpiry = c.acceptedExpiry := by
        rw [hfexpiry, haccepted, hsame]
      have hnone : c.pendingAtm ≠ none := by
        rw [hpending]
        simp
      obtain ⟨ev, hev, hle⟩ := h.waited hnone hboth until' hfuntil
      exact absurd (lt_of_lt_of_le hearly (hle.trans (hordered ev hev))) (lt_irrefl _)
    | strikeless hnone _ =>
      apply (h.backed atm hpending).pass
      intro _ _ _
      exact hnone
    | cleared _ => cases hpending
    | counted _ haccepted hplanned hstrike hbands _ =>
      obtain ⟨hsame, -, hbacked⟩ :=
        PendingBacked.count h.backed haccepted hplanned hstrike hbands
      obtain rfl := Option.some.inj (hsame.symm.trans hpending)
      exact hbacked
    | moved _ _ _ _ _ _ _ _ _ _ _ hp => cases hd.symm.trans hp
    | atOnce _ _ _ _ hp => cases hd.symm.trans hp
  · rw [hexpiry, huntil, hfailed]
    intro hpending hsame until' hmem
    cases hexit with
    | backingOff _ _ => exact hearlier (h.waited hpending hsame until' hmem)
    | strikeless _ _ => exact hearlier (h.waited hpending hsame until' hmem)
    | cleared _ => exact absurd rfl hpending
    | counted hbacking _ hplanned _ _ _ =>
      refine ⟨(tick, d), mem_append_right _ (mem_singleton_self _), ?_⟩
      exact waited_of_not_backingOff hbacking hplanned hsame until' hmem
    | moved _ _ _ _ _ _ _ _ _ _ _ hp => cases hd.symm.trans hp
    | atOnce _ _ _ _ hp => cases hd.symm.trans hp

theorem Kept.recorded {p : ReplanProposal} (h : Kept settings evs c)
    (hexit : Exit settings c tick d c') (hd : d.proposal = some p) :
    Kept settings (evs ++ [(tick, d)])
      (c'.recordResult settings p tick.success tick.appliedAt) := by
  obtain ⟨hatm, hexpiry, happlied, -, -⟩ := hexit.frame
  rw [recordResult]
  cases hsuccess : tick.success with
  | true =>
    refine ⟨.inr ⟨p, tick.appliedAt, lastApplied_success hd hsuccess, rfl, rfl, rfl⟩, ?_, ?_, ?_⟩
    · intro q at' hlast
      rw [lastResult_proposed hd, hsuccess] at hlast
      cases hlast
    · intro atm hpending
      cases hpending
    · intro hpending
      exact absurd rfl hpending
  | false =>
    refine ⟨h.accepted.silent (.inr hsuccess) hatm hexpiry happlied, ?_, ?_, ?_⟩
    · intro q at' hlast
      rw [lastResult_proposed hd, hsuccess] at hlast
      obtain ⟨rfl, -, rfl⟩ : p = q ∧ true = true ∧ tick.appliedAt = at' := by simpa using hlast
      exact ⟨rfl, rfl⟩
    · intro atm hpending
      cases hpending
    · intro hpending
      exact absurd rfl hpending

theorem Kept.step (h : Kept settings evs c)
    (hordered : ∀ ev ∈ evs, ev.1.decisionAt ≤ tick.decisionAt) :
    Kept settings (evs ++ [(tick, (c.step settings tick).1)]) (c.step settings tick).2 := by
  have hexit := OptionReplanController.observe_exit settings c tick
  rw [OptionReplanController.step]
  cases hproposal : (c.observe settings tick).1.proposal with
  | none =>
    dsimp only
    exact (h.noted tick).silent hexit hproposal hordered
  | some p =>
    dsimp only
    exact (h.noted tick).recorded hexit hproposal

end

theorem run_kept {settings : ReplanSettings} {evs : History} {c : OptionReplanController}
    (hrun : Run (step settings) anyStep {} evs c) (hordered : Ordered evs) :
    Kept settings evs c := by
  refine hrun.invariant_log (I := fun evs c => Ordered evs → Kept settings evs c) ?_ ?_ hordered
  · intro _
    exact Kept.init settings
  · intro evs c tick ih _ hordered
    exact (ih hordered.init).step hordered.le_last

/-! ## What a proposal rests on -/

/-- A move that was proposed, with the calls since the last result that support it. -/
def Supported (settings : ReplanSettings) (past : History) (tick : Tick) (p : ReplanProposal) :
    Prop :=
  ∃ plan at' first seen, lastApplied past = some (plan, at') ∧
    Backed settings plan.atmStrike p.expiry p.atmStrike p.source (sinceResult past ++ [tick])
      first seen ∧
    p.reason.requiredCount settings ≤ (first :: seen).length ∧
    p.reason.requiredSpan settings ≤
      secondsBetween (lastSeen first seen).observedAt first.observedAt

/-- The distance between a plan and the last one of its expiry. -/
def Apart (settings : ReplanSettings) (tick : Tick) (p plan : ReplanProposal)
    (appliedAt : Instant) : Prop :=
  settings.hardMinimumSeconds ≤ secondsBetween tick.appliedAt appliedAt ∧
    (settings.cooldownSeconds ≤ secondsBetween tick.appliedAt appliedAt ∨
      settings.emergencyPoints ≤ |((p.atmStrike - plan.atmStrike : Int) : ℚ)|)

section

variable {settings : ReplanSettings} {past : History} {c : OptionReplanController} {tick : Tick}
  {p : ReplanProposal}

theorem OptionReplanController.step_decision (settings : ReplanSettings)
    (c : OptionReplanController) (tick : Tick) :
    (c.step settings tick).1 = (c.observe settings tick).1 := by
  rw [step]
  split <;> rfl

theorem Kept.supported (h : Kept settings past c)
    (hp : (c.observe settings tick).1.proposal = some p)
    (hmove : p.reason = .confirmedMove ∨ p.reason = .emergencyMove) :
    Supported settings past tick p := by
  have hnoted := h.noted tick
  have hexit := OptionReplanController.observe_exit settings c tick
  generalize c.noteCandidate tick = noted at hnoted hexit
  generalize (c.observe settings tick).2 = observed at hexit
  cases hexit with
  | backingOff _ hd => cases hd.symm.trans hp
  | strikeless _ hd => cases hd.symm.trans hp
  | cleared hd => cases hd.symm.trans hp
  | counted _ _ _ _ _ hd => cases hd.symm.trans hp
  | atOnce _ _ hreason _ hd =>
    obtain rfl := Option.some.inj (hp.symm.trans hd)
    rcases hmove with hmove | hmove <;> rcases hreason with hreason | hreason <;>
      cases hmove.symm.trans hreason
  | moved _ haccepted hplanned hstrike hbands _ hcount hspan hatm hsource hexpiry hd =>
    obtain rfl := Option.some.inj (hp.symm.trans hd)
    obtain ⟨-, hnamed, accepted, expiry, source, first, seen, ha, he, hs, hfirst, hlast, hlen,
      hbacked⟩ := PendingBacked.count hnoted.backed haccepted hplanned hstrike hbands
    rcases hnoted.accepted with ⟨-, hnone, -⟩ | ⟨plan, at', hlastApplied, hplan, -, -⟩
    · rw [hnone] at haccepted
      cases haccepted
    rw [OptionReplanController.countPending_acceptedAtm, hplan] at ha
    rw [OptionReplanController.countPending_acceptedExpiry, hplanned] at he
    obtain rfl := Option.some.inj ha
    obtain rfl := Option.some.inj he
    obtain rfl := Option.some.inj (hnamed.symm.trans hs)
    refine ⟨plan, at', first, seen, hlastApplied, ?_, ?_, ?_⟩
    · rw [hatm, hsource, hexpiry]
      exact hbacked
    · rw [hlen] at hcount
      exact hcount
    · rw [pendingSpan, hfirst, hlast] at hspan
      exact hspan

theorem Kept.apart {plan : ReplanProposal} {at' : Instant} (h : Kept settings past c)
    (hp : (c.observe settings tick).1.proposal = some p)
    (hlast : lastApplied past = some (plan, at')) (hsame : plan.expiry = p.expiry) :
    Apart settings tick p plan at' := by
  have hnoted := h.noted tick
  have hexit := OptionReplanController.observe_exit settings c tick
  generalize c.noteCandidate tick = noted at hnoted hexit
  generalize (c.observe settings tick).2 = observed at hexit
  obtain ⟨hatm, hexpiry, happlied⟩ : noted.acceptedAtm = some plan.atmStrike ∧
      noted.acceptedExpiry = some plan.expiry ∧ noted.lastAppliedAt = some at' := by
    rcases hnoted.accepted with ⟨hnone, -⟩ | ⟨plan', at'', hsome, ha, he, hl⟩
    · cases hlast.symm.trans hnone
    · cases hlast.symm.trans hsome
      exact ⟨ha, he, hl⟩
  have hlater : secondsBetween tick.decisionAt at' ≤ secondsBetween tick.appliedAt at' :=
    secondsBetween_le_iff.mpr tick.after_decision
  cases hexit with
  | backingOff _ hd => cases hd.symm.trans hp
  | strikeless _ hd => cases hd.symm.trans hp
  | cleared hd => cases hd.symm.trans hp
  | counted _ _ _ _ _ hd => cases hd.symm.trans hp
  | atOnce _ hother _ hnamed hd =>
    obtain rfl := Option.some.inj (hp.symm.trans hd)
    rcases hother with hnone | hother
    · cases hnone.symm.trans hatm
    · rw [hexpiry, hsame, hnamed] at hother
      exact absurd rfl hother
  | moved _ haccepted _ _ _ hpaced _ _ hstrike _ _ hd =>
    obtain rfl := Option.some.inj (hp.symm.trans hd)
    rw [Option.some.inj (haccepted.symm.trans hatm), ← hstrike] at hpaced
    cases hreason : p.reason with
    | emergencyMove =>
      rw [hreason] at hpaced
      exact ⟨(hpaced.2 at' happlied).trans hlater, .inr hpaced.1⟩
    | confirmedMove =>
      rw [hreason] at hpaced
      have hwaited := (hpaced at' happlied).trans hlater
      exact ⟨settings.hard_le_cooldown.trans hwaited, .inl hwaited⟩
    | failureBackoff | initialReferenceMissing | initialPlan | expiryRollover | sourceGrace
    | referenceMissing | insideRearmBand | insideTriggerBand | cooldownActive
    | awaitingConfirmations =>
      rw [hreason] at hpaced
      exact hpaced.elim

theorem Kept.backed_off {failed : ReplanProposal} {failedAt : Instant} (h : Kept settings past c)
    (hp : (c.observe settings tick).1.proposal = some p)
    (hlast : lastResult past = some (failed, false, failedAt)) (hsame : p.expiry = failed.expiry) :
    backoffEnd settings failedAt ≤ tick.decisionAt := by
  have hnoted := h.noted tick
  have hexit := OptionReplanController.observe_exit settings c tick
  generalize c.noteCandidate tick = noted at hnoted hexit
  generalize (c.observe settings tick).2 = observed at hexit
  obtain ⟨huntil, hexpiry⟩ := hnoted.failed failed failedAt hlast
  have hover : ¬noted.backingOff tick → p.expiry = tick.expiry →
      backoffEnd settings failedAt ≤ tick.decisionAt := by
    intro hbacking hnamed
    by_contra hearly
    refine hbacking ⟨_, huntil, not_le.mp hearly, ?_⟩
    rw [hexpiry, ← hsame, hnamed]
  cases hexit with
  | backingOff _ hd => cases hd.symm.trans hp
  | strikeless _ hd => cases hd.symm.trans hp
  | cleared hd => cases hd.symm.trans hp
  | counted _ _ _ _ _ hd => cases hd.symm.trans hp
  | atOnce hbacking _ _ hnamed hd =>
    obtain rfl := Option.some.inj (hp.symm.trans hd)
    exact hover hbacking hnamed
  | moved hbacking _ _ _ _ _ _ _ _ _ hnamed hd =>
    obtain rfl := Option.some.inj (hp.symm.trans hd)
    exact hover hbacking hnamed

end

/-! ## Along a run -/

section

variable {settings : ReplanSettings} {evs : History} {c : OptionReplanController}

theorem run_called (hrun : Run (step settings) anyStep {} evs c)
    (hordered : Ordered evs) {past rest : History} {tick : Tick} {d : ReplanDecision}
    (hsplit : evs = past ++ (tick, d) :: rest) :
    ∃ before, Kept settings past before ∧ d = (before.observe settings tick).1 := by
  rw [hsplit] at hrun hordered
  obtain ⟨before, hbefore, -, hd⟩ := hrun.split
  rw [Ordered, map_append, pairwise_append] at hordered
  exact ⟨before, run_kept hbefore hordered.1, hd.trans (before.step_decision settings tick)⟩

theorem lastResult_since {past between : History} {tick : Tick} {d : ReplanDecision}
    {p : ReplanProposal} (hd : d.proposal = some p)
    (hnone : ∀ ev ∈ between, ev.2.proposal = none) :
    lastResult (past ++ (tick, d) :: between) = some (p, tick.success, tick.appliedAt) := by
  have hquiet : between.filterMap resultOf = [] := by
    rw [filterMap_eq_nil_iff]
    intro ev hev
    rw [resultOf, hnone ev hev]
    rfl
  simp [lastResult, filterMap_append, resultOf, hd, hquiet]

theorem first_proposal : ∀ evs : History, (∀ ev ∈ evs, ev.2.proposal = none) ∨
    ∃ before tick d p after, evs = before ++ (tick, d) :: after ∧ d.proposal = some p ∧
      ∀ ev ∈ before, ev.2.proposal = none
  | [] => by
      left
      simp
  | (tick, d) :: rest => by
      cases hd : d.proposal with
      | some p => exact .inr ⟨[], tick, d, p, rest, rfl, hd, by simp⟩
      | none =>
        rcases first_proposal rest with hnone | ⟨before, t, e, p, after, rfl, he, hbefore⟩
        · left
          simpa [hd] using hnone
        · right
          refine ⟨(tick, d) :: before, t, e, p, after, rfl, he, ?_⟩
          simpa [hd] using hbefore

/-- No plan of an expiry before its failure has been waited out, unless another expiry had a result
in between. -/
theorem run_backed_off (hrun : Run (step settings) anyStep {} evs c)
    (hordered : Ordered evs) {past between rest : History} {failing tick : Tick}
    {d d' : ReplanDecision} {failed p : ReplanProposal}
    (hsplit : evs = past ++ (failing, d) :: (between ++ (tick, d') :: rest))
    (hd : d.proposal = some failed) (hfailed : failing.success = false)
    (hd' : d'.proposal = some p) (hsame : p.expiry = failed.expiry)
    (hbetween : ∀ ev ∈ between, ∀ other, ev.2.proposal = some other →
      other.expiry = failed.expiry) : backoffEnd settings failing.appliedAt ≤ tick.decisionAt := by
  -- the first proposal after the failure is of this expiry, and it was answered under the backoff
  have hfirst : ∀ (quiet later : History) {t : Tick} {e : ReplanDecision} {q : ReplanProposal},
      evs = (past ++ (failing, d) :: quiet) ++ (t, e) :: later →
      (∀ ev ∈ quiet, ev.2.proposal = none) → e.proposal = some q → q.expiry = failed.expiry →
      backoffEnd settings failing.appliedAt ≤ t.decisionAt := by
    intro quiet later t e q heq hquiet he hq
    obtain ⟨before, hkept, rfl⟩ := run_called hrun hordered heq
    refine hkept.backed_off he ?_ hq
    rw [lastResult_since hd hquiet, hfailed]
  rcases first_proposal between with hnone | ⟨quiet, t, e, q, later, rfl, he, hquiet⟩
  · refine hfirst between rest ?_ hnone hd' hsame
    rw [hsplit, append_assoc, cons_append]
  · have hq : q.expiry = failed.expiry := hbetween (t, e) (by simp) q he
    have hreach : backoffEnd settings failing.appliedAt ≤ t.decisionAt := by
      refine hfirst quiet (later ++ (tick, d') :: rest) ?_ hquiet he hq
      rw [hsplit]
      simp
    rw [hsplit] at hordered
    have hle : t.decisionAt ≤ tick.decisionAt := by
      rw [Ordered, map_append, pairwise_append] at hordered
      have htail := (pairwise_cons.mp hordered.2.1).2
      rw [map_append, pairwise_append] at htail
      exact htail.2.2 t.decisionAt (by simp) tick.decisionAt (by simp)
    exact hreach.trans hle

/-- **Replans are confirmed and rate limited.** A move is proposed only with its calls behind it;
two plans of one expiry, with no plan of another applied in between, keep their distance; and a
failed expiry is left alone until its backoff ends, unless another expiry had a result meanwhile. -/
theorem replans_confirmed_and_paced
    (hrun : Run (step settings) anyStep {} evs c) (hordered : Ordered evs) :
    (∀ past tick d rest p, evs = past ++ (tick, d) :: rest → d.proposal = some p →
      p.reason = .confirmedMove ∨ p.reason = .emergencyMove → Supported settings past tick p) ∧
    (∀ past tick d rest p plan appliedAt, evs = past ++ (tick, d) :: rest →
      d.proposal = some p → tick.success = true → lastApplied past = some (plan, appliedAt) →
      plan.expiry = p.expiry → Apart settings tick p plan appliedAt) ∧
    (∀ past failing d between tick d' rest failed p,
      evs = past ++ (failing, d) :: (between ++ (tick, d') :: rest) →
      d.proposal = some failed → failing.success = false → d'.proposal = some p →
      p.expiry = failed.expiry →
      (∀ ev ∈ between, ∀ other, ev.2.proposal = some other → other.expiry = failed.expiry) →
      backoffEnd settings failing.appliedAt ≤ tick.decisionAt) := by
  refine ⟨?_, ?_, ?_⟩
  · intro past tick d rest p hsplit hp hmove
    obtain ⟨before, hkept, rfl⟩ := run_called hrun hordered hsplit
    exact hkept.supported hp hmove
  · intro past tick d rest p plan appliedAt hsplit hp _ hlast hsame
    obtain ⟨before, hkept, rfl⟩ := run_called hrun hordered hsplit
    exact hkept.apart hp hlast hsame
  · intro past failing d between tick d' rest failed p hsplit hd hfailed hd' hsame hbetween
    exact run_backed_off hrun hordered hsplit hd hfailed hd' hsame hbetween

end

/-! ## Runs by hand -/

/-- A call at a second of the day; its result is recorded at once. -/
def callAt (atmStrike : Option Int) (source expiry : String) (seconds : Int)
    (success : Bool := true) : Tick where
  atmStrike
  source := some source.toList
  observedAt := seconds * 1000000
  expiry := expiry.toList
  decisionAt := seconds * 1000000
  success
  appliedAt := seconds * 1000000
  after_decision := le_refl _

/-- The events of some calls, from a controller that has planned nothing. -/
def calls (ticks : List Tick) : History := (play (step {}) {} ticks).1

/-- The first plan, and a move that is seen three times. -/
def steadyMove : List Tick :=
  [callAt (some 5000) "es" "today" 0, callAt (some 5020) "es" "today" 130,
    callAt (some 5020) "es" "today" 138, callAt (some 5020) "es" "today" 146]

theorem steadyMove_supported : ∃ d p, calls steadyMove =
        (calls steadyMove).take 3 ++ [(callAt (some 5020) "es" "today" 146, d)] ∧
      d.proposal = some p ∧
      Supported {} ((calls steadyMove).take 3) (callAt (some 5020) "es" "today" 146) p := by
  have hrun : Run (step {}) anyStep {} (calls steadyMove) _ :=
    run_play _ _ _
  have hsplit : calls steadyMove = (calls steadyMove).take 3 ++
      [(callAt (some 5020) "es" "today" 146,
        ⟨some ⟨5020, "es".toList, "today".toList, 146000000, .confirmedMove, 3⟩, .pending,
          .confirmedMove, 3⟩)] := by
    decide +kernel
  refine ⟨_, _, hsplit, rfl, ?_⟩
  refine (replans_confirmed_and_paced hrun (by decide +kernel)).1 _ _ _ [] _ hsplit rfl (.inl rfl)

/-! Three histories at the default settings: a failed expiry planned again two seconds later, a plan
of an expiry three seconds after its last one, and a call without a strike from another source. -/

def interleavedExpiries : List Tick :=
  [callAt (some 5000) "es" "today" 0 false, callAt (some 5000) "es" "next" 1,
    callAt (some 5000) "es" "today" 2, callAt (some 5000) "es" "next" 3]

def strikelessBetween : List Tick :=
  [callAt (some 5000) "es" "today" 0, callAt (some 5050) "es" "today" 130,
    callAt none "spx" "today" 131, callAt (some 5050) "es" "today" 145]

theorem other_expiry_ends_backoff : (Ordered (calls interleavedExpiries) ∧
      (calls interleavedExpiries).map (fun ev => (resultOf ev).map fun r => (r.1.expiry, r.2)) =
        [some ("today".toList, false, 0), some ("next".toList, true, 1000000),
          some ("today".toList, true, 2000000), some ("next".toList, true, 3000000)] ∧
      (2000000 : Instant) < backoffEnd {} 0 ∧
      secondsBetween 3000000 1000000 < ({} : ReplanSettings).hardMinimumSeconds) ∧
    (Ordered (calls strikelessBetween) ∧
      sinceResult ((calls strikelessBetween).take 3) =
        [callAt (some 5050) "es" "today" 130, callAt none "spx" "today" 131] ∧
      ((calls strikelessBetween)[3]?.bind fun ev => ev.2.proposal).map
          (fun p => (p.atmStrike, p.source, p.reason)) =
        some (5050, "es".toList, .emergencyMove) ∧
      ReplanReason.requiredCount {} .emergencyMove = 2) := by
  decide +kernel

end SpxSpark.Ibkr.Replan
