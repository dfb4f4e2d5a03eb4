import Mathlib.Data.List.Infix
import SpxSpark.OrderMap.LevelEvidence

/-!
# LevelConfirmation — nothing is confirmed without its evidence

The phases with a thesis, one lemma each, and the run lemma they add up to: in every run with times
in order, the ticks of an event that is confirmed contain the start of its thesis, its acceptance,
its extension or retest and its final stretch, in that order, and nothing that refutes it.
-/

namespace SpxSpark.OrderMap

open Lib List

section Steps

variable {settings : LevelDecisionSettings} {ts : List Tick} {o : LevelObservation} {spot es : ℚ}
  {e : LevelEvent}

/-! ## Phases with a thesis -/

theorem phaseAge_eq {now : Instant} (h : e.phaseAt ≤ now) :
    phaseAge e now = secondsBetween now e.phaseAt := by
  refine max_eq_left ?_
  have hdiff : (0 : ℚ) ≤ ((now - e.phaseAt : Int) : ℚ) := Int.cast_nonneg (Int.sub_nonneg_of_le h)
  exact div_nonneg hdiff (by norm_num)

variable {after : List Tick} {start : Tick}

theorem Begun.start_mem {thesis : LevelThesis} (h : Begun settings thesis ts start after) :
    start ∈ ts := by
  obtain ⟨a, rfl, _⟩ := h.before
  simp

/-- The tick of the observation does not refute the thesis. -/
def Unrefuted (settings : LevelDecisionSettings) (spot : ℚ) (e : LevelEvent) : Prop :=
  -settings.breakBufferPoints < desiredMove e spot

variable {e' : LevelEvent}

theorem Unrefuted.keeps (h : Unrefuted settings spot e) (hgood : Good o spot es)
    {thesis : LevelThesis} (hthesis : e.thesis = thesis)
    (hmove : outsideMove e' spot = outsideMove e spot) :
    (tickOf settings o e').Keeps fun m => -settings.breakBufferPoints < push thesis m := by
  rw [tickOf_keeps hgood, hmove, ← hthesis, ← desiredMove_eq]
  exact h

theorem Unrefuted.begun (h : Unrefuted settings spot e) (hgood : Good o spot es)
    {thesis : LevelThesis} (hthesis : e.thesis = thesis)
    (hbegun : Begun settings thesis ts start after) (e' : LevelEvent)
    (hmove : outsideMove e' spot = outsideMove e spot) :
    Begun settings thesis (ts ++ [tickOf settings o e']) start (after ++ [tickOf settings o e']) :=
  hbegun.append _ (h.keeps hgood hthesis hmove)

theorem tickOf_pushes (hgood : Good o spot es) {thesis : LevelThesis} {c : ℚ}
    (hthesis : e.thesis = thesis) (hmove : outsideMove e' spot = outsideMove e spot)
    (h : c ≤ desiredMove e spot) : (tickOf settings o e').Shows fun m => c ≤ push thesis m := by
  rw [tickOf_shows hgood, hmove, ← hthesis, ← desiredMove_eq]
  exact h

section

variable (h : Supported settings ts e)

include h

theorem justified_pending (hgood : Good o spot es)
    (hphase : e.phase = .breakPending ∨ e.phase = .rejectPending)
    (hopen : Unrefuted settings spot e) (htimes : ∀ x ∈ ts, x.at' ≤ o.at') :
    Justified settings ts o e (advancePending e o spot es settings) := by
  have hevidence := h.phase
  unfold advancePending
  rcases hphase with hphase | hphase
  · simp only [PhaseEvidence, hphase] at hevidence
    obtain ⟨hthesis, hext, hstarted, start, after, hbegun, hat⟩ := hevidence
    have hage : phaseAge e o.at' = secondsBetween o.at' start.at' := by
      rw [phaseAge_eq (hat ▸ htimes start hbegun.start_mem), hat]
    split
    · rename_i haccept
      rw [hage, pendingThreshold, if_pos hphase] at haccept
      rintro e' ⟨⟩
      have htarget : pendingTarget e = .accepted := by rw [pendingTarget, if_pos hphase]
      refine ⟨h.next _ rfl rfl (by simp [htarget]) (by simp [htarget]) ?_, by simp [htarget]⟩
      simp only [PhaseEvidence, htarget]
      refine ⟨hthesis, start, _, _, [], hopen.begun hgood hthesis hbegun _ rfl,
        ⟨⟨after, rfl⟩, ?_, haccept.2.1, ?_⟩, ?_, fun _ => hstarted⟩
      · exact tickOf_pushes hgood hthesis rfl haccept.1
      · rw [tickOf_confirms hgood]
        exact haccept.2.2
      · intro hsome
        refine ⟨[], ⟨[], _, rfl, ?_⟩, by simp [NoRetest], fun started hs => ?_⟩
        · have hfar : settings.extensionPoints < desiredMove e spot := by
            by_contra hnear
            rw [acceptThesis, if_neg (fun h => hnear h.2), hext] at hsome
            cases hsome
          rw [desiredMove_eq, hthesis] at hfar
          exact (tickOf_shows hgood _ _).mpr hfar
        · exact absurd (hstarted.symm.trans hs) (by simp)
    · refine justified_same h rfl rfl ?_
      simp only [PhaseEvidence, hphase]
      exact ⟨hthesis, hext, hstarted, start, _, hopen.begun hgood hthesis hbegun _ rfl, hat⟩
  · simp only [PhaseEvidence, hphase] at hevidence
    obtain ⟨hthesis, start, after, hbegun, hat⟩ := hevidence
    have hage : phaseAge e o.at' = secondsBetween o.at' start.at' := by
      rw [phaseAge_eq (hat ▸ htimes start hbegun.start_mem), hat]
    split
    · rename_i haccept
      rw [hage, pendingThreshold, if_neg (by simp [hphase])] at haccept
      rintro e' ⟨⟩
      have htarget : pendingTarget e = .rejected := by rw [pendingTarget, if_neg (by simp [hphase])]
      refine ⟨h.next _ rfl rfl (by simp [htarget]) (by simp [htarget]) ?_, by simp [htarget]⟩
      simp only [PhaseEvidence, htarget]
      refine ⟨hthesis, start, _, _, [], hopen.begun hgood hthesis hbegun _ rfl,
        ⟨⟨after, rfl⟩, ?_, haccept.2.1, ?_⟩, rfl, by simp [NoRetest]⟩
      · exact tickOf_pushes hgood hthesis rfl haccept.1
      · rw [tickOf_confirms hgood]
        exact haccept.2.2
    · refine justified_same h rfl rfl ?_
      simp only [PhaseEvidence, hphase]
      exact ⟨hthesis, start, _, hopen.begun hgood hthesis hbegun _ rfl, hat⟩

omit h in
theorem PhaseEvidence.enterRetest {x : Tick} {thesis : LevelThesis} {acc : Tick}
    {since q : List Tick} (hphase : e'.phase = .retest) (hstarted : e'.confirmStartedAt = none)
    (heq : e'.thesis = thesis) (hthesis : thesis = .breakout ∨ thesis = .fade)
    (hbegun : Begun settings thesis (ts ++ [x]) start (after ++ [x]))
    (hacc : AcceptedAt settings thesis start after acc since)
    (hext : thesis = .breakout → Extended settings (acc :: since) q)
    (hfade : thesis = .fade → q = since) (hx : x.Shows fun m => |m| ≤ settings.retestPoints) :
    PhaseEvidence settings (ts ++ [x]) e' := by
  subst heq
  simp only [PhaseEvidence, hphase]
  refine ⟨hthesis, start, _, acc, _, q ++ [x], [], hbegun, hacc.append x,
    fun hb => (hext hb).append x, fun hf => by rw [hfade hf], ⟨q, x, rfl, hx⟩, ?_⟩
  intro started hs
  rw [hstarted] at hs
  cases hs

theorem justified_accepted (hgood : Good o spot es)
    (hphase : e.phase = .accepted) (hopen : Unrefuted settings spot e) :
    Justified settings ts o e (advanceAccepted e o spot es settings) := by
  have hevidence := h.phase
  simp only [PhaseEvidence, hphase] at hevidence
  obtain ⟨hthesis, start, after, acc, since, hbegun, hacc, hext, hnone⟩ := hevidence
  have hbegun' := hopen.begun hgood hthesis hbegun
  unfold advanceAccepted
  split
  · rename_i hcase
    have hunseen : e.breakoutExtensionSeen.isSome = false := by simpa using hcase.2
    split
    · -- The extension is latched at this tick.
      rename_i hfar
      rintro e' ⟨⟩
      refine ⟨h.next _ rfl rfl (by simp [hphase]) (by simp [hphase]) ?_, by simp [hphase]⟩
      simp only [PhaseEvidence, hphase]
      refine ⟨hthesis, start, _, acc, _, hbegun' _ rfl, hacc.append _, fun _ => ?_, (by simp)⟩
      refine ⟨[], ⟨acc :: since, _, rfl, ?_⟩, by simp [NoRetest], fun started hs => ?_⟩
      · rw [desiredMove_eq, hthesis] at hfar
        exact (tickOf_shows hgood _ _).mpr hfar
      · exact absurd ((hnone hunseen).symm.trans hs) (by simp)
    · refine justified_same h rfl rfl ?_
      simp only [PhaseEvidence, hphase]
      exact ⟨hthesis, start, _, acc, _, hbegun' _ rfl, hacc.append _,
        fun hsome => by simp [hunseen] at hsome, hnone⟩
  rename_i hcase
  have hseen : e.breakoutExtensionSeen.isSome := by
    simpa [hthesis, Option.isSome_iff_ne_none] using hcase
  obtain ⟨q, hq, hno, hholding⟩ := hext hseen
  split
  · rename_i hback
    rintro e' ⟨⟩
    refine ⟨h.next _ rfl rfl (by simp) (by simp) ?_, (by simp)⟩
    refine .enterRetest rfl rfl hthesis (.inl rfl) (hbegun' _ rfl) hacc (fun _ => hq) (by simp) ?_
    rw [tickOf_shows hgood]
    exact (h.abs_move spot).le.trans hback
  rename_i haway
  have hx : ∀ e', outsideMove e' spot = outsideMove e spot →
      NoRetest settings (q ++ [tickOf settings o e']) := by
    intro e' hmove
    refine hno.append _ ((tickOf_keeps hgood _ _).mpr ?_)
    rw [hmove, h.abs_move spot]
    exact not_le.mp haway
  split
  · rintro e' ⟨⟩
    refine ⟨h.next _ rfl rfl (by simp [hphase]) (by simp [hphase]) ?_, by simp [hphase]⟩
    simp only [PhaseEvidence, hphase]
    exact ⟨hthesis, start, _, acc, _, hbegun' _ rfl, hacc.append _,
      fun _ => ⟨_, hq.append _, hx _ rfl, (by simp)⟩, fun _ => trivial⟩
  rename_i hfar
  have hfar : settings.confirmMovePoints ≤ desiredMove e spot := not_lt.mp hfar
  split
  · -- The stretch starts at this tick.
    rintro e' ⟨⟩
    refine ⟨h.next _ rfl rfl (by simp [hphase]) (by simp [hphase]) ?_, by simp [hphase]⟩
    simp only [PhaseEvidence, hphase]
    refine ⟨hthesis, start, _, acc, _, hbegun' _ rfl, hacc.append _,
      fun _ => ⟨_, hq.append _, hx _ rfl, ?_⟩, fun hunseen => by simp [hseen] at hunseen⟩
    rintro started ⟨⟩
    exact .of_shows _ (tickOf_pushes hgood hthesis rfl hfar)
  rename_i started hstarted
  split
  · rename_i hconfirm
    rintro e' ⟨⟩
    refine ⟨h.next _ rfl rfl (by simp) (by simp) trivial, fun _ _ => .inl ⟨hthesis, ?_⟩⟩
    refine ⟨start, _, acc, _, _, hbegun' _ rfl, hacc.append _, hq.append _, .inr ⟨hx _ rfl, ?_⟩⟩
    refine (hholding started hstarted).held _ (tickOf_pushes hgood hthesis rfl hfar) hconfirm.1 ?_
    rw [tickOf_confirms hgood]
    exact hconfirm.2
  · refine justified_same h rfl rfl ?_
    simp only [PhaseEvidence, hphase]
    refine ⟨hthesis, start, _, acc, _, hbegun' _ rfl, hacc.append _,
      fun _ => ⟨_, hq.append _, hx _ rfl, fun τ hτ => ?_⟩, hnone⟩
    exact (hholding τ hτ).append _ ((tickOf_keeps hgood _ _).mpr (by
      rw [desiredMove_eq, hthesis] at hfar
      exact hfar))

theorem justified_rejected (hgood : Good o spot es)
    (hphase : e.phase = .rejected) (hopen : Unrefuted settings spot e)
    (htimes : ∀ x ∈ ts, x.at' ≤ o.at') :
    Justified settings ts o e (advanceAccepted e o spot es settings) := by
  have hevidence := h.phase
  simp only [PhaseEvidence, hphase] at hevidence
  obtain ⟨hthesis, start, after, acc, since, hbegun, hacc, hat, hno⟩ := hevidence
  have hbegun' := hopen.begun hgood hthesis hbegun
  have hnotBreakout : e.thesis ≠ .breakout := by simp [hthesis]
  unfold advanceAccepted
  rw [if_neg (fun hcase => hnotBreakout hcase.1)]
  split
  · rename_i hback
    rintro e' ⟨⟩
    refine ⟨h.next _ rfl rfl (by simp) (by simp) ?_, (by simp)⟩
    refine .enterRetest rfl rfl hthesis (.inr rfl) (hbegun' _ rfl) hacc (by simp) (fun _ => rfl) ?_
    rw [tickOf_shows hgood]
    exact (h.abs_move spot).le.trans hback
  rename_i haway
  have hx : ∀ e', outsideMove e' spot = outsideMove e spot →
      NoRetest settings (since ++ [tickOf settings o e']) := by
    intro e' hmove
    refine hno.append _ ((tickOf_keeps hgood _ _).mpr ?_)
    rw [hmove, h.abs_move spot]
    exact not_le.mp haway
  split
  · rename_i hconfirm
    have hage : phaseAge e o.at' = secondsBetween o.at' acc.at' := by
      have hmem : acc ∈ ts := by
        obtain ⟨a, rfl, _⟩ := hbegun.before
        obtain ⟨b, rfl⟩ := hacc.split
        simp
      rw [phaseAge_eq (hat ▸ htimes acc hmem), hat]
    rw [hage] at hconfirm
    rintro e' ⟨⟩
    refine ⟨h.next _ rfl rfl (by simp) (by simp) trivial, fun _ _ => .inr ⟨hthesis, ?_⟩⟩
    refine ⟨start, _, acc, _, hbegun' _ rfl, hacc.append _, .inr ⟨hx _ rfl, since, _, rfl,
      tickOf_pushes hgood hthesis rfl hconfirm.1, hconfirm.2.1, ?_⟩⟩
    rw [tickOf_confirms hgood]
    exact hconfirm.2.2
  · refine justified_same h rfl rfl ?_
    simp only [PhaseEvidence, hphase]
    exact ⟨hthesis, start, _, acc, _, hbegun' _ rfl, hacc.append _, hat, hx _ rfl⟩

omit h in
theorem ConfirmedEvidence.of_retest {thesis : LevelThesis} {acc : Tick} {since q w : List Tick}
    (heq : e'.thesis = thesis) (hthesis : thesis = .breakout ∨ thesis = .fade)
    (hbegun : Begun settings thesis ts start after)
    (hacc : AcceptedAt settings thesis start after acc since)
    (hext : thesis = .breakout → Extended settings (acc :: since) q)
    (hfade : thesis = .fade → q = since) (hretest : Retested settings q w)
    (hheld : Held settings thesis w) : ConfirmedEvidence settings ts e' := by
  rcases hthesis with rfl | rfl
  · exact .inl ⟨heq, start, after, acc, since, q, hbegun, hacc, hext rfl, .inl ⟨w, hretest, hheld⟩⟩
  · exact .inr ⟨heq, start, after, acc, since, hbegun, hacc,
      .inl ⟨w, hfade rfl ▸ hretest, hheld⟩⟩

theorem justified_retest (hgood : Good o spot es)
    (hphase : e.phase = .retest) (hopen : Unrefuted settings spot e) :
    Justified settings ts o e (advanceRetest e o spot es settings) := by
  have hevidence := h.phase
  simp only [PhaseEvidence, hphase] at hevidence
  obtain ⟨hthesis, start, after, acc, since, q, w, hbegun, hacc, hext, hfade, hretest, hholding⟩ :=
    hevidence
  have hbegun' := hopen.begun hgood rfl hbegun
  unfold advanceRetest
  split
  · rintro e' ⟨⟩
    refine ⟨h.next _ rfl rfl (by simp [hphase]) (by simp [hphase]) ?_, by simp [hphase]⟩
    simp only [PhaseEvidence, hphase]
    exact ⟨hthesis, start, _, acc, _, _, _, hbegun' _ rfl, hacc.append _,
      fun hb => (hext hb).append _, fun hf => by rw [hfade hf], hretest.append _, (by simp)⟩
  rename_i hfar
  have hfar : settings.confirmMovePoints ≤ desiredMove e spot := not_lt.mp hfar
  split
  · rintro e' ⟨⟩
    refine ⟨h.next _ rfl rfl (by simp [hphase]) (by simp [hphase]) ?_, by simp [hphase]⟩
    simp only [PhaseEvidence, hphase]
    refine ⟨hthesis, start, _, acc, _, _, _, hbegun' _ rfl, hacc.append _,
      fun hb => (hext hb).append _, fun hf => by rw [hfade hf], hretest.append _, ?_⟩
    rintro started ⟨⟩
    exact .of_shows _ (tickOf_pushes hgood rfl rfl hfar)
  rename_i started hstarted
  split
  · rename_i hconfirm
    rintro e' ⟨⟩
    refine ⟨h.next _ rfl rfl (by simp) (by simp) trivial, fun _ _ => ?_⟩
    refine .of_retest rfl hthesis (hbegun' _ rfl) (hacc.append _) (fun hb => (hext hb).append _)
      (fun hf => by rw [hfade hf]) (hretest.append _) ?_
    refine (hholding started hstarted).held _ (tickOf_pushes hgood rfl rfl hfar) hconfirm.1 ?_
    rw [tickOf_confirms hgood]
    exact hconfirm.2
  · refine justified_same h rfl rfl ?_
    simp only [PhaseEvidence, hphase]
    refine ⟨hthesis, start, _, acc, _, _, _, hbegun' _ rfl, hacc.append _,
      fun hb => (hext hb).append _, fun hf => by rw [hfade hf], hretest.append _, fun τ hτ => ?_⟩
    exact (hholding τ hτ).append _ ((tickOf_keeps hgood _ _).mpr (by
      rw [desiredMove_eq] at hfar
      exact hfar))

omit h in
theorem PhaseEvidence.idle (h : PhaseEvidence settings ts e) (hphase : e.phase.timesOut = false)
    (x : Tick) : PhaseEvidence settings (ts ++ [x]) e := by
  unfold PhaseEvidence at h ⊢
  split <;> rename_i hcase
  all_goals try simp only [hcase] at h
  · obtain ⟨y, hy, hm⟩ := h
    exact ⟨y, mem_append_left _ hy, hm⟩
  · simp [hcase, LevelPhase.timesOut] at hphase
  · simp [hcase, LevelPhase.timesOut] at hphase
  · simp [hcase, LevelPhase.timesOut] at hphase
  · simp [hcase, LevelPhase.timesOut] at hphase
  · simp [hcase, LevelPhase.timesOut] at hphase
  · trivial

variable {t : LevelTransition}

omit h in
theorem Justified.congr {e₁ : LevelEvent} (h : Justified settings ts o e₁ t)
    (hphase : e₁.phase = e.phase) : Justified settings ts o e t :=
  fun e' he' => ⟨(h e' he').1, fun hnew hold => (h e' he').2 hnew (hphase ▸ hold)⟩

theorem justified_thesis (hgood : Good o spot es)
    (htimes : ∀ x ∈ ts, x.at' ≤ o.at') :
    Justified settings ts o e (advanceThesis e o spot es settings) := by
  unfold advanceThesis
  split
  · exact justified_ended h rfl rfl rfl rfl
  rename_i hopen
  have hopen : Unrefuted settings spot e := not_le.mp hopen
  split
  · exact justified_ended h rfl rfl rfl rfl
  split
  · exact justified_pending h hgood (.inl ‹_›) hopen htimes
  · exact justified_pending h hgood (.inr ‹_›) hopen htimes
  · exact justified_accepted h hgood ‹_› hopen
  · exact justified_rejected h hgood ‹_› hopen htimes
  · exact justified_retest h hgood ‹_› hopen
  · refine justified_same h rfl rfl (h.phase.idle ?_ _)
    cases hphase : e.phase <;> simp_all [LevelPhase.timesOut]

theorem justified_live (hgood : Good o spot es)
    (hbuffer : 0 < settings.breakBufferPoints) (htimes : ∀ x ∈ ts, x.at' ≤ o.at') :
    Justified settings ts o e (advanceLive e o spot es settings) := by
  have hlatched := latchBreakoutInsideEvidence_phase e o.at' spot
  unfold advanceLive
  split
  · exact justified_ended h rfl rfl rfl rfl
  split
  · exact justified_ended h rfl rfl rfl rfl
  split
  · rename_i hphase
    exact (justified_approaching (h.untested (.inl hphase) o.at') hgood
      (hlatched.trans hphase)).congr hlatched
  · rename_i hphase
    have htested := h.phase
    simp only [PhaseEvidence, hphase] at htested
    exact (justified_testing (h.untested (.inr hphase) o.at') hgood hbuffer
      (hlatched.trans hphase) htested).congr hlatched
  · exact justified_thesis h hgood htimes

theorem justified_active (hgood : Good o spot es)
    (hbuffer : 0 < settings.breakBufferPoints) (htimes : ∀ x ∈ ts, x.at' ≤ o.at') :
    Justified settings ts o e (advanceActive e o spot es settings) := by
  unfold advanceActive
  dsimp only
  split
  · split
    · exact justified_ended h rfl rfl rfl rfl
    split
    · split
      · refine Justified.congr (justified_live (h.congr ?_) hgood hbuffer htimes) ?_
        · rfl
        · rfl
      · exact justified_live h hgood hbuffer htimes
    rename_i hpending
    split
    · exact justified_same h rfl rfl (h.phase.idle (by simpa using hpending) _)
    · exact justified_ended h rfl rfl rfl rfl
  · exact justified_live h hgood hbuffer htimes

omit h in
/-- Popping the quality keys and the upgrade leave the evidence alone. -/
theorem latches_settleEvent (e : LevelEvent) (o : LevelObservation) :
    latches (settleEvent e o) = latches e := by
  unfold settleEvent
  dsimp only
  split
  · simp [latches, upgradeRthTriggerCoordinate]
  · rfl

theorem justified_event (hgood : Good o spot es)
    (hbuffer : 0 < settings.breakBufferPoints) (htimes : ∀ x ∈ ts, x.at' ≤ o.at')
    (hactive : e.phase.terminal = false) :
    Justified settings ts o e (advanceEvent (settleEvent e o) o spot es settings) := by
  have hphase := settleEvent_phase e o
  have hsettled : Supported settings ts (settleEvent e o) := h.congr (latches_settleEvent e o)
  refine Justified.congr ?_ hphase
  unfold advanceEvent
  split
  · exact justified_ended hsettled rfl rfl rfl rfl
  · rw [if_neg (by simp [hphase, hactive])]
    exact justified_active hsettled hgood hbuffer htimes

end

end Steps

/-! ## Runs -/

section Runs

variable {settings : LevelDecisionSettings} {log : Log} {s : Option LevelState}
  {o : LevelObservation} {ts : List Tick}

theorem supported_armed {spot es : ℚ} (hgood : Good o spot es) (generation : ℕ) (kind : LevelKind)
    (level : ℚ) :
    Supported settings [tickOf settings o (armedEvent o spot es settings generation kind level)]
      (armedEvent o spot es settings generation kind level) := by
  have hsign : kind.outsideDirection = 1 ∨ kind.outsideDirection = -1 := by
    cases kind <;> simp [LevelKind.outsideDirection]
  have huntested : Untested [] spot (armedEvent o spot es settings generation kind level) := by
    unfold armedEvent latchBreakoutInsideEvidence
    split
    · rename_i hlatch
      exact ⟨hsign, fun _ => .inr hlatch.2, rfl, rfl⟩
    · exact ⟨hsign, nofun, rfl, rfl⟩
  refine ⟨huntested.sign, huntested.inside_append (tickOf_move hgood _),
    fun _ => huntested.unlatched, ?_⟩
  by_cases htest : |spot - level| ≤ settings.testPoints
  · have hphase := armedEvent_phase o spot es settings generation kind level
    rw [if_pos htest] at hphase
    simp only [PhaseEvidence, hphase]
    refine ⟨_, mem_singleton_self _, (tickOf_shows hgood _ _).mpr ?_⟩
    rw [huntested.abs_move, armedEvent_level]
    exact htest
  · have hphase := armedEvent_phase o spot es settings generation kind level
    rw [if_neg htest] at hphase
    simp only [PhaseEvidence, hphase]

/-- The active event of a state is supported by its ticks. -/
def StateSupported (settings : LevelDecisionSettings) (ts : List Tick) (state : LevelState) :
    Prop :=
  ∀ e, state = .event e → e.phase.terminal = false → Supported settings ts e

theorem justified_step {e : LevelEvent} (hbuffer : 0 < settings.breakBufferPoints)
    (hstart : startState s o = .event e) (hsame : sessionBoundaryChanged (startState s o) o = false)
    (htimes : ∀ x ∈ ts, x.at' ≤ o.at') (hactive : e.phase.terminal = false)
    (h : Supported settings ts e) :
    Justified settings ts o e (advanceLevelDecision s o settings) := by
  unfold advanceLevelDecision
  dsimp only
  rw [hsame, if_neg (by simp), hstart]
  split
  · rename_i spot es hok hspot hes
    exact justified_event h ⟨hok, hspot, hes⟩ hbuffer htimes hactive
  · rename_i hbad
    exact justified_badQuality h fun spot es hgood => hbad spot es hgood.ok hgood.spot hgood.es

/-- What a step must do to the ticks of the event at hand. -/
def StepSupported (settings : LevelDecisionSettings) (ts : List Tick) (o : LevelObservation)
    (t : LevelTransition) : Prop :=
  StateSupported settings (lifeAfter settings ts (o, t)) t.state ∧
    (t.previousPhase ≠ .confirmed → t.currentPhase = .confirmed →
      ∃ e, t.state = .event e ∧ ConfirmedEvidence settings (lifeAfter settings ts (o, t)) e)

theorem stepSupported_inactive (hcur : t.currentPhase = t.state.phase)
    (h : t.state.phase = .far ∨ t.state.phase.terminal) (hwf : t.state.WellFormed) :
    StepSupported settings ts o t := by
  constructor
  · intro e he hactive
    rw [he] at h hwf
    rcases h with h | h
    · exact absurd h hwf
    · rw [LevelState.phase, hactive] at h
      cases h
  · intro _ hconfirmed
    rw [← hcur, hconfirmed] at h
    rcases h with h | h <;> cases h

/-- The step lemma. -/
theorem stepSupported (hbuffer : 0 < settings.breakBufferPoints)
    (hwf : (startState s o).WellFormed) (htimes : ∀ x ∈ ts, x.at' ≤ o.at')
    (h : StateSupported settings ts (startState s o)) :
    StepSupported settings ts o (advanceLevelDecision s o settings) := by
  have hprev := advanceLevelDecision_previousPhase s o settings
  have hcur := advanceLevelDecision_currentPhase s o settings
  have hwf' : (advanceLevelDecision s o settings).state.WellFormed := wellFormed_step hwf
  cases harms : (advanceLevelDecision s o settings).arms with
  | true =>
    obtain ⟨spot, es, kind, level, hgood, hstate⟩ := arms_cases hwf harms
    have hlife : lifeAfter settings ts (o, advanceLevelDecision s o settings) =
        [tickOf settings o
          (armedEvent o spot es settings (startState s o).carried kind level)] := by
      simp [lifeAfter, hstate, harms]
    constructor
    · intro e he _
      rw [hlife]
      obtain rfl := LevelState.event.inj (hstate.symm.trans he)
      exact supported_armed hgood _ kind level
    · intro _ hconfirmed
      simp [LevelTransition.arms, hconfirmed] at harms
  | false =>
    cases hboundary : sessionBoundaryChanged (startState s o) o with
    | true =>
      refine stepSupported_inactive hcur (.inl ?_) hwf'
      rw [advanceLevelDecision_boundary s o settings hboundary]
      rfl
    | false =>
      cases hstart : startState s o with
      | far f =>
        have hout := advanceLevelDecision_outcome s o settings hboundary
        rw [hstart] at hout
        generalize advanceLevelDecision s o settings = t at hout hcur hwf' harms ⊢
        cases hout with
        | idle => exact stepSupported_inactive hcur (.inl rfl) hwf'
        | armed =>
          rw [arms_armedTransition (.inl rfl)] at harms
          cases harms
      | event e =>
        cases hterminal : e.phase.terminal with
        | true =>
          have hout := advanceLevelDecision_outcome s o settings hboundary
          rw [hstart] at hout
          generalize advanceLevelDecision s o settings = t at hout hcur hwf' harms ⊢
          cases hout with
          | carried _ hstays =>
            refine stepSupported_inactive hcur (.inr ?_) hwf'
            rw [← hcur, hstays hterminal, hterminal]
          | withdrawn happroaching =>
            rw [happroaching] at hterminal
            cases hterminal
          | exited => exact stepSupported_inactive hcur (.inl rfl) hwf'
          | rearmed =>
            rw [arms_armedTransition (.inr hterminal)] at harms
            cases harms
        | false =>
          have hjust := justified_step hbuffer hstart hboundary htimes hterminal
            (h e hstart hterminal)
          have hlife : ∀ e', (advanceLevelDecision s o settings).state = .event e' →
              lifeAfter settings ts (o, advanceLevelDecision s o settings) =
                ts ++ [tickOf settings o e'] := by
            intro e' he'
            simp [lifeAfter, he', harms]
          constructor
          · intro e' he' _
            rw [hlife e' he']
            exact (hjust e' he').1
          · intro hbefore hconfirmed
            cases hstate : (advanceLevelDecision s o settings).state with
            | far f =>
              rw [hcur, hstate] at hconfirmed
              cases hconfirmed
            | event e' =>
              refine ⟨e', rfl, ?_⟩
              rw [hlife e' hstate]
              refine (hjust e' hstate).2 ?_ ?_
              · rwa [hcur, hstate] at hconfirmed
              · rwa [hprev, hstart] at hbefore

theorem life_append (settings : LevelDecisionSettings) (log : Log)
    (x : LevelObservation × LevelTransition) :
    life settings (log ++ [x]) = lifeAfter settings (life settings log) x := by
  simp [life]

theorem mem_life (settings : LevelDecisionSettings) (log : Log) :
    ∀ x ∈ life settings log, ∃ y ∈ log, x.at' = y.1.at' := by
  induction log using List.reverseRecOn with
  | nil => exact fun x hx => by cases hx
  | append_singleton log y ih =>
    intro x hx
    have hlast : y ∈ log ++ [y] := mem_append_right _ (mem_singleton_self y)
    rw [life_append, lifeAfter] at hx
    split at hx
    · cases hx
    · split at hx
      · obtain rfl := mem_singleton.mp hx
        exact ⟨y, hlast, rfl⟩
      · rcases mem_append.mp hx with hx | hx
        · obtain ⟨z, hz, hat⟩ := ih x hx
          exact ⟨z, mem_append_left _ hz, hat⟩
        · obtain rfl := mem_singleton.mp hx
          exact ⟨y, hlast, rfl⟩

/-- The observations of a log are in time order. -/
def InOrder (log : Log) : Prop := log.Pairwise fun x y => x.1.at' ≤ y.1.at'

/-- The run lemma. -/
theorem stateSupported_run (hbuffer : 0 < settings.breakBufferPoints)
    (h : LevelRun settings log s) (horder : InOrder log) : ∀ o, (startState s o).WellFormed ∧
      StateSupported settings (life settings log) (startState s o) := by
  refine Run.invariant_met
    (I := fun log s => ∀ o, (startState s o).WellFormed ∧
      StateSupported settings (life settings log) (startState s o))
    (P := fun past o _ => ∀ y ∈ past, y.1.at' ≤ o.at') ?_ ?_ h ?_
  · intro o
    refine ⟨trivial, ?_⟩
    intro e he
    cases he
  · intro log s o hs hbefore _
    refine ⟨wellFormed_step (hs o).1, ?_⟩
    rw [life_append]
    refine (stepSupported hbuffer (hs o).1 ?_ (hs o).2).1
    intro x hx
    obtain ⟨y, hy, hat⟩ := mem_life settings log x hx
    exact hat ▸ hbefore y hy
  · rintro past o t rest rfl y hy
    exact (pairwise_append.mp horder).2.2 y hy _ (mem_cons_self ..)

/-- **Nothing is confirmed without its evidence.** Whenever a run confirms an event, the ticks of
that event contain the whole evidence of its thesis. -/
theorem confirmed_evidence (hbuffer : 0 < settings.breakBufferPoints)
    (h : LevelRun settings log s) (horder : InOrder log) :
    ∀ past o t rest, log = past ++ (o, t) :: rest →
      t.previousPhase ≠ .confirmed → t.currentPhase = .confirmed →
      ∃ e, t.state = .event e ∧
        ConfirmedEvidence settings (life settings (past ++ [(o, t)])) e := by
  rintro past o t rest rfl hbefore hconfirmed
  obtain ⟨s', hpast, _, ht⟩ := h.split
  change t = advanceLevelDecision s' o settings at ht
  subst ht
  obtain ⟨horder', _, hcross⟩ := pairwise_append.mp horder
  obtain ⟨hwf, hsupported⟩ := stateSupported_run hbuffer hpast horder' o
  rw [life_append]
  refine (stepSupported hbuffer hwf ?_ hsupported).2 hbefore hconfirmed
  intro x hx
  obtain ⟨y, hy, hat⟩ := mem_life settings past x hx
  exact hat ▸ hcross y hy _ (mem_cons_self ..)

end Runs

/-! ## A stretch need not be uninterrupted -/

section Stretch

variable (settings : LevelDecisionSettings) (thesis : LevelThesis)

/-- The first and the last tick of a stretch are far enough apart. -/
def spans (stretch : List Tick) : Bool :=
  match stretch.head?, stretch.getLast? with
  | some first, some last => settings.confirmHoldSeconds ≤ secondsBetween last.at' first.at'
  | _, _ => false

/-- All ticks are good and far enough in the direction of the thesis. -/
def unbroken (stretch : List Tick) : Bool :=
  stretch.all fun x => x.move.any fun m => settings.confirmMovePoints ≤ push thesis m

/-- An uninterrupted stretch of good ticks, long and far enough. -/
def Stretch (ts : List Tick) : Prop :=
  ∃ u stretch v, ts = u ++ (stretch ++ v) ∧ unbroken settings thesis stretch ∧
    spans settings stretch

variable {ts : List Tick}

theorem Stretch.prepend (h : Stretch settings thesis ts) (p : List Tick) :
    Stretch settings thesis (p ++ ts) := by
  obtain ⟨u, stretch, v, rfl, hall, hspans⟩ := h
  exact ⟨p ++ u, stretch, v, by simp, hall, hspans⟩

/-- The evidence of a breakout, with an uninterrupted stretch at its end. -/
def StretchBreakoutEvidence (ts : List Tick) : Prop :=
  ∃ start after acc since q, Begun settings .breakout ts start after ∧
    AcceptedAt settings .breakout start after acc since ∧ Extended settings (acc :: since) q ∧
    ((∃ w, Retested settings q w ∧ Stretch settings .breakout w) ∨ Stretch settings .breakout q)

/-- The evidence of a fade, mirrored from that of a breakout. -/
def StretchFadeEvidence (ts : List Tick) : Prop :=
  ∃ start after acc since, Begun settings .fade ts start after ∧
    AcceptedAt settings .fade start after acc since ∧
    ((∃ w, Retested settings since w ∧ Stretch settings .fade w) ∨ Stretch settings .fade since)

/-- Every confirmed event of the log ended in an uninterrupted stretch. -/
def ConfirmedByStretch (log : Log) : Prop :=
  ∀ past o t rest, log = past ++ (o, t) :: rest →
    t.previousPhase ≠ .confirmed → t.currentPhase = .confirmed →
    ∃ e, t.state = .event e ∧
      (e.thesis = .breakout ∧ StretchBreakoutEvidence settings (life settings (past ++ [(o, t)])) ∨
        e.thesis = .fade ∧ StretchFadeEvidence settings (life settings (past ++ [(o, t)])))

variable {settings} {thesis}

theorem StretchBreakoutEvidence.stretch (h : StretchBreakoutEvidence settings ts) :
    Stretch settings .breakout ts := by
  obtain ⟨start, after, acc, since, q, hbegun, hacc, ⟨p, x, hq, _⟩, hend⟩ := h
  obtain ⟨a, rfl, _⟩ := hbegun.before
  obtain ⟨b, rfl⟩ := hacc.split
  rw [hq]
  have hqs : Stretch settings .breakout q := by
    rcases hend with ⟨w, ⟨r, y, rfl, _⟩, hw⟩ | hq
    · exact (hw.prepend _ _ [y]).prepend _ _ r
    · exact hq
  exact (((((hqs.prepend _ _ [x]).prepend _ _ p).prepend _ _ b).prepend _ _ [start]).prepend _ _ a)

theorem StretchFadeEvidence.stretch (h : StretchFadeEvidence settings ts) :
    Stretch settings .fade ts := by
  obtain ⟨start, after, acc, since, hbegun, hacc, hend⟩ := h
  obtain ⟨a, rfl, _⟩ := hbegun.before
  obtain ⟨b, rfl⟩ := hacc.split
  have hsince : Stretch settings .fade since := by
    rcases hend with ⟨w, ⟨r, y, rfl, _⟩, hw⟩ | hs
    · exact (hw.prepend _ _ [y]).prepend _ _ r
    · exact hs
  exact (((hsince.prepend _ _ [acc]).prepend _ _ b).prepend _ _ [start]).prepend _ _ a

def stretches (ts : List Tick) : List (List Tick) := ts.tails.flatMap List.inits

theorem Stretch.mem (h : Stretch settings thesis ts) :
    ∃ stretch ∈ stretches ts, unbroken settings thesis stretch ∧ spans settings stretch := by
  obtain ⟨u, stretch, v, rfl, hall, hspans⟩ := h
  refine ⟨stretch, mem_flatMap.mpr ⟨stretch ++ v, ?_, ?_⟩, hall, hspans⟩
  · simp
  · simp

end Stretch

/-- A breakout whose quotes fail for a moment inside its final stretch. -/
def blinkingBreakout : List LevelObservation :=
  let levels := publish .callWall 100
  [cashTick (seconds 0) 99 5000 levels, cashTick (seconds 1) (207 / 2) 5000 levels,
    cashTick (seconds 22) 105 5001 levels, cashTick (seconds 23) (209 / 2) 5001 levels,
    { cashTick (seconds 28) 0 0 levels with spot := none, es := none, qualityOk := false }]

/-- A fade that comes back towards the level, short of a retest, before it is confirmed. -/
def waveringFade : List LevelObservation :=
  let levels := publish .callWall 100
  [cashTick (seconds 0) 99 5000 levels, cashTick (seconds 1) 93 5000 levels,
    cashTick (seconds 10) (193 / 2) 5000 levels, cashTick (seconds 22) 92 4999 levels,
    cashTick (seconds 25) 97 4999 levels]

def breakoutConfirmed : LevelObservation :=
  cashTick (seconds 34) (209 / 2) 5001 (publish .callWall 100)

def fadeConfirmed : LevelObservation := cashTick (seconds 33) 92 4999 (publish .callWall 100)

theorem not_confirmedByStretch {settings : LevelDecisionSettings} {past : Log}
    {o : LevelObservation} (hbefore : t.previousPhase ≠ .confirmed)
    (hconfirmed : t.currentPhase = .confirmed)
    (hnone : ∀ thesis, ∀ stretch ∈ stretches (life settings (past ++ [(o, t)])),
      (unbroken settings thesis stretch && spans settings stretch) = false) :
    ¬ConfirmedByStretch settings (past ++ [(o, t)]) := by
  intro hlaw
  obtain ⟨e, _, hevidence⟩ := hlaw past o t [] rfl hbefore hconfirmed
  have hstretch : ∃ thesis, Stretch settings thesis (life settings (past ++ [(o, t)])) := by
    rcases hevidence with ⟨_, h⟩ | ⟨_, h⟩
    · exact ⟨_, h.stretch⟩
    · exact ⟨_, h.stretch⟩
  obtain ⟨thesis, hstretch⟩ := hstretch
  obtain ⟨stretch, hmem, hall, hspans⟩ := hstretch.mem
  have := hnone thesis stretch hmem
  rw [hall, hspans] at this
  cases this

/-- With the default settings a breakout is confirmed across a moment without quotes, and with a
shorter retest distance a fade is confirmed right after it stood short of the confirmation
distance. -/
theorem confirmed_without_stretch :
    ¬ConfirmedByStretch {}
        (play (levelStep {}) none (blinkingBreakout ++ [breakoutConfirmed])).1 ∧
      ¬ConfirmedByStretch { retestPoints := 2 }
        (play (levelStep { retestPoints := 2 }) none (waveringFade ++ [fadeConfirmed])).1 := by
  constructor
  · rw [play_snoc]
    exact not_confirmedByStretch (by decide +kernel) (by decide +kernel)
      fun thesis => by cases thesis <;> decide +kernel
  · rw [play_snoc]
    exact not_confirmedByStretch (by decide +kernel) (by decide +kernel)
      fun thesis => by cases thesis <;> decide +kernel

instance (log : Log) : Decidable (InOrder log) := inferInstanceAs (Decidable (List.Pairwise _ _))

/-- The breakout above, evidence and all. -/
theorem confirmed_evidence_breakout :
    ∃ e, (advanceLevelDecision (play (levelStep {}) none blinkingBreakout).2 breakoutConfirmed
        {}).state = .event e ∧
      ConfirmedEvidence {}
        (life {} (play (levelStep {}) none (blinkingBreakout ++ [breakoutConfirmed])).1) e := by
  have h := @confirmed_evidence {} _ _ (by decide +kernel)
    (Run.play (allowed_anyStep (blinkingBreakout ++ [breakoutConfirmed]) none)) (by decide +kernel)
  rw [play_snoc] at h ⊢
  exact h _ _ _ [] rfl (by decide +kernel) (by decide +kernel)

end SpxSpark.OrderMap
