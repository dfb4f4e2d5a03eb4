import Mathlib.Data.List.Pairwise
import SpxSpark.Ibkr.AtmReference

/-!
# AtmRestart — what a new controller finds in the file

A sample is admitted against the median of the samples then in the window; the loader asks again,
against the median of the samples before it that are still kept.
-/

namespace SpxSpark.Ibkr

open Lib Domain List

/-! ## Samples -/

theorem deviationsBounded_snoc (x : BasisObservation) (samples : List BasisObservation) :
    ∀ earlier, deviationsBounded earlier (samples ++ [x]) =
      (deviationsBounded earlier samples && (decide (earlier ++ samples = []) ||
        decide (|x.value - median (sampleValues (earlier ++ samples))| ≤
          basisMaxMedianDeviationPoints))) := by
  induction samples with
  | nil =>
    intro earlier
    simp [deviationsBounded]
  | cons current rest ih =>
    intro earlier
    have happend : earlier ++ [current] ++ rest = earlier ++ current :: rest := by simp
    rw [cons_append, deviationsBounded, deviationsBounded, ih, happend, Bool.and_assoc]

theorem deviationsBounded_admitted {samples : List BasisObservation} {x : BasisObservation}
    (h : admits samples x = true) :
    deviationsBounded [] (samples ++ [x]) = deviationsBounded [] samples := by
  rw [deviationsBounded_snoc, nil_append]
  unfold admits at h
  cases hlast : samples.getLast? with
  | none =>
    rw [getLast?_eq_none_iff.mp hlast]
    rfl
  | some last =>
    rw [hlast] at h
    have hnear := (Bool.and_eq_true _ _ ▸ h).2
    rw [hnear, Bool.or_true, Bool.and_true]

theorem samplesIncrease_of_pairwise {samples : List BasisObservation}
    (h : samples.Pairwise fun a b => a.observedAt < b.observedAt) :
    samplesIncrease samples = true := by
  unfold samplesIncrease
  induction samples with
  | nil => rfl
  | cons first rest ih =>
    obtain ⟨hfirst, hrest⟩ := pairwise_cons.mp h
    cases rest with
    | nil => rfl
    | cons next rest =>
      have hnext := ih hrest
      simp only [tail_cons, zip_cons_cons, all_cons, Bool.and_eq_true,
        decide_eq_true_eq] at hnext ⊢
      exact ⟨hfirst next mem_cons_self, hnext⟩

/-- What holds of every basis the tracker builds; the deviations are not among it. -/
structure BasisBuilt (state : BasisState) : Prop where
  nonempty : state.samples ≠ []
  increasing : state.samples.Pairwise fun a b => a.observedAt < b.observedAt
  bounded : ∀ sample ∈ state.samples, |sample.value| ≤ basisMaxAbsPoints
  recent : (sampleSpan state.samples).any (· ≤ basisWindowSeconds) = true
  contract : state.esContract ≠ ""
  summaries : summariesAgree state = true

theorem basisAccepted_iff {state : BasisState} (h : BasisBuilt state) :
    basisAccepted state = deviationsBounded [] state.samples := by
  have hbounded : state.samples.all (fun sample => |sample.value| ≤ basisMaxAbsPoints) = true :=
    all_eq_true.mpr fun sample hsample => decide_eq_true (h.bounded sample hsample)
  unfold basisAccepted
  rw [h.recent, hbounded, samplesIncrease_of_pairwise h.increasing, h.summaries,
    decide_eq_true h.nonempty, decide_eq_true h.contract]
  simp

/-! ## What an observation leaves -/

theorem basisObservation_spec {spx es : ReferenceQuote} {contract : String}
    {observation : BasisObservation} (h : basisObservation spx es = some (contract, observation)) :
    contract ≠ "" ∧ |observation.value| ≤ basisMaxAbsPoints := by
  unfold basisObservation at h
  split at h
  · split_ifs at h with hfresh hskew habs
    obtain ⟨rfl, rfl⟩ := Prod.mk.inj (Option.some.inj h)
    simp only [Bool.or_eq_true, not_or, decide_eq_true_eq] at hfresh
    exact ⟨hfresh.2, not_lt.mp habs⟩
  · cases h

variable {state : Option BasisState} {tradingDate : Int}

theorem mem_retainedSamples {contract : String} {observedAt : Instant} {sample : BasisObservation}
    (h : sample ∈ retainedSamples state contract tradingDate observedAt) :
    (∃ existing, state = some existing ∧ sample ∈ existing.samples) ∧
      secondsBetween observedAt sample.observedAt ≤ basisWindowSeconds := by
  unfold retainedSamples at h
  cases state with
  | none => cases h
  | some existing =>
    simp only at h
    split_ifs at h
    · cases h
    · obtain ⟨hmem, hwindow⟩ := mem_filter.mp h
      exact ⟨⟨existing, rfl, hmem⟩, of_decide_eq_true hwindow⟩

theorem retainedSamples_increasing (h : ∀ existing, state = some existing → BasisBuilt existing)
    (contract : String) (tradingDate : Int) (observedAt : Instant) :
    (retainedSamples state contract tradingDate observedAt).Pairwise
      fun a b => a.observedAt < b.observedAt := by
  unfold retainedSamples
  cases state with
  | none => exact List.Pairwise.nil
  | some existing =>
    simp only
    split_ifs
    · exact List.Pairwise.nil
    · exact (h existing rfl).increasing.filter _

/-- What holds of an admitted basis observation. -/
structure Admitted (state : Option BasisState) (tradingDate : Int) (admitted : Admission) :
    Prop where
  contract : admitted.esContract ≠ ""
  bounded : |admitted.observation.value| ≤ basisMaxAbsPoints
  retained : admitted.retained =
    retainedSamples state admitted.esContract tradingDate admitted.observation.observedAt
  admits : admits admitted.retained admitted.observation = true

variable {admitted : Admission}

theorem admission_spec {spx es : Option ReferenceQuote} {isRth : Bool}
    (h : admission state spx es isRth tradingDate = some admitted) :
    Admitted state tradingDate admitted := by
  unfold admission at h
  split at h
  · split_ifs at h
    split at h
    · cases h
    · rename_i hobservation
      simp only at h
      split_ifs at h with hadmits
      obtain rfl := Option.some.inj h
      obtain ⟨hcontract, hbounded⟩ := basisObservation_spec hobservation
      exact ⟨hcontract, hbounded, rfl, hadmits⟩
  · cases h

theorem Admitted.increasing (h : Admitted state tradingDate admitted)
    (hbuilt : ∀ existing, state = some existing → BasisBuilt existing) :
    (admitted.retained ++ [admitted.observation]).Pairwise
      fun a b => a.observedAt < b.observedAt := by
  have hretained := retainedSamples_increasing hbuilt admitted.esContract tradingDate
    admitted.observation.observedAt
  rw [← h.retained] at hretained
  refine pairwise_append.mpr ⟨hretained, pairwise_singleton _ _, ?_⟩
  intro sample hsample new hnew
  rw [mem_singleton.mp hnew]
  have hadmits := h.admits
  unfold Ibkr.admits at hadmits
  obtain ⟨front, last, hsplit⟩ : ∃ front last, admitted.retained = front ++ [last] :=
    (eq_nil_or_concat' _).resolve_left (ne_nil_of_mem hsample)
  rw [hsplit, getLast?_append] at hadmits
  simp only [getLast?_singleton, Option.some_or, Bool.and_eq_true,
    decide_eq_true_eq] at hadmits
  rw [hsplit] at hsample hretained
  rcases mem_append.mp hsample with hfront | hlast
  · exact lt_trans ((pairwise_append.mp hretained).2.2 sample hfront last
      (mem_singleton_self last)) hadmits.1
  · rw [mem_singleton.mp hlast]
    exact hadmits.1

theorem sampleSpan_concat (retained : List BasisObservation) (observation : BasisObservation) :
    ∃ first ∈ retained ++ [observation], sampleSpan (retained ++ [observation]) =
      some (secondsBetween observation.observedAt first.observedAt) := by
  unfold sampleSpan
  cases retained with
  | nil => exact ⟨observation, mem_cons_self, rfl⟩
  | cons first rest =>
    refine ⟨first, mem_cons_self, ?_⟩
    rw [getLast?_append]
    rfl

theorem Admitted.built (h : Admitted state tradingDate admitted)
    (hbuilt : ∀ existing, state = some existing → BasisBuilt existing) :
    BasisBuilt (.ofSamples admitted.esContract tradingDate admitted.retained
      admitted.observation) where
  nonempty := by
    show admitted.retained ++ [admitted.observation] ≠ []
    simp
  increasing := h.increasing hbuilt
  bounded := by
    intro sample hsample
    rcases mem_append.mp hsample with hold | hnew
    · rw [h.retained] at hold
      obtain ⟨⟨existing, hstate, hmem⟩, -⟩ := mem_retainedSamples hold
      exact (hbuilt existing hstate).bounded sample hmem
    · rw [mem_singleton.mp hnew]
      exact h.bounded
  recent := by
    obtain ⟨first, hfirst, hspan⟩ := sampleSpan_concat admitted.retained admitted.observation
    show (sampleSpan (admitted.retained ++ [admitted.observation])).any _ = true
    rw [hspan]
    refine decide_eq_true ?_
    rcases mem_append.mp hfirst with hold | hnew
    · rw [h.retained] at hold
      exact (mem_retainedSamples hold).2
    · rw [mem_singleton.mp hnew]
      simp [secondsBetween, basisWindowSeconds]
  contract := h.contract
  summaries := by
    unfold summariesAgree BasisState.ofSamples
    simp only [decide_true, Bool.true_and, getLast?_append, getLast?_singleton,
      Option.some_or, Option.map_some]
    split_ifs with hqualifies
    · simp
    · rfl

theorem invalidateForContract_eq (state : Option BasisState) (esContract : Option String) :
    invalidateForContract state esContract = none ∨
      invalidateForContract state esContract = state := by
  unfold invalidateForContract
  cases esContract with
  | none => exact Or.inr rfl
  | some contract =>
    simp only
    by_cases hempty : contract = ""
    · rw [if_pos hempty]
      exact Or.inr rfl
    · rw [if_neg hempty]
      cases state with
      | none => exact Or.inl rfl
      | some basis =>
        by_cases hcontract : basis.esContract = contract
        · exact Or.inr (Option.filter_some_pos (decide_eq_true hcontract))
        · exact Or.inl (Option.filter_some_neg (by simpa using hcontract))

/-! ## The controller and its file -/

variable (digit : Char → Bool)

/-- A new controller on the same path has the same basis, strike and marker. -/
def Restored (store : AtmStore) : Prop := loadState digit store.file = store.controller

/-- What a resolution admits against, when it admits something. -/
def ResolveInputs.admission (inputs : ResolveInputs) (controller : AtmReferenceController) :
    Option Admission :=
  Ibkr.admission (invalidateForContract controller.basis (inputs.es.bind (·.contract)))
    inputs.spx inputs.es inputs.isRth inputs.tradingDate

/-- The samples that stay when one is admitted are near the medians of one another without those
that are pruned; an accepted strike is positive, its source has a name, its expiry is of digits. -/
def keepsSupport (store : AtmStore) : AtmAction → Prop
  | .resolve inputs => 0 < inputs.strikeStep → ∀ admitted,
      inputs.admission store.controller = some admitted →
        deviationsBounded [] admitted.retained = true
  | .recordAccepted candidate expiry =>
    0 < candidate.roundedStrike ∧ candidate.source ≠ "" ∧ expiryAccepted digit expiry = true
  | .restart => True

/-- The file has what the controller holds, and the loader accepts it. -/
structure AtmSound (store : AtmStore) : Prop where
  synced : store.file = none ∧ store.controller = {} ∨
    store.file = some (statePayload store.controller)
  built : ∀ basis, store.controller.basis = some basis → BasisBuilt basis
  supported : ∀ basis, store.controller.basis = some basis →
    deviationsBounded [] basis.samples = true
  stable : store.controller.stableAtm.all (stableAccepted digit) = true

variable (controller : AtmReferenceController)

theorem loadState_statePayload :
    loadState digit (some (statePayload controller)) =
      if controller.basis.all basisAccepted = true ∧
        controller.stableAtm.all (stableAccepted digit) = true then controller else {} := by
  unfold loadState
  simp [statePayload]

variable {digit}

variable {store : AtmStore}

theorem AtmSound.restored (h : AtmSound digit store) : Restored digit store := by
  unfold Restored
  rcases h.synced with ⟨hfile, hcontroller⟩ | hfile
  · rw [hfile, hcontroller]
    rfl
  · have haccepted : store.controller.basis.all basisAccepted = true := by
      cases hbasis : store.controller.basis with
      | none => rfl
      | some basis =>
        show basisAccepted basis = true
        rw [basisAccepted_iff (h.built basis hbasis)]
        exact h.supported basis hbasis
    rw [hfile, loadState_statePayload, if_pos ⟨haccepted, h.stable⟩]

theorem atmSound_start : AtmSound digit {} where
  synced := Or.inl ⟨rfl, rfl⟩
  built := fun basis h => by cases h
  supported := fun basis h => by cases h
  stable := rfl

def AtmStore.writeBasis (store : AtmStore) (basis : Option BasisState) : AtmStore :=
  { store with controller := { store.controller with basis } }.persist

theorem AtmSound.writeBasis (h : AtmSound digit store) {basis : Option BasisState}
    (hbuilt : ∀ state, basis = some state → BasisBuilt state)
    (hsupported : ∀ state, basis = some state → deviationsBounded [] state.samples = true) :
    AtmSound digit (store.writeBasis basis) where
  synced := Or.inr rfl
  built := hbuilt
  supported := hsupported
  stable := h.stable

theorem AtmSound.lost {state : BasisState} (hbuilt : BasisBuilt state)
    (hunsupported : deviationsBounded [] state.samples = false) :
    ¬Restored digit (store.writeBasis (some state)) := by
  intro hrestored
  unfold Restored at hrestored
  have hload : loadState digit (store.writeBasis (some state)).file = {} := by
    refine (loadState_statePayload digit _).trans (if_neg ?_)
    rintro ⟨haccepted, -⟩
    have hbasis : basisAccepted state = true := haccepted
    rw [basisAccepted_iff hbuilt, hunsupported] at hbasis
    cases hbasis
  rw [hload] at hrestored
  have hnone : none = some state := congrArg AtmReferenceController.basis hrestored
  cases hnone

variable {inputs : ResolveInputs}

theorem resolve_refused (hstep : inputs.strikeStep ≤ 0) :
    resolve controller inputs = (none, controller) := by
  unfold resolve
  rw [if_pos hstep]

theorem resolve_controller (hstep : 0 < inputs.strikeStep) :
    (resolve controller inputs).2 =
      { controller with
        basis := observe controller.basis inputs.spx inputs.es inputs.isRth
          inputs.tradingDate } := by
  unfold resolve
  rw [if_neg (not_le.mpr hstep)]

theorem atmStep_resolve_refused (store : AtmStore) (hstep : inputs.strikeStep ≤ 0) :
    (atmStep digit store (.resolve inputs)).2 = store := by
  show (if (resolve store.controller inputs).2.basis ≠ store.controller.basis then _ else
    ({ store with controller := (resolve store.controller inputs).2 } : AtmStore)) = store
  rw [resolve_refused store.controller hstep, if_neg (by simp)]

theorem atmStep_resolve (store : AtmStore) (hstep : 0 < inputs.strikeStep)
    {basis : Option BasisState}
    (hbasis : observe store.controller.basis inputs.spx inputs.es inputs.isRth
      inputs.tradingDate = basis) : (atmStep digit store (.resolve inputs)).2 =
      if basis = store.controller.basis then store else store.writeBasis basis := by
  show (if (resolve store.controller inputs).2.basis ≠ store.controller.basis then
      ({ store with controller := (resolve store.controller inputs).2 } : AtmStore).persist
    else { store with controller := (resolve store.controller inputs).2 }) = _
  rw [resolve_controller store.controller hstep, hbasis]
  by_cases hsame : basis = store.controller.basis
  · rw [if_pos hsame, if_neg (by simpa using hsame), hsame]
  · rw [if_neg hsame, if_pos hsame]
    rfl

theorem observe_cases (inputs : ResolveInputs) :
    (inputs.admission controller = none ∧
      (observe controller.basis inputs.spx inputs.es inputs.isRth inputs.tradingDate = none ∨
        observe controller.basis inputs.spx inputs.es inputs.isRth inputs.tradingDate =
          controller.basis)) ∨
    ∃ admitted, inputs.admission controller = some admitted ∧
      observe controller.basis inputs.spx inputs.es inputs.isRth inputs.tradingDate =
        some (.ofSamples admitted.esContract inputs.tradingDate admitted.retained
          admitted.observation) := by
  unfold observe ResolveInputs.admission
  simp only
  cases hadmission : admission
    (invalidateForContract controller.basis (inputs.es.bind (·.contract))) inputs.spx inputs.es
    inputs.isRth inputs.tradingDate with
  | none => exact Or.inl ⟨rfl, invalidateForContract_eq _ _⟩
  | some admitted => exact Or.inr ⟨admitted, rfl, rfl⟩

theorem admission_built (h : AtmSound digit store)
    (hadmission : inputs.admission store.controller = some admitted) :
    BasisBuilt (.ofSamples admitted.esContract inputs.tradingDate admitted.retained
      admitted.observation) ∧
    deviationsBounded [] (BasisState.ofSamples admitted.esContract inputs.tradingDate
        admitted.retained admitted.observation).samples =
      deviationsBounded [] admitted.retained := by
  have hadmitted := admission_spec hadmission
  refine ⟨hadmitted.built ?_, deviationsBounded_admitted hadmitted.admits⟩
  intro existing hexisting
  rcases invalidateForContract_eq store.controller.basis (inputs.es.bind (·.contract)) with
    hnone | hold
  · rw [hnone] at hexisting
    cases hexisting
  · rw [hold] at hexisting
    exact h.built existing hexisting

theorem resolve_sound (h : AtmSound digit store)
    (hmeets : keepsSupport digit store (.resolve inputs)) :
    AtmSound digit (atmStep digit store (.resolve inputs)).2 := by
  by_cases hstep : inputs.strikeStep ≤ 0
  · rw [atmStep_resolve_refused store hstep]
    exact h
  rcases observe_cases store.controller inputs with
    ⟨-, hnone | hold⟩ | ⟨admitted, hadmission, hsome⟩
  · rw [atmStep_resolve store (not_le.mp hstep) hnone]
    split_ifs
    · exact h
    · exact h.writeBasis (fun _ hcontra => by cases hcontra) (fun _ hcontra => by cases hcontra)
  · rw [atmStep_resolve store (not_le.mp hstep) hold, if_pos rfl]
    exact h
  · obtain ⟨hbuilt, hdeviations⟩ := admission_built h hadmission
    rw [atmStep_resolve store (not_le.mp hstep) hsome]
    split_ifs
    · exact h
    · refine h.writeBasis ?_ ?_
      · intro state hstate
        obtain rfl := Option.some.inj hstate
        exact hbuilt
      · intro state hstate
        obtain rfl := Option.some.inj hstate
        rw [hdeviations]
        exact hmeets (not_le.mp hstep) admitted hadmission

theorem resolve_support (h : AtmSound digit store)
    (hrestored : Restored digit (atmStep digit store (.resolve inputs)).2) :
    keepsSupport digit store (.resolve inputs) := by
  intro hstep admitted hadmission
  rcases observe_cases store.controller inputs with ⟨hnone, -⟩ | ⟨other, hother, hsome⟩
  · rw [hnone] at hadmission
    cases hadmission
  · obtain rfl := Option.some.inj (hother.symm.trans hadmission)
    obtain ⟨hbuilt, hdeviations⟩ := admission_built h hadmission
    rw [atmStep_resolve store hstep hsome] at hrestored
    rw [← hdeviations]
    by_cases hsame : some (BasisState.ofSamples other.esContract inputs.tradingDate other.retained
        other.observation) = store.controller.basis
    · exact h.supported _ hsame.symm
    · rw [if_neg hsame] at hrestored
      cases hvalue : deviationsBounded [] (BasisState.ofSamples other.esContract
        inputs.tradingDate other.retained other.observation).samples with
      | true => rfl
      | false => exact absurd hrestored (AtmSound.lost hbuilt hvalue)

variable {candidate : AtmReferenceCandidate}

theorem recordAccepted_sound {expiry : Option (List Char)} (h : AtmSound digit store)
    (hmeets : keepsSupport digit store (.recordAccepted candidate expiry)) :
    AtmSound digit (atmStep digit store (.recordAccepted candidate expiry)).2 where
  synced := Or.inr rfl
  built := h.built
  supported := h.supported
  stable := by
    obtain ⟨hstrike, hsource, hexpiry⟩ := hmeets
    show (decide (0 < candidate.roundedStrike) && decide (candidate.source ≠ "") &&
      expiryAccepted digit expiry) = true
    rw [decide_eq_true hstrike, decide_eq_true hsource, hexpiry]
    rfl

theorem recordAccepted_support {expiry : Option (List Char)}
    (hrestored : Restored digit (atmStep digit store (.recordAccepted candidate expiry)).2) :
    keepsSupport digit store (.recordAccepted candidate expiry) := by
  unfold Restored at hrestored
  have hload := loadState_statePayload digit (recordAccepted store.controller candidate expiry)
  by_cases haccepted : (recordAccepted store.controller candidate expiry).stableAtm.all
      (stableAccepted digit) = true
  · have hchecks : (decide (0 < candidate.roundedStrike) && decide (candidate.source ≠ "") &&
        expiryAccepted digit expiry) = true := haccepted
    simp only [Bool.and_eq_true, decide_eq_true_eq] at hchecks
    exact ⟨hchecks.1.1, hchecks.1.2, hchecks.2⟩
  · rw [if_neg (fun hboth => haccepted hboth.2)] at hload
    have hempty : ({} : AtmReferenceController) =
        recordAccepted store.controller candidate expiry := hload.symm.trans hrestored
    have hnone := congrArg AtmReferenceController.stableAtm hempty
    cases hnone

theorem restart_sound (h : AtmSound digit store) : (atmStep digit store .restart).2 = store := by
  show { store with controller := loadState digit store.file } = store
  rw [h.restored]

variable {action : AtmAction}

theorem atmSound_step (h : AtmSound digit store) (hmeets : keepsSupport digit store action) :
    AtmSound digit (atmStep digit store action).2 := by
  cases action with
  | resolve inputs => exact resolve_sound h hmeets
  | recordAccepted candidate expiry => exact recordAccepted_sound h hmeets
  | restart =>
    rw [restart_sound h]
    exact h

theorem restored_step_iff (h : AtmSound digit store) (action : AtmAction) :
    Restored digit (atmStep digit store action).2 ↔ keepsSupport digit store action := by
  constructor
  · intro hrestored
    cases action with
    | resolve inputs => exact resolve_support h hrestored
    | recordAccepted candidate expiry => exact recordAccepted_support hrestored
    | restart => trivial
  · intro hmeets
    exact (atmSound_step h hmeets).restored

/-! ## The fallback is offered until it is accepted -/

/-- The step accepts the stale fallback. -/
def acceptsStale (step : AtmAction × Option AtmReferenceResult) : Prop :=
  ∃ candidate expiry, step.1 = .recordAccepted candidate expiry ∧
    candidate.source = staleBootstrapSource

/-- The step's result is the stale fallback. -/
def offersStale (step : AtmAction × Option AtmReferenceResult) : Prop :=
  ∃ result candidate, step.2 = some result ∧ result.candidate = some candidate ∧
    candidate.source = staleBootstrapSource

theorem chooseCandidate_used {controller : AtmReferenceController} {validBasis : Option BasisState}
    (hused : controller.staleSpxBootstrapUsed = true)
    (h : chooseCandidate controller inputs validBasis = some candidate) :
    candidate.source ≠ staleBootstrapSource := by
  have hstale : staleBootstrap controller inputs.spx = none := by
    unfold staleBootstrap
    rw [hused, Bool.or_true, if_pos rfl]
  unfold chooseCandidate at h
  rw [hstale] at h
  simp only [Option.orElse_eq_orElse, Option.orElse_eq_or, Option.or_eq_some_iff,
    Option.map_eq_some_iff, Option.bind_eq_some_iff, Option.map_none] at h
  rcases h with ⟨_, -, rfl⟩ | ⟨-, ⟨_, -, rfl⟩ | ⟨-, ⟨_, -, _, -, rfl⟩ | ⟨-, ⟨_, -, rfl⟩ |
    ⟨-, ⟨_, -, rfl⟩ | ⟨-, ⟨_, -, rfl⟩ | ⟨-, ⟨_, -, rfl⟩ | ⟨-, hnone⟩⟩⟩⟩⟩⟩⟩
  · exact (by decide : "SPX" ≠ staleBootstrapSource)
  · exact (by decide : "IBUS500" ≠ staleBootstrapSource)
  · exact (by decide : "ES_basis_adj" ≠ staleBootstrapSource)
  · exact (by decide : "SPXW_parity" ≠ staleBootstrapSource)
  · exact (by decide : "SPY*10" ≠ staleBootstrapSource)
  · exact (by decide : "stable_atm" ≠ staleBootstrapSource)
  · exact (by decide : "stable_atm" ≠ staleBootstrapSource)
  · cases hnone

theorem offersStale_used (h : offersStale (action, (atmStep digit store action).1)) :
    store.controller.staleSpxBootstrapUsed = false := by
  obtain ⟨result, candidate, hresult, hcandidate, hsource⟩ := h
  by_contra hused
  cases action with
  | recordAccepted candidate expiry => cases hresult
  | restart => cases hresult
  | resolve inputs =>
    have hanswer : (resolve store.controller inputs).1 = some result := hresult
    unfold resolve at hanswer
    split_ifs at hanswer
    obtain rfl := Option.some.inj hanswer
    exact chooseCandidate_used (by simpa using hused) hcandidate hsource

theorem staleUsed_kept (h : AtmSound digit store)
    (hused : store.controller.staleSpxBootstrapUsed = true) :
    (atmStep digit store action).2.controller.staleSpxBootstrapUsed = true := by
  cases action with
  | recordAccepted candidate expiry =>
    show (decide (candidate.source = staleBootstrapSource) ||
      store.controller.staleSpxBootstrapUsed) = true
    rw [hused, Bool.or_true]
  | restart =>
    rw [restart_sound h]
    exact hused
  | resolve inputs =>
    by_cases hstep : inputs.strikeStep ≤ 0
    · rw [atmStep_resolve_refused store hstep]
      exact hused
    · rw [atmStep_resolve store (not_le.mp hstep) rfl]
      split_ifs
      · exact hused
      · exact hused

theorem acceptsStale_used {answer : Option AtmReferenceResult} (h : acceptsStale (action, answer)) :
    (atmStep digit store action).2.controller.staleSpxBootstrapUsed = true := by
  obtain ⟨candidate, expiry, haction, hsource⟩ := h
  have haction : action = .recordAccepted candidate expiry := haction
  subst haction
  show (decide (candidate.source = staleBootstrapSource) ||
    store.controller.staleSpxBootstrapUsed) = true
  rw [decide_eq_true hsource]
  rfl

/-- The marker is set when the log has an acceptance of the fallback, and after one there is no
further offer. -/
structure OfferedUntilAccepted (log : List (AtmAction × Option AtmReferenceResult))
    (store : AtmStore) : Prop where
  marked : ∀ step ∈ log, acceptsStale step → store.controller.staleSpxBootstrapUsed = true
  ordered : log.Pairwise fun earlier later => acceptsStale earlier → ¬offersStale later

theorem OfferedUntilAccepted.step {log : List (AtmAction × Option AtmReferenceResult)}
    (hsound : AtmSound digit store) (h : OfferedUntilAccepted log store) :
    OfferedUntilAccepted (log ++ [(action, (atmStep digit store action).1)])
      (atmStep digit store action).2 where
  marked := by
    intro step hstep haccepts
    rcases mem_append.mp hstep with hold | hnew
    · exact staleUsed_kept hsound (h.marked step hold haccepts)
    · rw [mem_singleton.mp hnew] at haccepts
      exact acceptsStale_used haccepts
  ordered := by
    refine pairwise_append.mpr ⟨h.ordered, pairwise_singleton _ _, ?_⟩
    intro earlier hearlier later hlater haccepts hoffers
    rw [mem_singleton.mp hlater] at hoffers
    have hunused := offersStale_used hoffers
    rw [h.marked earlier hearlier haccepts] at hunused
    cases hunused

/-! ## Restarts -/

/-- While every step meets the condition a new controller on the path finds what the old one holds,
and the next step is restored exactly when it meets it too; an accepted fallback is not offered
again, over any number of restarts. -/
theorem atm_reference_restores {log : List (AtmAction × Option AtmReferenceResult)}
    {store : AtmStore} (h : Run (atmStep digit) (keepsSupport digit) {} log store) :
    Restored digit store ∧
    (∀ action, Restored digit (atmStep digit store action).2 ↔ keepsSupport digit store action) ∧
    log.Pairwise fun earlier later => acceptsStale earlier → ¬offersStale later := by
  have hinv : AtmSound digit store ∧ OfferedUntilAccepted log store := by
    refine Run.invariant_log (I := fun log store => AtmSound digit store ∧
      OfferedUntilAccepted log store) ?_ ?_ h
    · refine ⟨atmSound_start, ?_, List.Pairwise.nil⟩
      intro step hstep
      cases hstep
    · intro log store action hinv hmeets
      exact ⟨atmSound_step hinv.1 hmeets, hinv.2.step hinv.1⟩
  exact ⟨hinv.1.restored, restored_step_iff hinv.1, hinv.2.ordered⟩

theorem keepsSupport_first (hbasis : store.controller.basis = none) :
    keepsSupport digit store (.resolve inputs) := by
  intro _ admitted hadmission
  have hretained := (admission_spec hadmission).retained
  have hnone : invalidateForContract store.controller.basis
      (inputs.es.bind (·.contract)) = none := by
    rw [hbasis]
    rcases invalidateForContract_eq none (inputs.es.bind (·.contract)) with h | h
    · exact h
    · exact h
  rw [hretained, hnone]
  rfl

/-! ## A pruned sample -/

def samplePair (esValue : ℚ) (second : Int) : AtmAction :=
  .resolve {
    strikeStep := 5
    isRth := true
    tradingDate := 20000
    spx := some { value := some 7500, observedAt := some (second * 1000000), freshness := "fresh" }
    es := some {
      value := some esValue
      observedAt := some (second * 1000000)
      freshness := "fresh"
      contract := some "ESU6" } }

def staleCandidate : AtmReferenceCandidate where
  value := 7482
  roundedStrike := 7480
  source := staleBootstrapSource
  observedAt := 0
  freshness := "stale"
  reason := "one_time_stale_spx_bootstrap"

def acceptedAfterSample : List AtmAction :=
  [samplePair 7507 0, .recordAccepted staleCandidate (some "20260709".toList)]

theorem atm_reference_restores_accepted : Restored Char.isDigit
    (play (atmStep Char.isDigit) {} acceptedAfterSample).2 := by
  have hallowed : Allowed (atmStep Char.isDigit) (keepsSupport Char.isDigit) {}
      acceptedAfterSample :=
    ⟨keepsSupport_first rfl, ⟨by decide, by decide, by decide⟩, trivial⟩
  exact (atm_reference_restores (Run.play hallowed)).1

/-- The third sample was near the median of the first two; the fourth prunes the first. -/
def prunedSupport : List AtmAction :=
  [.recordAccepted staleCandidate (some "20260709".toList), samplePair 7507 0, samplePair 7500 10,
    samplePair 7518 20, samplePair 7509 305]

theorem prunedSupport_lost : loadState Char.isDigit
    (play (atmStep Char.isDigit) {} prunedSupport).2.file = {} := by
  decide +kernel

theorem prunedSupport_held :
    (play (atmStep Char.isDigit) {} prunedSupport).2.controller.staleSpxBootstrapUsed = true := by
  decide +kernel

/-- A new controller finds neither the basis nor the strike nor the used fallback. -/
theorem restart_loses_state : ¬∀ (digit : Char → Bool)
    (log : List (AtmAction × Option AtmReferenceResult)) (store : AtmStore),
    Run (atmStep digit) anyStep {} log store → Restored digit store := by
  intro hall
  have hallowed : Allowed (atmStep Char.isDigit) anyStep {} prunedSupport :=
    allowed_anyStep prunedSupport _
  have hrestored := hall Char.isDigit _ _ (Run.play hallowed)
  unfold Restored at hrestored
  rw [prunedSupport_lost] at hrestored
  have hused := prunedSupport_held
  rw [← hrestored] at hused
  cases hused

end SpxSpark.Ibkr
