import SpxSpark.Lib.Ramp

/-!
# StructurePayoff — the figures of a structure and its payoff at expiry

Verticals, butterflies and iron condors, each with the function that reports its figures (the most
it gains and loses, its break-evens) and the function that pays it at a settlement.
-/

namespace SpxSpark.Options

open Lib

/-! ## The source's functions -/

inductive ValueError
  | verticalStrikes
  | verticalDebit
  | right
  | butterflyDebit
  | condorStrikes
  | condorCredit
  | condorOrder
  deriving DecidableEq

/-- `str(error)`. -/
def ValueError.message : ValueError → String
  | .verticalStrikes => "vertical strikes must define a debit spread in right direction"
  | .verticalDebit => "vertical debit must be positive and below width"
  | .right => "right must be C or P"
  | .butterflyDebit => "butterfly debit must be positive and below wing width"
  | .condorStrikes => "iron condor strikes must be put_long < put_short < call_short < call_long"
  | .condorCredit => "iron condor credit must be positive and below the wider wing"
  | .condorOrder => "iron condor strikes must be strictly ordered"

structure VerticalEconomics where
  widthPoints : ℚ
  maxLossPoints : ℚ
  maxGainPoints : ℚ
  breakevenSpx : ℚ
  debitFractionOfWidth : ℚ
  deriving DecidableEq

structure ButterflyEconomics where
  widthPoints : ℚ
  maxLossPoints : ℚ
  maxGainPoints : ℚ
  breakevenLow : ℚ
  breakevenHigh : ℚ
  debitFractionOfWidth : ℚ
  deriving DecidableEq

structure IronCondorEconomics where
  putWidthPoints : ℚ
  callWidthPoints : ℚ
  widthPoints : ℚ
  maxGainPoints : ℚ
  maxLossPoints : ℚ
  breakevenLow : ℚ
  breakevenHigh : ℚ
  creditFractionOfWidth : ℚ
  deriving DecidableEq

/-- The sign of a right: calls pay upwards, puts downwards. -/
def direction (right : String) : ℚ :=
  if right.toUpper = "C" then 1 else if right.toUpper = "P" then -1 else 0

def verticalEconomics (longStrike shortStrike netDebit : ℚ) (right : String) :
    Except ValueError VerticalEconomics :=
  let width := (shortStrike - longStrike) * direction right
  if direction right = 0 ∨ width ≤ 0 then .error .verticalStrikes
  else if ¬(0 < netDebit ∧ netDebit < width) then .error .verticalDebit
  else .ok
    { widthPoints := width
      maxLossPoints := netDebit
      maxGainPoints := width - netDebit
      breakevenSpx := longStrike + direction right * netDebit
      debitFractionOfWidth := netDebit / width }

def verticalPayoff (settlement longStrike shortStrike netDebit : ℚ) (right : String) :
    Except ValueError ℚ :=
  if right.toUpper = "C" then
    .ok (max (settlement - longStrike) 0 - max (settlement - shortStrike) 0 - netDebit)
  else if right.toUpper = "P" then
    .ok (max (longStrike - settlement) 0 - max (shortStrike - settlement) 0 - netDebit)
  else .error .right

def butterflyEconomics (center width netDebit : ℚ) : Except ValueError ButterflyEconomics :=
  if width ≤ 0 ∨ ¬(0 < netDebit ∧ netDebit < width) then .error .butterflyDebit
  else .ok
    { widthPoints := width
      maxLossPoints := netDebit
      maxGainPoints := width - netDebit
      breakevenLow := center - width + netDebit
      breakevenHigh := center + width - netDebit
      debitFractionOfWidth := netDebit / width }

def butterflyPayoff (settlement center width netDebit : ℚ) : ℚ :=
  max (width - |settlement - center|) 0 - netDebit

def ironCondorEconomics (putLong putShort callShort callLong netCredit : ℚ) :
    Except ValueError IronCondorEconomics :=
  let putWidth := putShort - putLong
  let callWidth := callLong - callShort
  if putWidth ≤ 0 ∨ callWidth ≤ 0 ∨ putShort ≥ callShort then .error .condorStrikes
  else
    let width := max putWidth callWidth
    if ¬(0 < netCredit ∧ netCredit < width) then .error .condorCredit
    else .ok
      { putWidthPoints := putWidth
        callWidthPoints := callWidth
        widthPoints := width
        maxGainPoints := netCredit
        maxLossPoints := width - netCredit
        breakevenLow := putShort - netCredit
        breakevenHigh := callShort + netCredit
        creditFractionOfWidth := netCredit / width }

/-- Expiry payoff for one defined-risk short iron condor. -/
def ironCondorPayoff (settlement putLong putShort callShort callLong netCredit : ℚ) :
    Except ValueError ℚ :=
  if ¬(putLong < putShort ∧ putShort < callShort ∧ callShort < callLong) then
    .error .condorOrder
  else
    let intrinsic := max (putShort - settlement) 0 - max (putLong - settlement) 0
      + max (settlement - callShort) 0 - max (settlement - callLong) 0
    .ok (netCredit - intrinsic)

/-! ## Acceptance -/

variable {right : String}

theorem direction_call (h : right.toUpper = "C") : direction right = 1 := by
  simp [direction, h]

theorem direction_put (h : right.toUpper = "P") : direction right = -1 := by
  have hne : ¬ right.toUpper = "C" := by rw [h]; decide
  simp [direction, h]

theorem direction_ne_zero (h : direction right ≠ 0) :
    right.toUpper = "C" ∨ right.toUpper = "P" := by
  by_contra hne
  obtain ⟨hc, hp⟩ := not_or.mp hne
  exact h (by simp [direction, hc, hp])

variable {debit : ℚ}

theorem verticalEconomics_ok {long short : ℚ} {e : VerticalEconomics}
    (h : verticalEconomics long short debit right = .ok e) :
    (right.toUpper = "C" ∨ right.toUpper = "P") ∧ 0 < debit ∧
      debit < (short - long) * direction right ∧
      e =
        { widthPoints := (short - long) * direction right
          maxLossPoints := debit
          maxGainPoints := (short - long) * direction right - debit
          breakevenSpx := long + direction right * debit
          debitFractionOfWidth := debit / ((short - long) * direction right) } := by
  change (if direction right = 0 ∨ (short - long) * direction right ≤ 0 then _ else _) = _ at h
  split at h
  · exact absurd h (by simp)
  · next hdir =>
      change (if ¬(0 < debit ∧ debit < (short - long) * direction right) then _ else _) = _ at h
      split at h
      · exact absurd h (by simp)
      · next hdebit =>
          obtain ⟨hpos, hlt⟩ := not_not.mp hdebit
          exact ⟨direction_ne_zero (not_or.mp hdir).1, hpos, hlt, (Except.ok.inj h).symm⟩

theorem butterflyEconomics_ok {center width : ℚ} {e : ButterflyEconomics}
    (h : butterflyEconomics center width debit = .ok e) :
    0 < debit ∧ debit < width ∧
      e =
        { widthPoints := width
          maxLossPoints := debit
          maxGainPoints := width - debit
          breakevenLow := center - width + debit
          breakevenHigh := center + width - debit
          debitFractionOfWidth := debit / width } := by
  unfold butterflyEconomics at h
  split at h
  · exact absurd h (by simp)
  · next hok =>
      obtain ⟨hpos, hlt⟩ := not_not.mp (not_or.mp hok).2
      exact ⟨hpos, hlt, (Except.ok.inj h).symm⟩

theorem ironCondorEconomics_ok {putLong putShort callShort callLong credit : ℚ}
    {e : IronCondorEconomics}
    (h : ironCondorEconomics putLong putShort callShort callLong credit = .ok e) :
    putLong < putShort ∧ putShort < callShort ∧ callShort < callLong ∧ 0 < credit ∧
      credit < max (putShort - putLong) (callLong - callShort) ∧
      e =
        { putWidthPoints := putShort - putLong
          callWidthPoints := callLong - callShort
          widthPoints := max (putShort - putLong) (callLong - callShort)
          maxGainPoints := credit
          maxLossPoints := max (putShort - putLong) (callLong - callShort) - credit
          breakevenLow := putShort - credit
          breakevenHigh := callShort + credit
          creditFractionOfWidth :=
            credit / max (putShort - putLong) (callLong - callShort) } := by
  unfold ironCondorEconomics at h
  dsimp only at h
  split at h
  · exact absurd h (by simp)
  · next hstrikes =>
      rw [not_or, not_or] at hstrikes
      obtain ⟨hput, hcall, hshort⟩ := hstrikes
      split at h
      · exact absurd h (by simp)
      · next hcredit =>
          obtain ⟨hpos, hlt⟩ := not_not.mp hcredit
          exact ⟨by linarith, by linarith, by linarith, hpos, hlt, (Except.ok.inj h).symm⟩

/-! ## What each structure pays -/

/-- The payoff function answers at every settlement, and its answers keep what the figures
promise. -/
def Told (payoff : ℚ → Except ValueError ℚ) (maxGain maxLoss : ℚ) (breakevens : List ℚ)
    (profit : Set ℚ) : Prop :=
  ∃ f : ℚ → ℚ, (∀ s, payoff s = .ok (f s)) ∧ Profile f maxGain maxLoss breakevens profit

/-- The profit side of a vertical's single break-even. -/
def verticalProfit (right : String) (breakeven : ℚ) : Set ℚ :=
  if right.toUpper = "C" then Set.Ici breakeven else Set.Iic breakeven

theorem verticalPayoff_call (h : right.toUpper = "C") (s long short debit : ℚ) :
    verticalPayoff s long short debit right = .ok (ramp long short s - debit) := by
  simp [verticalPayoff, h, ramp]

theorem verticalPayoff_put (h : right.toUpper = "P") (s long short debit : ℚ) :
    verticalPayoff s long short debit right = .ok (ramp (-long) (-short) (-s) - debit) := by
  have hl : -s - -long = long - s := by ring
  have hs : -s - -short = short - s := by ring
  simp [verticalPayoff, h, ramp, hl, hs]

theorem verticalEconomics_told {long short : ℚ} {e : VerticalEconomics}
    (h : verticalEconomics long short debit right = .ok e) :
    Told (fun s => verticalPayoff s long short debit right) e.maxGainPoints e.maxLossPoints
      [e.breakevenSpx] (verticalProfit right e.breakevenSpx) := by
  obtain ⟨hright, hpos, hlt, rfl⟩ := verticalEconomics_ok h
  rcases hright with hc | hp
  · rw [direction_call hc, mul_one] at hlt
    refine ⟨fun s => ramp long short s - debit,
      fun s => verticalPayoff_call hc s long short debit, ?_⟩
    rw [direction_call hc, mul_one, one_mul, verticalProfit, if_pos hc]
    exact ramp_profile hpos hlt
  · rw [direction_put hp] at hlt
    refine ⟨fun s => ramp (-long) (-short) (-s) - debit,
      fun s => verticalPayoff_put hp s long short debit, ?_⟩
    have hne : ¬ right.toUpper = "C" := by rw [hp]; decide
    have hturned := (ramp_profile (a := -long) (b := -short) hpos (by linarith)).neg
    have hwidth : (short - long) * -1 = -short - -long := by ring
    have hbreak : long + -1 * debit = -(-long + debit) := by ring
    have hside : Set.Iic (-(-long + debit))
        = Set.preimage (fun s => -s) (Set.Ici (-long + debit)) := by
      ext s
      show s ≤ -(-long + debit) ↔ -long + debit ≤ -s
      exact le_neg
    rw [direction_put hp, verticalProfit, if_neg hne, hwidth, hbreak, hside]
    exact hturned

theorem butterflyEconomics_told {center width : ℚ} {e : ButterflyEconomics}
    (h : butterflyEconomics center width debit = .ok e) :
    Told (fun s => .ok (butterflyPayoff s center width debit)) e.maxGainPoints e.maxLossPoints
      [e.breakevenLow, e.breakevenHigh] (Set.Icc e.breakevenLow e.breakevenHigh) := by
  obtain ⟨hpos, hlt, rfl⟩ := butterflyEconomics_ok h
  refine ⟨fun s => butterflyPayoff s center width debit, fun s => rfl, ?_⟩
  have htop : ∀ s, max (width - |s - center|) 0 ≤ width := by
    intro s
    exact max_le (by linarith [abs_nonneg (s - center)]) (by linarith)
  refine ⟨?_, ?_, ⟨center, ?_⟩, ⟨center + width, ?_⟩, ?_, ?_, ?_⟩
  · intro s
    show max (width - |s - center|) 0 - debit ≤ width - debit
    linarith [htop s]
  · intro s
    show -debit ≤ max (width - |s - center|) 0 - debit
    linarith [le_max_right (width - |s - center|) 0]
  · rw [butterflyPayoff, sub_self, abs_zero, sub_zero, max_eq_left (by linarith)]
  · rw [butterflyPayoff, add_sub_cancel_left, abs_of_pos (by linarith), sub_self, max_self,
      zero_sub]
  · intro b hb
    have hdist : |b - center| = width - debit := by
      rcases List.mem_cons.mp hb with rfl | hb
      · rw [abs_of_neg (by linarith)]
        ring
      · rw [List.mem_singleton.mp hb, abs_of_pos (by linarith)]
        ring
    rw [butterflyPayoff, hdist, max_eq_left (by linarith)]
    ring
  · rintro s ⟨hlo, hhi⟩
    have hdist : |s - center| ≤ width - debit := abs_le.mpr ⟨by linarith, by linarith⟩
    show 0 ≤ max (width - |s - center|) 0 - debit
    linarith [le_max_left (width - |s - center|) 0]
  · intro s hs
    have hdist : width - debit < |s - center| := by
      by_contra hle
      obtain ⟨hlo, hhi⟩ := abs_le.mp (not_lt.mp hle)
      exact hs ⟨by linarith, by linarith⟩
    show max (width - |s - center|) 0 - debit ≤ 0
    have : max (width - |s - center|) 0 ≤ debit := max_le (by linarith) hpos.le
    linarith

/-! ## Iron condors -/

section IronCondor

variable {putLong putShort callShort callLong credit : ℚ}

/-- What the two sold spreads cost at a settlement: at most one of the two ramps is off the
ground. -/
def condorCost (putLong putShort callShort callLong s : ℚ) : ℚ :=
  ramp (-putShort) (-putLong) (-s) + ramp callShort callLong s

section

variable (hput : putLong < putShort)

include hput

theorem ironCondorPayoff_eq (hmid : putShort < callShort)
    (hcall : callShort < callLong) (s : ℚ) :
    ironCondorPayoff s putLong putShort callShort callLong credit =
      .ok (credit - condorCost putLong putShort callShort callLong s) := by
  unfold ironCondorPayoff condorCost ramp
  rw [if_neg (not_not.mpr ⟨hput, hmid, hcall⟩)]
  have h1 : -s - -putShort = putShort - s := by ring
  have h2 : -s - -putLong = putLong - s := by ring
  rw [h1, h2]
  refine congrArg Except.ok ?_
  ring

omit hput in
theorem condorCost_low (hcall : callShort < callLong) {s : ℚ} (hs : s ≤ callShort) :
    condorCost putLong putShort callShort callLong s = ramp (-putShort) (-putLong) (-s) := by
  rw [condorCost, ramp_before hcall.le hs, add_zero]

theorem condorCost_high {s : ℚ} (hs : putShort ≤ s) :
    condorCost putLong putShort callShort callLong s = ramp callShort callLong s := by
  rw [condorCost, ramp_before (by linarith) (by linarith), zero_add]

theorem condorCost_nonneg (hcall : callShort < callLong) (s : ℚ) :
    0 ≤ condorCost putLong putShort callShort callLong s :=
  add_nonneg (ramp_nonneg (by linarith) _) (ramp_nonneg hcall.le _)

theorem condorCost_le (hmid : putShort < callShort)
    (hcall : callShort < callLong) (s : ℚ) : condorCost putLong putShort callShort callLong s ≤
      max (putShort - putLong) (callLong - callShort) := by
  rcases le_total s callShort with hs | hs
  · rw [condorCost_low hcall hs]
    refine (ramp_le (by linarith) _).trans ?_
    exact (by linarith : -putLong - -putShort ≤ putShort - putLong).trans (le_max_left _ _)
  · rw [condorCost_high hput (by linarith)]
    exact (ramp_le hcall.le _).trans (le_max_right _ _)

theorem condorCost_widest (hmid : putShort < callShort)
    (hcall : callShort < callLong) : ∃ s, condorCost putLong putShort callShort callLong s =
      max (putShort - putLong) (callLong - callShort) := by
  rcases le_total (callLong - callShort) (putShort - putLong) with hw | hw
  · refine ⟨putLong, ?_⟩
    rw [condorCost_low hcall (by linarith), ramp_after (by linarith) le_rfl, max_eq_left hw]
    ring
  · refine ⟨callLong, ?_⟩
    rw [condorCost_high hput (by linarith), ramp_after hcall.le le_rfl, max_eq_right hw]

theorem ironCondor_profile (hmid : putShort < callShort)
    (hcall : callShort < callLong) (hpos : 0 < credit) (hputw : credit ≤ putShort - putLong)
    (hcallw : credit ≤ callLong - callShort) :
    Profile (fun s => credit - condorCost putLong putShort callShort callLong s) credit
      (max (putShort - putLong) (callLong - callShort) - credit)
      [putShort - credit, callShort + credit]
      (Set.Icc (putShort - credit) (callShort + credit)) := by
  have hlow : ∀ s, credit ≤ ramp (-putShort) (-putLong) (-s) ↔ s ≤ putShort - credit := by
    intro s
    rw [le_ramp_iff (by linarith) hpos (by linarith)]
    constructor <;> intro h <;> linarith
  have hhigh : ∀ s, credit ≤ ramp callShort callLong s ↔ callShort + credit ≤ s :=
    le_ramp_iff hcall.le hpos hcallw
  refine ⟨?_, ?_, ⟨putShort, ?_⟩, ?_, ?_, ?_, ?_⟩
  · intro s
    have hcost : 0 ≤ condorCost putLong putShort callShort callLong s :=
      condorCost_nonneg hput hcall s
    linarith
  · intro s
    linarith [condorCost_le hput hmid hcall s]
  · show credit - condorCost putLong putShort callShort callLong putShort = credit
    rw [condorCost_low hcall hmid.le, ramp_before (by linarith) le_rfl, sub_zero]
  · obtain ⟨s, hs⟩ := condorCost_widest hput hmid hcall
    refine ⟨s, ?_⟩
    show credit - condorCost putLong putShort callShort callLong s = _
    rw [hs]
    ring
  · intro b hb
    show credit - condorCost putLong putShort callShort callLong b = 0
    rcases List.mem_cons.mp hb with rfl | hb
    · rw [condorCost_low hcall (by linarith), ramp_between (by linarith) (by linarith)]
      ring
    · rw [List.mem_singleton.mp hb, condorCost_high hput (by linarith),
        ramp_between (by linarith) (by linarith)]
      ring
  · rintro s ⟨hlo, hhi⟩
    show 0 ≤ credit - condorCost putLong putShort callShort callLong s
    rcases le_total s callShort with hs | hs
    · rw [condorCost_low hcall hs]
      by_contra hneg
      have : s = putShort - credit := le_antisymm ((hlow s).mp (by linarith)) hlo
      rw [this, ramp_between (by linarith) (by linarith)] at hneg
      exact hneg (by linarith)
    · rw [condorCost_high hput (by linarith)]
      by_contra hneg
      have : s = callShort + credit := le_antisymm hhi ((hhigh s).mp (by linarith))
      rw [this, ramp_between (by linarith) (by linarith)] at hneg
      exact hneg (by linarith)
  · intro s hs
    show credit - condorCost putLong putShort callShort callLong s ≤ 0
    rcases lt_or_ge s (putShort - credit) with hlt | hge
    · rw [condorCost_low hcall (by linarith)]
      linarith [(hlow s).mpr hlt.le]
    · have hgt : callShort + credit ≤ s := by
        by_contra hlt
        exact hs ⟨hge, (not_le.mp hlt).le⟩
      rw [condorCost_high hput (by linarith)]
      linarith [(hhigh s).mpr hgt]

/-- A wing narrower than the credit never takes the whole credit back: the break-even reported on
that side is not one. -/
theorem condorCost_breakevens (hmid : putShort < callShort)
    (hcall : callShort < callLong) (hpos : 0 < credit)
    (hlow : condorCost putLong putShort callShort callLong (putShort - credit) = credit)
    (hhigh : condorCost putLong putShort callShort callLong (callShort + credit) = credit) :
    credit ≤ putShort - putLong ∧ credit ≤ callLong - callShort := by
  constructor
  · rw [condorCost_low hcall (by linarith)] at hlow
    have := ramp_le (a := -putShort) (b := -putLong) (by linarith) (-(putShort - credit))
    linarith
  · rw [condorCost_high hput (by linarith)] at hhigh
    have := ramp_le hcall.le (callShort + credit)
    linarith

end

theorem ironCondorEconomics_told_iff {e : IronCondorEconomics}
    (h : ironCondorEconomics putLong putShort callShort callLong credit = .ok e) :
    Told (fun s => ironCondorPayoff s putLong putShort callShort callLong credit)
        e.maxGainPoints e.maxLossPoints [e.breakevenLow, e.breakevenHigh]
        (Set.Icc e.breakevenLow e.breakevenHigh) ↔
      credit ≤ putShort - putLong ∧ credit ≤ callLong - callShort := by
  obtain ⟨hput, hmid, hcall, hpos, -, rfl⟩ := ironCondorEconomics_ok h
  have hpays : ∀ s, ironCondorPayoff s putLong putShort callShort callLong credit =
      .ok (credit - condorCost putLong putShort callShort callLong s) :=
    ironCondorPayoff_eq hput hmid hcall
  constructor
  · rintro ⟨f, hf, hprofile⟩
    have hf' : ∀ s, f s = credit - condorCost putLong putShort callShort callLong s := by
      intro s
      exact Except.ok.inj ((hf s).symm.trans (hpays s))
    have hlow := hprofile.breaksEven (putShort - credit) (by simp)
    have hhigh := hprofile.breaksEven (callShort + credit) (by simp)
    rw [hf'] at hlow hhigh
    exact condorCost_breakevens hput hmid hcall hpos (by linarith) (by linarith)
  · rintro ⟨hputw, hcallw⟩
    exact ⟨_, hpays, ironCondor_profile hput hmid hcall hpos hputw hcallw⟩

end IronCondor

/-! ## Structures and their payoffs -/

/-- A structure, by the arguments its figures are computed from. -/
inductive Position
  | vertical (longStrike shortStrike netDebit : ℚ) (right : String)
  | butterfly (center width netDebit : ℚ)
  | ironCondor (putLong putShort callShort callLong netCredit : ℚ)

/-- The figures are computed. -/
def Position.Accepted : Position → Prop
  | .vertical long short debit right => ∃ e, verticalEconomics long short debit right = .ok e
  | .butterfly center width debit => ∃ e, butterflyEconomics center width debit = .ok e
  | .ironCondor putLong putShort callShort callLong credit =>
    ∃ e, ironCondorEconomics putLong putShort callShort callLong credit = .ok e

/-- The payoff keeps what the figures promise. -/
def Position.FiguresTold : Position → Prop
  | .vertical long short debit right => ∀ e, verticalEconomics long short debit right = .ok e →
      Told (fun s => verticalPayoff s long short debit right) e.maxGainPoints e.maxLossPoints
        [e.breakevenSpx] (verticalProfit right e.breakevenSpx)
  | .butterfly center width debit => ∀ e, butterflyEconomics center width debit = .ok e →
      Told (fun s => .ok (butterflyPayoff s center width debit)) e.maxGainPoints e.maxLossPoints
        [e.breakevenLow, e.breakevenHigh] (Set.Icc e.breakevenLow e.breakevenHigh)
  | .ironCondor putLong putShort callShort callLong credit =>
    ∀ e, ironCondorEconomics putLong putShort callShort callLong credit = .ok e →
      Told (fun s => ironCondorPayoff s putLong putShort callShort callLong credit)
        e.maxGainPoints e.maxLossPoints [e.breakevenLow, e.breakevenHigh]
        (Set.Icc e.breakevenLow e.breakevenHigh)

/-- Neither wing of an iron condor is narrower than its credit. -/
def Position.WithinWings : Position → Prop
  | .vertical .. | .butterfly .. => True
  | .ironCondor putLong putShort callShort callLong credit =>
    credit ≤ putShort - putLong ∧ credit ≤ callLong - callShort

/-- The figures of every accepted vertical and butterfly are told by its payoff; those of an
accepted iron condor are if and only if neither wing is narrower than the credit. -/
theorem structureEconomics_told (position : Position) (h : position.Accepted) :
    position.FiguresTold ↔ position.WithinWings := by
  cases position with
  | vertical => exact ⟨fun _ => trivial, fun _ _ => verticalEconomics_told⟩
  | butterfly => exact ⟨fun _ => trivial, fun _ _ => butterflyEconomics_told⟩
  | ironCondor =>
    obtain ⟨e, he⟩ := h
    constructor
    · intro htold
      exact (ironCondorEconomics_told_iff he).mp (htold e he)
    · intro hwings _ haccepted
      exact (ironCondorEconomics_told_iff haccepted).mpr hwings

theorem structureEconomics_told_samples :
    Told (fun s => verticalPayoff s 110 100 4 "p") 6 4 [106] (Set.Iic 106) ∧
      Told (fun s => .ok (butterflyPayoff s 100 10 3)) 7 3 [93, 107] (Set.Icc 93 107) ∧
      ((Position.ironCondor 90 100 110 120 4).FiguresTold ↔
        (4 : ℚ) ≤ 100 - 90 ∧ (4 : ℚ) ≤ 120 - 110) := by
  have hvertical : verticalEconomics 110 100 4 "p" = .ok ⟨10, 4, 6, 106, 2 / 5⟩ := by
    decide +kernel
  have hbutterfly : butterflyEconomics 100 10 3 = .ok ⟨10, 3, 7, 93, 107, 3 / 10⟩ := by
    decide +kernel
  have h1 := (structureEconomics_told (.vertical 110 100 4 "p") ⟨_, hvertical⟩).mpr trivial _
    hvertical
  have hside : verticalProfit "p" 106 = Set.Iic 106 := if_neg (by decide +kernel)
  rw [hside] at h1
  exact ⟨h1, (structureEconomics_told (.butterfly 100 10 3) ⟨_, hbutterfly⟩).mpr trivial _
    hbutterfly, structureEconomics_told (.ironCondor 90 100 110 120 4)
      ⟨⟨10, 10, 10, 4, 6, 96, 114, 2 / 5⟩, by decide +kernel⟩⟩

/-- A one-point put wing under a credit of five: accepted, and paying four at the lower
break-even it reports. -/
theorem ironCondorEconomics_untold :
    ∃ e, ironCondorEconomics 99 100 110 120 5 = .ok e ∧ e.breakevenLow = 95 ∧
      ironCondorPayoff 95 99 100 110 120 5 = .ok 4 ∧
      ¬ Told (fun s => ironCondorPayoff s 99 100 110 120 5) e.maxGainPoints e.maxLossPoints
        [e.breakevenLow, e.breakevenHigh] (Set.Icc e.breakevenLow e.breakevenHigh) := by
  refine ⟨⟨1, 10, 10, 5, 5, 95, 115, 1 / 2⟩, by decide +kernel, rfl, by decide +kernel, ?_⟩
  rintro ⟨f, hf, hprofile⟩
  have hpays : f 95 = 4 := Except.ok.inj ((hf 95).symm.trans (by decide +kernel))
  have hzero := hprofile.breaksEven 95 (by simp)
  rw [hpays] at hzero
  norm_num at hzero

end SpxSpark.Options
