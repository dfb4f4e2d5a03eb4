import Mathlib.Tactic.Linarith
import Mathlib.Tactic.Ring

/-!
# Ramp — the difference of two hinges

`ramp a b` is the function that is `0` up to `a`, climbs with slope one, and stays at `b - a` from
`b` on: the difference of the hinges `max (s - a) 0` and `max (s - b) 0`.
-/

namespace SpxSpark.Lib

variable {K : Type*} [Field K] [LinearOrder K] [IsStrictOrderedRing K]

/-! ## Ramps -/

/-- Nothing up to `a`, slope one up to `b`, constant after it. -/
def ramp (a b s : K) : K := max (s - a) 0 - max (s - b) 0

variable {a b : K}

theorem ramp_before {s : K} (hab : a ≤ b) (h : s ≤ a) : ramp a b s = 0 := by
  unfold ramp
  rw [max_eq_right (by linarith), max_eq_right (by linarith), sub_zero]

theorem ramp_between {s : K} (ha : a ≤ s) (hb : s ≤ b) : ramp a b s = s - a := by
  unfold ramp
  rw [max_eq_left (by linarith), max_eq_right (by linarith), sub_zero]

theorem ramp_after {s : K} (hab : a ≤ b) (h : b ≤ s) : ramp a b s = b - a := by
  unfold ramp
  rw [max_eq_left (by linarith), max_eq_left (by linarith)]
  ring

theorem ramp_eq_clamp (hab : a ≤ b) (s : K) : ramp a b s = max (min (s - a) (b - a)) 0 := by
  rcases le_total s a with h | h
  · rw [ramp_before hab h, max_eq_right]
    exact (min_le_left _ _).trans (by linarith)
  · rcases le_total s b with h' | h'
    · rw [ramp_between h h', min_eq_left (by linarith), max_eq_left (by linarith)]
    · rw [ramp_after hab h', min_eq_right (by linarith), max_eq_left (by linarith)]

theorem ramp_nonneg (hab : a ≤ b) (s : K) : 0 ≤ ramp a b s := by
  rw [ramp_eq_clamp hab]
  exact le_max_right _ _

theorem ramp_le (hab : a ≤ b) (s : K) : ramp a b s ≤ b - a := by
  rw [ramp_eq_clamp hab]
  exact max_le (min_le_right _ _) (by linarith)

theorem le_ramp_iff {h : K} (hab : a ≤ b) (h0 : 0 < h) (hw : h ≤ b - a) (s : K) :
    h ≤ ramp a b s ↔ a + h ≤ s := by
  rw [ramp_eq_clamp hab, le_max_iff, le_min_iff]
  constructor
  · rintro (⟨h1, -⟩ | h1)
    · linarith
    · linarith
  · intro h1
    exact .inl ⟨by linarith, hw⟩

/-! ## What the figures of a payoff promise -/

/-- A payoff with the figures reported for it: its extremes are reached, it is zero at each
break-even, and it is at least zero on the profit side only. -/
structure Profile (payoff : K → K) (maxGain maxLoss : K) (breakevens : List K) (profit : Set K) :
    Prop where
  atMost : ∀ s, payoff s ≤ maxGain
  atLeast : ∀ s, -maxLoss ≤ payoff s
  gained : ∃ s, payoff s = maxGain
  lost : ∃ s, payoff s = -maxLoss
  breaksEven : ∀ b ∈ breakevens, payoff b = 0
  inside : ∀ s ∈ profit, 0 ≤ payoff s
  outside : ∀ s, s ∉ profit → payoff s ≤ 0

omit [IsStrictOrderedRing K] in
theorem Profile.neg {payoff : K → K} {gain loss : K} {breakevens : List K} {profit : Set K}
    (h : Profile payoff gain loss breakevens profit) :
    Profile (fun s => payoff (-s)) gain loss (breakevens.map fun b => -b)
      (Set.preimage (fun s => -s) profit) where
  atMost s := h.atMost (-s)
  atLeast s := h.atLeast (-s)
  gained := by
    obtain ⟨s, hs⟩ := h.gained
    exact ⟨-s, by rw [neg_neg, hs]⟩
  lost := by
    obtain ⟨s, hs⟩ := h.lost
    exact ⟨-s, by rw [neg_neg, hs]⟩
  breaksEven := by
    intro b hb
    obtain ⟨c, hc, rfl⟩ := List.mem_map.mp hb
    rw [neg_neg]
    exact h.breaksEven c hc
  inside s hs := h.inside (-s) hs
  outside s hs := h.outside (-s) hs

theorem ramp_profile {debit : K} (hpos : 0 < debit) (hlt : debit < b - a) :
    Profile (fun s => ramp a b s - debit) (b - a - debit) debit [a + debit]
      (Set.Ici (a + debit)) := by
  have hab : a ≤ b := by linarith
  exact
    { atMost := fun s => by linarith [ramp_le hab s]
      atLeast := fun s => by linarith [ramp_nonneg hab s]
      gained := ⟨b, by rw [ramp_after hab le_rfl]⟩
      lost := ⟨a, by rw [ramp_before hab le_rfl, zero_sub]⟩
      breaksEven := by
        intro s hs
        rw [List.mem_singleton.mp hs, ramp_between (by linarith) (by linarith)]
        ring
      inside := by
        intro s hs
        have := (le_ramp_iff hab hpos hlt.le s).mpr hs
        linarith
      outside := by
        intro s hs
        have : ¬ debit ≤ ramp a b s := fun h => hs ((le_ramp_iff hab hpos hlt.le s).mp h)
        linarith }

end SpxSpark.Lib
