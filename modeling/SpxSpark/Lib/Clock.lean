import Mathlib.Data.Rat.Floor

/-!
# Clock — instants, durations and rounding of the Python services

A `datetime` is taken as its instant, in whole microseconds, and a `float` as the rational it stands
for.
-/

namespace SpxSpark

/-- A UTC instant, in microseconds. -/
abbrev Instant := Int

/-- `(a - b).total_seconds()`. -/
def secondsBetween (a b : Instant) : ℚ := ((a - b : Int) : ℚ) / 1000000

/-- The nearest integer, ties to even. -/
def roundHalfEven (q : ℚ) : Int :=
  let below := q.floor
  let rest := q - below
  if rest < 1 / 2 then below
  else if 1 / 2 < rest then below + 1
  else if below % 2 = 0 then below
  else below + 1

/-- `timedelta(seconds=…)`, which keeps whole microseconds. -/
def timedelta (seconds : ℚ) : Int := roundHalfEven (seconds * 1000000)

/-- `round(value, digits)`. -/
def roundTo (digits : ℕ) (value : ℚ) : ℚ := roundHalfEven (value * 10 ^ digits) / 10 ^ digits

theorem secondsBetween_le_iff {a b c : Instant} :
    secondsBetween a c ≤ secondsBetween b c ↔ a ≤ b := by
  unfold secondsBetween
  rw [div_le_div_iff_of_pos_right (by norm_num), Int.cast_le]
  simp

theorem roundHalfEven_intCast (n : Int) : roundHalfEven n = n := by
  simp [roundHalfEven]

theorem roundTo_secondsBetween (a b : Instant) :
    roundTo 6 (secondsBetween a b) = secondsBetween a b := by
  have hwhole : secondsBetween a b * 10 ^ 6 = ((a - b : Int) : ℚ) := by
    unfold secondsBetween
    ring
  rw [roundTo, hwhole, roundHalfEven_intCast, secondsBetween]
  norm_num

end SpxSpark
