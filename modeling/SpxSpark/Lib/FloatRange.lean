import Mathlib.Algebra.Ring.Rat
import Mathlib.Data.Nat.Cast.Basic

/-!
# FloatRange — rationals for floats, except at the end of their range

Floating point numbers are read as rationals, except that an integer too large for a 64-bit float
cannot be multiplied with one, and that a quotient too large for one is an infinity, which has no
ceiling.
-/

namespace SpxSpark.Lib

inductive OverflowError
  | intTooLarge
  | infinityToInteger
  deriving DecidableEq

def OverflowError.message : OverflowError → String
  | .intTooLarge => "int too large to convert to float"
  | .infinityToInteger => "cannot convert float infinity to integer"

/-- The exponent of the largest power of two among the 64-bit floats. -/
def maxExponent : ℕ := 1023

/-- The least integer that rounds beyond the largest 64-bit float. -/
@[irreducible]
def floatLimit : ℕ := 2 ^ (maxExponent + 1) - 2 ^ (maxExponent - 53)

/-- `seconds * n`. -/
def timesInt (seconds : ℚ) (n : ℕ) : Except OverflowError ℚ :=
  if floatLimit ≤ n then .error .intTooLarge else .ok (seconds * n)

theorem timesInt_pow (seconds : ℚ) (k : ℕ) : timesInt seconds (2 ^ k) =
      if k ≤ maxExponent then .ok (seconds * 2 ^ k) else .error .intTooLarge := by
  have hlow : 2 ^ maxExponent < floatLimit := by decide +kernel
  have hhigh : floatLimit ≤ 2 ^ (maxExponent + 1) := by
    unfold floatLimit
    exact Nat.sub_le _ _
  unfold timesInt
  by_cases hk : k ≤ maxExponent
  · have : 2 ^ k < floatLimit := (Nat.pow_le_pow_right (by decide) hk).trans_lt hlow
    rw [if_neg (not_le.mpr this), if_pos hk, Nat.cast_pow, Nat.cast_ofNat]
  · have : floatLimit ≤ 2 ^ k := hhigh.trans (Nat.pow_le_pow_right (by decide) (by omega))
    rw [if_pos this, if_neg hk]

/-- What `random.uniform(0.5, 1.5)` draws. -/
structure Jitter where
  factor : ℚ
  half_le : 1 / 2 ≤ factor
  le_double : factor ≤ 3 / 2

end SpxSpark.Lib
