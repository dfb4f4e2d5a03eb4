import Mathlib.Algebra.Group.Nat.Defs
import Mathlib.Data.Int.Basic
import Mathlib.Data.Nat.Log
import Mathlib.Tactic.Common

/-!
# Float64 — integers as double-precision numbers

An integer becomes the nearest multiple of the power of two that leaves 53 bits, the even one of two
that are as near.
-/

namespace SpxSpark.Lib

namespace Float64

/-- The nearest number with 53 bits. -/
def roundBits (n : Nat) : Nat :=
  let step := 2 ^ (Nat.log2 n - 52)
  let down := n / step
  let rest := n % step
  (if step < 2 * rest ∨ 2 * rest = step ∧ down % 2 = 1 then down + 1 else down) * step

/-- The first power of two that has no finite number. -/
def overflow : Nat := 2 ^ 1024

/-- `float(n)`, which raises for a number that is too large. -/
def ofInt (n : Int) : Option Int :=
  if roundBits n.natAbs < overflow then
    some (if n < 0 then -roundBits n.natAbs else roundBits n.natAbs)
  else none

end Float64

end SpxSpark.Lib
