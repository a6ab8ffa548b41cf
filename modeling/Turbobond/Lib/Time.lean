import Mathlib.Algebra.Order.Field.Rat

/-!
# Clocks

Clock readings are exact rationals, in seconds.
-/

namespace Turbobond

/-- A clock reading, in seconds. -/
abbrev Time : Type := ℚ

/-- The two clocks: `time.time()` and `time.monotonic()`. -/
structure Clock where
  wall : Time
  mono : Time
  deriving DecidableEq

end Turbobond
