import Mathlib.Order.Lattice
import Mathlib.Data.Int.Order.Basic

namespace Qrmci

/-- The implicit conversion of a `std::chrono` duration, a signed 64-bit count of its unit, to a
finer unit. Where the product does not fit, C++ leaves the result undefined; it wraps here, as the
multiplication of the machine does. -/
def convertDuration (factor count : Int64) : Int64 := count * factor

def secondsToMilliseconds (count : Int64) : Int64 := convertDuration 1000 count

def secondsToNanoseconds (count : Int64) : Int64 := convertDuration 1000000000 count

def millisecondsToNanoseconds (count : Int64) : Int64 := convertDuration 1000000 count

/-- `elapsed >= waitTimeout` on a count of nanoseconds and one of seconds, which compares both as
nanoseconds. What has elapsed lies between two readings of the steady clock and is exact. -/
def elapsedReaches (elapsed : Int) (waitTimeout : Int64) : Bool :=
  (secondsToNanoseconds waitTimeout).toInt ≤ elapsed

/-- A conversion of a non-negative count is exact exactly if the product fits. -/
theorem convertDuration_exact (factor : Int64) {count : Int64} (finer : 0 < factor.toInt)
    (nonnegative : 0 ≤ count.toInt) :
    (convertDuration factor count).toInt = count.toInt * factor.toInt ↔
      count.toInt ≤ 9223372036854775807 / factor.toInt := by
  rw [Int.le_ediv_iff_mul_le finer, convertDuration]
  constructor
  · intro exact
    have upper := (count * factor).toInt_lt
    omega
  · intro fits
    have positive : 0 ≤ count.toInt * factor.toInt := Int.mul_nonneg nonnegative finer.le
    rw [Int64.toInt_mul]
    exact Int.bmod_eq_of_le (by omega) (by omega)

variable {count : Int64}

theorem secondsToMilliseconds_exact (nonnegative : 0 ≤ count.toInt) :
    (secondsToMilliseconds count).toInt = count.toInt * 1000 ↔ count.toInt ≤ 9223372036854775 :=
  convertDuration_exact 1000 (by decide) nonnegative

theorem secondsToNanoseconds_exact (nonnegative : 0 ≤ count.toInt) :
    (secondsToNanoseconds count).toInt = count.toInt * 1000000000 ↔ count.toInt ≤ 9223372036 :=
  convertDuration_exact 1000000000 (by decide) nonnegative

theorem millisecondsToNanoseconds_exact (nonnegative : 0 ≤ count.toInt) :
    (millisecondsToNanoseconds count).toInt = count.toInt * 1000000 ↔ count.toInt ≤ 9223372036854 :=
  convertDuration_exact 1000000 (by decide) nonnegative

/-- A conversion that does not fit falls short. -/
theorem secondsToNanoseconds_le (nonnegative : 0 ≤ count.toInt) :
    (secondsToNanoseconds count).toInt ≤ count.toInt * 1000000000 := by
  have upper := (secondsToNanoseconds count).toInt_lt
  by_cases fits : count.toInt ≤ 9223372036
  · exact ((secondsToNanoseconds_exact nonnegative).mpr fits).le
  · omega

/-- The deadline check is the exact one, whatever has elapsed, exactly if the timeout converts
exactly: a wrapped timeout is reached by the time it has wrapped to. -/
theorem elapsedReaches_exact (nonnegative : 0 ≤ count.toInt) :
    (∀ elapsed, elapsedReaches elapsed count = true ↔ count.toInt * 1000000000 ≤ elapsed) ↔
      count.toInt ≤ 9223372036 := by
  simp only [elapsedReaches, decide_eq_true_eq]
  constructor
  · intro same
    have reached := (same (secondsToNanoseconds count).toInt).mp le_rfl
    have upper := (secondsToNanoseconds count).toInt_lt
    omega
  · intro fits elapsed
    rw [(secondsToNanoseconds_exact nonnegative).mpr fits]

/-- A wait that is bounded at all has its elapsed time compared as on exact integers. -/
def ComparedExactly (waitTimeout : Int64) : Prop :=
  0 < waitTimeout → ∀ elapsed, elapsedReaches elapsed waitTimeout = true ↔ waitTimeout.toInt * 1000000000 ≤ elapsed

theorem comparedExactly_iff : ComparedExactly count ↔ count.toInt ≤ 9223372036 := by
  by_cases bounded : 0 < count
  · have positive : 0 < count.toInt := Int64.lt_iff_toInt_lt.mp bounded
    rw [← elapsedReaches_exact positive.le]
    exact ⟨fun exact => exact bounded, fun exact _ => exact⟩
  · have nonpositive : count.toInt ≤ 0 := Int64.le_iff_toInt_le.mp (Int64.not_lt.mp bounded)
    exact ⟨fun _ => by omega, fun _ positive => absurd positive bounded⟩

end Qrmci
