import Mathlib.Order.Lattice
import Mathlib.Order.Defs.LinearOrder

/-!
# Monotonic instants

`std::time::Duration` and `Instant`, in nanoseconds. A duration has an unsigned
64-bit count of seconds; an instant counts from the start of the machine with a
signed 64-bit count, so no time left between two instants reaches the longest
duration.
-/

namespace RustEnrich

/-- The nanoseconds of a second. -/
def secondNanos : Nat := 1000000000

/-- A `std::time::Duration`. -/
structure Duration where
  nanos : Nat
  inRange : nanos < 18446744073709551616 * secondNanos
  deriving DecidableEq

namespace Duration

/-- The nanoseconds tell the duration. -/
theorem nanos_injective : Function.Injective Duration.nanos := by
  intro left right equal
  cases left
  cases right
  cases equal
  rfl

instance : LinearOrder Duration := LinearOrder.lift' Duration.nanos nanos_injective

/-- Durations are in the order of their nanoseconds. -/
theorem le_iff_nanos {left right : Duration} : left ≤ right ↔ left.nanos ≤ right.nanos :=
  Iff.rfl

/-- `Duration::MAX`. -/
def longest : Duration := ⟨18446744073709551616 * secondNanos - 1, by decide⟩

/-- No time. -/
def zero : Duration := ⟨0, by decide⟩

/-- `Duration::from_millis`. -/
def fromMillis (millis : UInt64) : Duration where
  nanos := millis.toNat * 1000000
  inRange := by
    have bound := millis.toNat_lt
    unfold secondNanos
    omega

/-- `Duration::from_secs`. -/
def fromSecs (seconds : UInt64) : Duration where
  nanos := seconds.toNat * secondNanos
  inRange := Nat.mul_lt_mul_of_pos_right seconds.toNat_lt (by decide)

/-- `saturating_add`. -/
def saturatingAdd (left right : Duration) : Duration :=
  if inRange : left.nanos + right.nanos < 18446744073709551616 * secondNanos then
    ⟨left.nanos + right.nanos, inRange⟩
  else
    longest

/-- The longer of two durations. -/
theorem nanos_max (left right : Duration) :
    (max left right).nanos = max left.nanos right.nanos := by
  rcases le_total left right with below | above
  · rw [max_eq_right below, max_eq_right (le_iff_nanos.mp below)]
  · rw [max_eq_left above, max_eq_left (le_iff_nanos.mp above)]

end Duration

/-- A `tokio::time::Instant`, from an origin of its own. -/
structure Instant where
  nanos : Nat
  inRange : nanos < 9223372036854775808 * secondNanos
  deriving DecidableEq

namespace Instant

/-- The nanoseconds tell the instant. -/
theorem nanos_injective : Function.Injective Instant.nanos := by
  intro left right equal
  cases left
  cases right
  cases equal
  rfl

instance : LinearOrder Instant := LinearOrder.lift' Instant.nanos nanos_injective

/-- The origin is an instant. -/
theorem inRange_zero : 0 < 9223372036854775808 * secondNanos := by decide

/-- Addition of a duration, which panics past the last instant. -/
def checkedAdd (instant : Instant) (duration : Duration) : Option Instant :=
  if inRange : instant.nanos + duration.nanos < 9223372036854775808 * secondNanos then
    some ⟨instant.nanos + duration.nanos, inRange⟩
  else
    none

/-- Instants are in the order of their nanoseconds. -/
theorem lt_iff_nanos {left right : Instant} : left < right ↔ left.nanos < right.nanos :=
  Iff.rfl

/-- A checked sum is the sum. -/
theorem nanos_of_checkedAdd {instant limit : Instant} {duration : Duration}
    (added : instant.checkedAdd duration = some limit) :
    limit.nanos = instant.nanos + duration.nanos := by
  unfold checkedAdd at added
  split at added
  · cases added
    rfl
  · cases added

/-- An earlier instant has room for a duration that a later one has room for. -/
theorem checkedAdd_of_le {earlier later limit : Instant} {duration : Duration}
    (before : earlier ≤ later) (added : later.checkedAdd duration = some limit) :
    ∃ sooner, earlier.checkedAdd duration = some sooner ∧ sooner ≤ limit := by
  have bound := nanos_of_checkedAdd added
  have nanos : earlier.nanos ≤ later.nanos := before
  have inRange := limit.inRange
  refine ⟨⟨earlier.nanos + duration.nanos, by omega⟩, dif_pos (by omega), ?_⟩
  change earlier.nanos + duration.nanos ≤ limit.nanos
  omega

/-- `saturating_duration_since`. -/
def saturatingDurationSince (later earlier : Instant) : Duration where
  nanos := later.nanos - earlier.nanos
  inRange := by
    have bound := later.inRange
    omega

/-- A sum that saturates is more than any time left. -/
theorem saturatingAdd_le_since_iff {left right : Duration} {later earlier : Instant} :
    left.saturatingAdd right ≤ later.saturatingDurationSince earlier ↔
      left.nanos + right.nanos ≤ later.nanos - earlier.nanos := by
  have bound := later.inRange
  rw [Duration.le_iff_nanos]
  unfold Duration.saturatingAdd saturatingDurationSince
  split
  · rfl
  · simp only [Duration.longest, secondNanos] at *
    omega

end Instant

end RustEnrich
