import Mathlib.Order.Lattice
import Mathlib.Data.Int.Order.Basic
import Mathlib.Order.Defs.LinearOrder
import Mathlib.Tactic.Ring

/-!
# UTC timestamps

`chrono::DateTime<Utc>` as a count of nanoseconds since the epoch inside
chrono's range, and the signed 64-bit millisecond arithmetic that storage
performs on it.
-/

namespace RustEnrich

/-- The first and last calendar days chrono represents, from 1970-01-01. -/
def NaiveDate.min : Int := -96465292
/-- The last date. -/
def NaiveDate.max : Int := 95026236

/-- The milliseconds of a day. -/
def dayMillis : Int := 86400000
/-- The nanoseconds of a millisecond. -/
def milliNanos : Int := 1000000

/-- The first millisecond. -/
def minMillis : Int := NaiveDate.min * dayMillis
/-- The last millisecond. -/
def maxMillis : Int := (NaiveDate.max + 1) * dayMillis - 1

/-- A UTC instant, to the nanosecond, that chrono can represent. -/
structure DateTime where
  nanos : Int
  lower : minMillis * milliNanos ≤ nanos
  upper : nanos < (maxMillis + 1) * milliNanos
  deriving DecidableEq

namespace DateTime

/-- 1970-01-01T00:00:00Z. -/
def epoch : DateTime := ⟨0, by decide, by decide⟩

/-- The nanoseconds tell the instant. -/
theorem nanos_injective : Function.Injective DateTime.nanos := by
  intro left right equal
  cases left
  cases right
  cases equal
  rfl

instance : LinearOrder DateTime := LinearOrder.lift' DateTime.nanos nanos_injective

/-- Instants are in the order of their nanoseconds. -/
theorem le_iff_nanos {left right : DateTime} : left ≤ right ↔ left.nanos ≤ right.nanos :=
  Iff.rfl

/-- `timestamp_millis`: the millisecond count, rounded down. -/
def timestampMillis (instant : DateTime) : Int := instant.nanos / milliNanos

/-- `date_naive`: the calendar day, as a day count from 1970-01-01. -/
def dateNaive (instant : DateTime) : Int := instant.nanos / (milliNanos * dayMillis)

/-- The milliseconds follow the instants. -/
theorem timestampMillis_mono {left right : DateTime} (before : left ≤ right) :
    left.timestampMillis ≤ right.timestampMillis :=
  Int.ediv_le_ediv (by decide) before

/-- No instant is before the first millisecond. -/
theorem minMillis_le (instant : DateTime) : minMillis ≤ instant.timestampMillis :=
  (Int.le_ediv_iff_mul_le (by decide)).mpr instant.lower

/-- No instant is after the last millisecond. -/
theorem le_maxMillis (instant : DateTime) : instant.timestampMillis ≤ maxMillis :=
  Int.lt_add_one_iff.mp ((Int.ediv_lt_iff_lt_mul (by decide)).mpr instant.upper)

/-- The day of an instant is the day of its millisecond count. -/
theorem dateNaive_eq (instant : DateTime) :
    instant.dateNaive = instant.timestampMillis / dayMillis := by
  unfold dateNaive timestampMillis
  exact (Int.ediv_ediv_of_nonneg (by decide)).symm

/-- The date follows the milliseconds. -/
theorem dateNaive_mono {earlier later : DateTime}
    (onward : earlier.timestampMillis ≤ later.timestampMillis) :
    earlier.dateNaive ≤ later.dateNaive := by
  rw [earlier.dateNaive_eq, later.dateNaive_eq]
  exact Int.ediv_le_ediv (by decide) onward

/-- The date is that of the millisecond. -/
theorem dateNaive_congr {left right : DateTime}
    (same : left.timestampMillis = right.timestampMillis) : left.dateNaive = right.dateNaive :=
  le_antisymm (dateNaive_mono same.le) (dateNaive_mono same.ge)

/-- `DateTime::from_timestamp_millis`. -/
def fromTimestampMillis (millis : Int) : Option DateTime :=
  if inside : minMillis ≤ millis ∧ millis ≤ maxMillis then
    some {
      nanos := millis * milliNanos
      lower := Int.mul_le_mul_of_nonneg_right inside.1 (by decide)
      upper := Int.mul_lt_mul_of_pos_right (Int.lt_add_one_iff.mpr inside.2) (by decide) }
  else
    none

/-- A converted instant is at its millisecond. -/
theorem fromTimestampMillis_timestampMillis {millis : Int} {instant : DateTime}
    (converted : fromTimestampMillis millis = some instant) :
    instant.timestampMillis = millis := by
  unfold fromTimestampMillis at converted
  split at converted
  · cases converted
    exact Int.mul_ediv_cancel _ (by decide)
  · cases converted

/-- A millisecond count read off an instant converts back. -/
theorem fromTimestampMillis_self (instant : DateTime) :
    ∃ floored, fromTimestampMillis instant.timestampMillis = some floored ∧
      floored.timestampMillis = instant.timestampMillis := by
  have inside : minMillis ≤ instant.timestampMillis ∧ instant.timestampMillis ≤ maxMillis :=
    ⟨instant.minMillis_le, instant.le_maxMillis⟩
  refine ⟨_, dif_pos inside, ?_⟩
  exact fromTimestampMillis_timestampMillis (dif_pos inside)

/-- A count of nanoseconds as an instant, where chrono represents it. -/
def ofNanos (nanos : Int) : Option DateTime :=
  if inside : minMillis * milliNanos ≤ nanos ∧ nanos < (maxMillis + 1) * milliNanos then
    some ⟨nanos, inside.1, inside.2⟩
  else
    none

/-- `DateTime::from_timestamp` at a whole second. -/
def fromTimestamp (seconds : Int) : Option DateTime := ofNanos (seconds * 1000000000)

/-- `checked_add_signed`, of a duration in nanoseconds. -/
def checkedAddSigned (instant : DateTime) (nanos : Int) : Option DateTime :=
  ofNanos (instant.nanos + nanos)

end DateTime

/-- The least signed number. -/
def i64Min : Int := -9223372036854775808
/-- The greatest signed number. -/
def i64Max : Int := 9223372036854775807
/-- The greatest unsigned number. -/
def u64Max : Nat := 18446744073709551615

/-- `i64::saturating_sub` and `i64::saturating_add`. -/
def saturatingSub (left right : Int) : Int := max i64Min (min i64Max (left - right))
/-- The standard `i64::saturating_add`. -/
def saturatingAdd (left right : Int) : Int := max i64Min (min i64Max (left + right))

/-- `i64::checked_add`. -/
def checkedAdd (left right : Int) : Option Int :=
  if i64Min ≤ left + right ∧ left + right ≤ i64Max then some (left + right) else none

/-- A difference follows its first number. -/
theorem saturatingSub_mono {earlier later : Int} (onward : earlier ≤ later) (window : Int) :
    saturatingSub earlier window ≤ saturatingSub later window :=
  max_le_max_left _ (min_le_min_left _ (Int.sub_le_sub_right onward window))

/-- On readings of the clock the minute window never saturates. -/
theorem saturatingSub_window {instant : DateTime} :
    saturatingSub instant.timestampMillis 60000 = instant.timestampMillis - 60000 := by
  have lower := instant.minMillis_le
  have upper := instant.le_maxMillis
  simp only [minMillis, maxMillis, NaiveDate.min, NaiveDate.max, dayMillis] at lower upper
  simp only [saturatingSub, i64Min, i64Max]
  omega

/-- A sum follows its first number. -/
theorem saturatingAdd_mono {earlier later : Int} (onward : earlier ≤ later) (window : Int) :
    saturatingAdd earlier window ≤ saturatingAdd later window :=
  max_le_max_left _ (min_le_min_left _ (Int.add_le_add_right onward window))

/-- A minute after an instant does not saturate. -/
theorem saturatingAdd_window {instant : DateTime} :
    saturatingAdd instant.timestampMillis 60000 = instant.timestampMillis + 60000 := by
  have lower := instant.minMillis_le
  have upper := instant.le_maxMillis
  simp only [minMillis, maxMillis, NaiveDate.min, NaiveDate.max, dayMillis] at lower upper
  simp only [saturatingAdd, i64Min, i64Max]
  omega

/-- Nor does the end of the minute after a time, as far as readings can tell. -/
theorem lt_saturatingAdd_iff {instant : DateTime} (time : Int) :
    instant.timestampMillis < saturatingAdd time 60000 ↔
      instant.timestampMillis - 60000 < time := by
  have lower := instant.minMillis_le
  have upper := instant.le_maxMillis
  simp only [minMillis, maxMillis, NaiveDate.min, NaiveDate.max, dayMillis] at lower upper
  simp only [saturatingAdd, i64Min, i64Max]
  omega

/-- `delay_seconds`: the wait until a timestamp, in seconds rounded up. -/
def delaySeconds (target now : Int) : Nat :=
  ((max (saturatingSub target now) 0).toNat + 999) / 1000

end RustEnrich
