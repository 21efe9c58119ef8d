import Iweb.Foundations.Calendar
import Iweb.Kernel.Wire
import Mathlib.Data.Int.Notation

/-!
# The clock of the host services

A log record carries the time of the host as a UTC timestamp with milliseconds. The date is computed from the count of
days since 1970 without a calendar library.
-/

namespace Iweb.HostClock

/-- A time of the system clock: nanoseconds since the start of 1970. -/
abbrev SystemTime := ℤ

/-- The milliseconds since the start of 1970, none of them before it. -/
def millisSinceEpoch (now : SystemTime) : ℕ := now.toNat / 1000000

/-- `unix_now_ms`: the milliseconds as `u64`. -/
def unixMillis (now : SystemTime) : ℕ := millisSinceEpoch now % 2 ^ 64

/-- `civil_from_days`; the division of signed integers truncates. -/
def civilFromDays (days : ℤ) : ℤ × ℕ × ℕ :=
  let z := days + 719468
  let era := (if z ≥ 0 then z else z - 146096).tdiv 146097
  let doe := (z - era * 146097).toNat
  let yoe := (doe - doe / 1460 + doe / 36524 - doe / 146096) / 365
  let year := (yoe : ℤ) + era * 400
  let doy := doe - (365 * yoe + yoe / 4 - yoe / 100)
  let mp := (5 * doy + 2) / 153
  let day := doy - (153 * mp + 2) / 5 + 1
  let month := if mp < 10 then mp + 3 else mp - 9
  (if month ≤ 2 then year + 1 else year, month, day)

/-- `{n:0width}`, for a signed number: the sign counts. -/
def padSigned (width : ℕ) (n : ℤ) : String :=
  if n < 0 then "-" ++ padDecimal (width - 1) n.natAbs else padDecimal width n.toNat

/-- The day of a time, as `format_utc_timestamp` counts it. -/
def dayCount (now : SystemTime) : ℕ := unixMillis now / 1000 / 86400

/-- `format_utc_timestamp` -/
def formatUtcTimestamp (now : SystemTime) : String :=
  let millis := unixMillis now
  let seconds := millis / 1000
  let secsOfDay := seconds % 86400
  let (year, month, day) := civilFromDays (dayCount now)
  padSigned 4 year ++ "-" ++ padDecimal 2 month ++ "-" ++ padDecimal 2 day ++ "T" ++
    padDecimal 2 (secsOfDay / 3600) ++ ":" ++ padDecimal 2 (secsOfDay % 3600 / 60) ++ ":" ++
    padDecimal 2 (secsOfDay % 60) ++ "." ++ padDecimal 3 (millis % 1000) ++ "Z"

/-- The year of a time in the calendar. -/
def yearOf (now : SystemTime) : ℤ := (civilFromDays (millisSinceEpoch now / 1000 / 86400 : ℕ)).1

end Iweb.HostClock
