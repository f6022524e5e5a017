import Mathlib.Data.Int.ConditionallyCompleteOrder
import Mathlib.Data.Int.Notation

/-!
# Instants

Every timestamp is normalised to UTC before it is compared, naive values being
read as UTC. A timestamp is therefore its number of microseconds since the
epoch, and a duration is a number of microseconds.
-/

namespace FinopsAnalytics

/-- A timestamp in microseconds since the epoch, in UTC. -/
abbrev Instant := ℤ

/-- A difference of timestamps in microseconds. -/
abbrev Duration := ℤ

/-- `timedelta(hours=count)`. -/
def hours (count : ℤ) : Duration := count * 3600000000

/-- `timedelta(days=count)`. -/
def days (count : ℤ) : Duration := count * 86400000000

end FinopsAnalytics
