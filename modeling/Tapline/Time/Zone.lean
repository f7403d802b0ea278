import Tapline.Time.Calendar
import Tapline.Time.Duration
/-!
# Local time

A local time is a point in time as a clock somewhere shows it: the point, and how far that clock
was ahead of UTC when it was read. The offset stays with the time, so the clock can be shown again
whatever has happened to it since. Two local times of one point may differ in it; then they show
different hours, and are the same point all the same.
-/

namespace Tapline

/-- How far a clock is ahead of UTC: less than a day, either way. -/
structure ZoneOffset where
  seconds : Int
  seconds_lt : seconds.natAbs < 86400 := by decide
deriving DecidableEq

namespace ZoneOffset

/-- The offset of UTC itself. -/
def utc : ZoneOffset := ⟨0, by decide⟩

instance : Inhabited ZoneOffset := ⟨utc⟩

def sign (offset : ZoneOffset) : Char := if offset.seconds < 0 then '-' else '+'

/-- Hours and minutes, rounded to the nearest minute. -/
def text (offset : ZoneOffset) (colon : Bool) : List Char :=
  -- The half minute goes away from UTC, since the sign is taken off before.
  let minutes := (offset.seconds.natAbs + 30) / 60
  offset.sign :: (Duration.padded 2 (minutes / 60) ++ (if colon then [':'] else []) ++
    Duration.padded 2 (minutes % 60))

/-- Hours, minutes and, if there are any, seconds. -/
def describe (offset : ZoneOffset) : List Char :=
  let seconds := offset.seconds.natAbs
  offset.sign :: (Duration.padded 2 (seconds / 3600) ++
    ':' :: Duration.padded 2 (seconds / 60 % 60) ++
    (if seconds % 60 = 0 then [] else ':' :: Duration.padded 2 (seconds % 60)))

end ZoneOffset

/-- A point in time, and the offset of the clock that it was read from. -/
structure LocalTime where
  instant : Timestamp
  offset : ZoneOffset
deriving DecidableEq, Inhabited

namespace LocalTime

instance : Coe LocalTime Timestamp := ⟨instant⟩

/-- A point in time as a clock in UTC shows it. -/
def utc (t : Timestamp) : LocalTime := ⟨t, .utc⟩

/-- Whether two local times are one point in time, whatever their clocks show. -/
def simultaneous (a b : LocalTime) : Bool := a.instant == b.instant

/-- The civil time that the clock shows. -/
def civil (t : LocalTime) : CivilTime :=
  .ofTimestamp { t.instant with seconds := t.instant.seconds + t.offset.seconds }

end LocalTime

end Tapline
