import Tapline.Time.Zone
/-!
# Clocks

Two clocks are read: the wall clock, which tells the local date, and a steady clock, which never
goes back and measures elapsed time. The steady clock ends: a point in time past its end cannot be
named.
-/

namespace Tapline

/-- A point on the steady clock, in nanoseconds from its start. -/
structure Instant where
  nanos : Nat
deriving DecidableEq, Repr, Inhabited

namespace Instant

/-- The number of seconds that the steady clock can count. It is a signed word of 64 bits, and has
been running for some days when the first instant is named. -/
def endSeconds : Nat := 0x8000000000000000 - 1000000

/-- A point in time later by a duration, unless the clock has ended by then. -/
def after? (instant : Instant) (d : Duration) : Option Instant :=
  let nanos := instant.nanos + d.totalNanos
  if nanos / nanosPerSecond < endSeconds then some ⟨nanos⟩ else none

def earlier (a b : Instant) : Instant := if a.nanos < b.nanos then a else b

/-- The time from one point to another; none if the other comes first. -/
def elapsedTo (start stop : Instant) : Duration := Duration.ofNanos (stop.nanos - start.nanos)

def describe (instant : Instant) : String :=
  "Instant \x7b tv_sec: " ++ toString (instant.nanos / nanosPerSecond) ++ ", tv_nsec: " ++
    toString (instant.nanos % nanosPerSecond) ++ " \x7d"

end Instant

/-- The time from one date to another, unless the other comes first. -/
def Timestamp.elapsedTo? (start stop : Timestamp) : Option Duration :=
  let elapsed := (stop.seconds - start.seconds) * nanosPerSecond + (stop.nanos : Int) - start.nanos
  if elapsed < 0 then none else some (Duration.ofNanos elapsed.toNat)

/-- Both clocks, read at once. The wall clock also tells how far it is ahead of UTC. -/
structure ClockReading where
  wall : LocalTime
  steady : Instant
deriving DecidableEq

end Tapline
