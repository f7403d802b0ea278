import Tapline.Number.Binary64
/-!
# Elapsed time

A duration is whole seconds and a count of nanoseconds below a second. Its text uses the largest
unit that is not zero, with the fraction's trailing zeros dropped: the seconds and nanoseconds can
be read back from it.
-/

namespace Tapline

def nanosPerSecond : Nat := 1000000000

/-- Elapsed time. -/
structure Duration where
  seconds : UInt64
  nanos : Nat
  nanos_lt : nanos < nanosPerSecond := by decide
deriving DecidableEq

namespace Duration

def zero : Duration := ⟨0, 0, by decide⟩

instance : Inhabited Duration := ⟨zero⟩

def isZero (d : Duration) : Bool := d.seconds == 0 && d.nanos == 0

def totalNanos (d : Duration) : Nat := d.seconds.toNat * nanosPerSecond + d.nanos

def totalMillis (d : Duration) : Nat := d.totalNanos / 1000000

/-- A number of nanoseconds; seconds beyond 64 bits are not counted. -/
def ofNanos (n : Nat) : Duration :=
  ⟨UInt64.ofNat (n / nanosPerSecond), n % nanosPerSecond, Nat.mod_lt _ (by decide)⟩

def ofMillis (n : Nat) : Duration := ofNanos (n * 1000000)

/-! ### Text -/

/-- A number in a fixed number of digits, zeros first. -/
def padded (width n : Nat) : List Char :=
  let digits := Nat.toDigits 10 n
  List.replicate (width - digits.length) '0' ++ digits

/-- Drops zeros from the end. -/
def trimZeros (digits : List Char) : List Char :=
  (digits.reverse.dropWhile (· == '0')).reverse

/-- A number of units with a decimal fraction, without trailing zeros. -/
def unitText (whole fraction places : Nat) (unit : String) : String :=
  let digits := trimZeros (padded places fraction)
  String.ofList (Nat.toDigits 10 whole ++ (if digits.isEmpty then [] else '.' :: digits)) ++ unit

def text (d : Duration) : String :=
  if 0 < d.seconds.toNat then unitText d.seconds.toNat d.nanos 9 "s"
  else if 1000000 ≤ d.nanos then unitText (d.nanos / 1000000) (d.nanos % 1000000) 6 "ms"
  else if 1000 ≤ d.nanos then unitText (d.nanos / 1000) (d.nanos % 1000) 3 "µs"
  else unitText d.nanos 0 0 "ns"

/-- Seconds as a double: whole seconds and the fraction are rounded apart, then their sum. -/
def toSeconds (d : Duration) : Binary64 :=
  (Binary64.ofInt d.seconds.toNat).add
    ((Binary64.ofInt d.nanos).divide (Binary64.ofInt nanosPerSecond))

end Duration

end Tapline
