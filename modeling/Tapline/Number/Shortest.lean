import Tapline.Number.Binary64
/-!
# The fewest digits that read back

A finite double is written with the fewest decimal digits that round to it, and among these with
the digits nearest to it. The reals that round to `m · 2^q` form an interval, whose ends belong to
it iff `m` is even. On the grid of numbers with `n` significant digits, if any grid point lies in
the interval then one of the two neighbours of the double does, so it is enough to test those two
for `n = 1, 2, …, 17`.
-/

namespace Tapline

/-- Which of two equally near digit rows is taken. -/
inductive TieRule where
  | up
  | toEven
deriving DecidableEq, Repr

/-- The number `digits · 10^exponent`. -/
structure DigitRow where
  digits : Nat
  exponent : Int
deriving DecidableEq, Repr

/-- A positive quotient. -/
structure Quotient where
  num : Nat
  den : Nat
deriving DecidableEq, Repr

namespace Quotient

/-- The quotient `mantissa · 2^exponent`. -/
def ofScaled (mantissa : Nat) (exponent : Int) : Quotient :=
  if 0 ≤ exponent then ⟨mantissa * Nat.pow 2 exponent.toNat, 1⟩
  else ⟨mantissa, Nat.pow 2 (-exponent).toNat⟩

/-- The quotient divided by a power of ten. -/
def perPower (x : Quotient) (exponent : Int) : Quotient :=
  if 0 ≤ exponent then ⟨x.num, x.den * Nat.pow 10 exponent.toNat⟩
  else ⟨x.num * Nat.pow 10 (-exponent).toNat, x.den⟩

/-- Strict order by cross multiplication. -/
def less (x y : Quotient) : Bool := x.num * y.den < y.num * x.den

/-- The greatest `e` with `10^e ≤ x`, searched downwards from an upper bound. -/
def decimalOrder (x : Quotient) (bound : Int) : Nat → Int
  | 0 => bound
  | fuel + 1 =>
    let unit := x.perPower bound
    if unit.den ≤ unit.num then bound else decimalOrder x (bound - 1) fuel

end Quotient

/-- The reals that round to a double. -/
structure RoundingInterval where
  low : Quotient
  high : Quotient
  closed : Bool
deriving DecidableEq, Repr

namespace RoundingInterval

/-- Half way to the neighbours of `m · 2^q`; the lower neighbour of a power of two is nearer. -/
def ofScaled (m : Nat) (q : Int) : RoundingInterval :=
  let low := if m = Nat.pow 2 52 ∧ -1074 < q then Quotient.ofScaled (4 * m - 1) (q - 2)
    else Quotient.ofScaled (2 * m - 1) (q - 1)
  ⟨low, Quotient.ofScaled (2 * m + 1) (q - 1), m % 2 == 0⟩

def holds (i : RoundingInterval) (x : Quotient) : Bool :=
  if i.closed then !x.less i.low && !i.high.less x else i.low.less x && x.less i.high

end RoundingInterval

namespace Shortest

/-- The better of the two grid neighbours that read back, on the grid of multiples of
`10^exponent`. -/
def onGrid? (tie : TieRule) (i : RoundingInterval) (x : Quotient) (exponent : Int) :
    Option DigitRow :=
  let unit := x.perPower exponent
  let below := unit.num / unit.den
  let rest := unit.num % unit.den
  let point (digits : Nat) : Quotient :=
    if 0 ≤ exponent then ⟨digits * Nat.pow 10 exponent.toNat, 1⟩
    else ⟨digits, Nat.pow 10 (-exponent).toNat⟩
  let lower := i.holds (point below)
  let upper := i.holds (point (below + 1))
  let takeUpper : Bool :=
    if 2 * rest < unit.den then false
    else if unit.den < 2 * rest then true
    else match tie with
      | .up => true
      | .toEven => below % 2 == 1
  if lower && upper then some ⟨if takeUpper then below + 1 else below, exponent⟩
  else if lower then some ⟨below, exponent⟩
  else if upper then some ⟨below + 1, exponent⟩
  else none

/-- Takes the coarsest grid with a hit, starting from a given number of digits. -/
def search (tie : TieRule) (i : RoundingInterval) (x : Quotient) (order : Int) :
    Nat → Nat → DigitRow
  | n, 0 => ⟨(x.perPower (order - n)).num / (x.perPower (order - n)).den, order - n⟩
  | n, fuel + 1 => (onGrid? tie i x (order - n)).getD (search tie i x order (n + 1) fuel)

/-- A digit row without a needless zero. Only the coarsest grid can reach the next power of ten,
and there only as ten units. -/
def carry (row : DigitRow) : DigitRow :=
  if row.digits = 10 then ⟨1, row.exponent + 1⟩ else row

/-- The digits of the positive number `m · 2^q`. -/
def ofScaled (tie : TieRule) (m : Nat) (q : Int) : DigitRow :=
  let x := Quotient.ofScaled m q
  -- 1233 / 4096 approximates the decimal logarithm of two; one more makes it an upper bound.
  let bound := ((Nat.log2 m : Int) + q + 1) * 1233 / 4096 + 1
  carry (search tie (.ofScaled m q) x (x.decimalOrder bound 8) 0 17)

end Shortest

end Tapline
