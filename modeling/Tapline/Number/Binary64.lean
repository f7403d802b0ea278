/-!
# Doubles

A double is its bit pattern. Reading the pattern gives a sign and a magnitude `m · 2^q` with
integers `m` and `q`, an infinity, or no number at all. Every arithmetic result is an exact
rational that is rounded once, to the nearest double, a tie going to the even mantissa; so one
function, `ofRatio`, decides all rounding, and nothing depends on a machine's floating point unit.
-/

namespace Tapline

/-- A double, by its 64 bits. -/
structure Binary64 where
  bits : UInt64
deriving DecidableEq, Repr, Inhabited

/-- What a bit pattern denotes. -/
inductive Reading where
  | undefined
  | infinite (negative : Bool)
  /-- The number `± mantissa · 2^exponent`. -/
  | finite (negative : Bool) (mantissa : Nat) (exponent : Int)
deriving DecidableEq, Repr

/-! ### Rounding a quotient -/

/-- The integer nearest to a quotient; a tie goes to the even one. -/
def roundHalfEven (num den : Nat) : Nat :=
  let floor := num / den
  let rest := num % den
  if 2 * rest < den then floor
  else if den < 2 * rest then floor + 1
  -- Half way: up from an odd number only.
  else floor + floor % 2

/-- The greatest `e` with `2^e ≤ num / den`, both being positive. -/
def binaryOrder (num den : Nat) : Int :=
  let guess : Int := (Nat.log2 num : Int) - (Nat.log2 den : Int)
  let reached : Bool :=
    if 0 ≤ guess then den * Nat.pow 2 guess.toNat ≤ num
    else den ≤ num * Nat.pow 2 (-guess).toNat
  if reached then guess else guess - 1

/-- A quotient in units of `2^unit`, rounded to an integer. -/
def roundInUnits (num den : Nat) (unit : Int) : Nat :=
  if 0 ≤ unit then roundHalfEven num (den * Nat.pow 2 unit.toNat)
  else roundHalfEven (num * Nat.pow 2 (-unit).toNat) den

/-- The mantissa and exponent nearest to a positive quotient, for a format whose mantissas have
`precision` bits and whose exponents start at `least`. -/
def roundBinary (precision : Nat) (least : Int) (num den : Nat) : Nat × Int :=
  let unit := max (binaryOrder num den - ((precision - 1 : Nat) : Int)) least
  (roundInUnits num den unit, unit)

namespace Binary64

/-! ### Bit patterns -/

def negative (x : Binary64) : Bool := Nat.pow 2 63 ≤ x.bits.toNat

def read (x : Binary64) : Reading :=
  let field : Nat := x.bits.toNat / Nat.pow 2 52 % Nat.pow 2 11
  let fraction : Nat := x.bits.toNat % Nat.pow 2 52
  -- The two outer values of the exponent field are for what is no normal number.
  if field = 2047 then if fraction = 0 then .infinite x.negative else .undefined
  else if field = 0 then .finite x.negative fraction (-1074)
  else .finite x.negative (Nat.pow 2 52 + fraction) ((field : Int) - 1075)

/-- A sign over the other 63 bits. -/
def withSign (negative : Bool) (magnitude : Nat) : Binary64 :=
  ⟨UInt64.ofNat (if negative then Nat.pow 2 63 + magnitude else magnitude)⟩

/-- The pattern of an infinity, less its sign. -/
def infinityBits : Nat := 2047 * Nat.pow 2 52

def infinity (negative : Bool) : Binary64 := withSign negative infinityBits

/-- The pattern that stands for no number. -/
def nan : Binary64 := ⟨0x7FF8000000000000⟩

def zero (negative : Bool) : Binary64 := withSign negative 0

def isNaN (x : Binary64) : Bool := x.read == .undefined

def isFinite (x : Binary64) : Bool :=
  match x.read with
  | .finite .. => true
  | _ => false

/-! ### From exact numbers -/

/-- The double nearest to `± num / den`; beyond the greatest one, an infinity. -/
def ofRatio (negative : Bool) (num den : Nat) : Binary64 :=
  if num = 0 then zero negative
  else
    let (mantissa, unit) := roundBinary 53 (-1074) num den
    -- The leading mantissa bit, where there is one, adds one to the exponent field.
    let pattern := (unit + 1074).toNat * Nat.pow 2 52 + mantissa
    if infinityBits ≤ pattern then infinity negative else withSign negative pattern

/-- The double nearest to `± mantissa · 2^exponent`. -/
def ofScaled (negative : Bool) (mantissa : Nat) (exponent : Int) : Binary64 :=
  if 0 ≤ exponent then ofRatio negative (mantissa * Nat.pow 2 exponent.toNat) 1
  else ofRatio negative mantissa (Nat.pow 2 (-exponent).toNat)

def ofInt (n : Int) : Binary64 := ofRatio (n < 0) n.natAbs 1

/-- The single-precision number nearest to `± num / den`, as a double. -/
def ofRatioSingle (negative : Bool) (num den : Nat) : Binary64 :=
  if num = 0 then zero negative
  else
    let (mantissa, unit) := roundBinary 24 (-149) num den
    if 0 ≤ unit ∧ Nat.pow 2 128 ≤ mantissa * Nat.pow 2 unit.toNat then infinity negative
    else ofScaled negative mantissa unit

/-! ### Comparison -/

/-- A number that orders doubles other than undefined ones; both zeros have the same. -/
def orderKey (x : Binary64) : Int :=
  let magnitude : Int := ((x.bits.toNat % Nat.pow 2 63 : Nat) : Int)
  if x.negative then -magnitude else magnitude

/-- Numeric equality: an undefined double equals nothing, and both zeros are equal. -/
def equals (x y : Binary64) : Bool :=
  !x.isNaN && !y.isNaN && x.orderKey == y.orderKey

/-- Numeric order; an undefined double is comparable to nothing. -/
def atMost (x y : Binary64) : Bool :=
  !x.isNaN && !y.isNaN && x.orderKey ≤ y.orderKey

/-! ### Arithmetic -/

private def signed (negative : Bool) (n : Nat) : Int := if negative then -(n : Int) else n

/-- The rounded sum. A sum of opposite infinities is undefined; a zero sum is negative only if
both summands are. -/
def add (x y : Binary64) : Binary64 :=
  match x.read, y.read with
  | .undefined, _ => nan
  | _, .undefined => nan
  | .infinite s, .infinite t => if s = t then x else nan
  | .infinite _, _ => x
  | _, .infinite _ => y
  | .finite s m p, .finite t n q =>
    let unit := min p q
    let total := signed s (m * Nat.pow 2 (p - unit).toNat) +
      signed t (n * Nat.pow 2 (q - unit).toNat)
    -- The sum is exact up to here and rounded once.
    if total = 0 then zero (s && t) else ofScaled (total < 0) total.natAbs unit

/-- The rounded quotient of finite doubles, the second not being zero. -/
def divide (x y : Binary64) : Binary64 :=
  match x.read, y.read with
  | .finite s m p, .finite t n q =>
    let scale := p - q
    if 0 ≤ scale then ofRatio (s != t) (m * Nat.pow 2 scale.toNat) n
    else ofRatio (s != t) m (n * Nat.pow 2 (-scale).toNat)
  | _, _ => nan

end Binary64

end Tapline
