import Tapline.Number.Binary64
/-!
# Decimal numerals for doubles

A numeral is a sign, digits with an optional point, and an optional exponent. It is read as the
exact rational it denotes, which is rounded once. Numerals far outside the range of doubles are
settled by the place of their first digit, without building the power of ten.
-/

namespace Tapline

/-- The exact number `± digits · 10^exponent`. -/
structure Decimal where
  negative : Bool
  digits : Nat
  exponent : Int
deriving DecidableEq, Repr

namespace Decimal

/-- The number that a row of digits denotes. -/
def digitsValue (digits : List Char) : Nat :=
  digits.foldl (fun value c => value * 10 + (c.toNat - '0'.toNat)) 0

/-- Splits the longest row of digits off. -/
def splitDigits (cs : List Char) : List Char × List Char := cs.span Char.isDigit

/-- An optional sign, and what follows it. -/
def splitSign : List Char → Bool × List Char
  | '-' :: rest => (true, rest)
  | '+' :: rest => (false, rest)
  | rest => (false, rest)

/-- An exponent part, or nothing. -/
def exponent? : List Char → Option Int
  | [] => some 0
  | c :: rest =>
    if c = 'e' ∨ c = 'E' then
      let (negative, rest) := splitSign rest
      let (digits, rest) := splitDigits rest
      if digits.isEmpty ∨ !rest.isEmpty then none
      else some (if negative then -(digitsValue digits : Int) else digitsValue digits)
    else none

/-- Reads a numeral; some digit must stand before the exponent. -/
def ofText? (text : List Char) : Option Decimal := do
  let (negative, rest) := splitSign text
  let (whole, rest) := splitDigits rest
  let (fraction, rest) := match rest with
    | '.' :: rest => splitDigits rest
    | _ => ([], rest)
  if whole.isEmpty && fraction.isEmpty then none
  let exponent ← exponent? rest
  some ⟨negative, digitsValue (whole ++ fraction), exponent - fraction.length⟩

def ratio (d : Decimal) : Nat × Nat :=
  if 0 ≤ d.exponent then (d.digits * Nat.pow 10 d.exponent.toNat, 1)
  else (d.digits, Nat.pow 10 (-d.exponent).toNat)

def width (n : Nat) : Nat := (Nat.toDigits 10 n).length

/-- Whether the number is so great, or so small, that it can only round to an infinity or zero. -/
def beyond (d : Decimal) : Option Bool :=
  let place := d.exponent + width d.digits
  if 400 < place then some true else if place < -400 then some false else none

def toBinary64 (d : Decimal) : Binary64 :=
  if d.digits = 0 then .zero d.negative
  else match d.beyond with
    | some true => .infinity d.negative
    | some false => .zero d.negative
    | none => .ofRatio d.negative d.ratio.1 d.ratio.2

/-- The nearest single-precision number, as a double. -/
def toSingle (d : Decimal) : Binary64 :=
  if d.digits = 0 then .zero d.negative
  else match d.beyond with
    | some true => .infinity d.negative
    | some false => .zero d.negative
    | none => .ofRatioSingle d.negative d.ratio.1 d.ratio.2

end Decimal

end Tapline
