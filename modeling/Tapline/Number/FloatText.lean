import Tapline.Number.Shortest
/-!
# How doubles are written

The digits of a double are the shortest ones that read back. A style says the rest: where the
decimal point may stand before an exponent is used, whether an integral number keeps a point, and
which of two equally near digit rows is taken.
-/

namespace Tapline

/-- The decisions of one number format. -/
structure FloatStyle where
  /-- Places of the point, counted from before the first digit, that are written out. -/
  positional : Int → Bool
  /-- Whether an integral number written out ends in a point and a zero. -/
  keepPoint : Bool
  /-- Whether an exponent that is not negative has a plus sign. -/
  plusSign : Bool
  tie : TieRule

namespace FloatStyle

/-- Running text: never an exponent, and no point in an integral number. -/
def plain : FloatStyle := ⟨fun _ => true, false, false, .up⟩

/-- JSON: exponents from `1e+16` on and below `1e-5`, and a point in integral numbers. -/
def json : FloatStyle := ⟨fun point => -5 < point && point ≤ 16, true, true, .toEven⟩

/-- Descriptions of structures: exponents from `1e16` on and below `1e-4`. -/
def described : FloatStyle := ⟨fun point => -4 < point && point ≤ 16, true, false, .up⟩

end FloatStyle

namespace Binary64

private def zeros (n : Nat) : List Char := List.replicate n '0'

/-- Digits written out around a point that stands `point` places after the first digit's front. -/
def positionalText (style : FloatStyle) (digits : List Char) (point : Int) : List Char :=
  if point ≤ 0 then ['0', '.'] ++ zeros (-point).toNat ++ digits
  else if point.toNat < digits.length then
    digits.take point.toNat ++ ['.'] ++ digits.drop point.toNat
  else
    digits ++ zeros (point.toNat - digits.length) ++ (if style.keepPoint then ['.', '0'] else [])

theorem mem_positionalText {style : FloatStyle} {digits : List Char} {point : Int} {c : Char}
    (member : c ∈ positionalText style digits point) : c ∈ digits ∨ c = '0' ∨ c = '.' := by
  unfold positionalText at member
  split at member
  · simp only [zeros, List.mem_append, List.mem_cons, List.mem_replicate] at member
    grind
  · split at member
    · simp only [List.mem_append, List.mem_cons] at member
      grind [List.mem_of_mem_take, List.mem_of_mem_drop]
    · simp only [zeros, List.mem_append, List.mem_replicate] at member
      grind

/-- Digits before an exponent of ten. -/
def exponentText (style : FloatStyle) (digits : List Char) (point : Int) : List Char :=
  let mantissa := match digits with
    | [] => []
    | [d] => [d]
    | d :: rest => d :: '.' :: rest
  let sign := if style.plusSign && 1 ≤ point then ['+'] else []
  mantissa ++ ['e'] ++ sign ++ (toString (point - 1)).toList

/-- The text of a finite magnitude. -/
def magnitudeText (style : FloatStyle) (m : Nat) (q : Int) : List Char :=
  if m = 0 then '0' :: (if style.keepPoint then ['.', '0'] else [])
  else
    let row := Shortest.ofScaled style.tie m q
    let digits := Nat.toDigits 10 row.digits
    let point := (digits.length : Int) + row.exponent
    if style.positional point then positionalText style digits point
    else exponentText style digits point

def text (style : FloatStyle) (x : Binary64) : String :=
  match x.read with
  | .undefined => "NaN"
  | .infinite negative => if negative then "-inf" else "inf"
  | .finite negative m q =>
    String.ofList ((if negative then ['-'] else []) ++ magnitudeText style m q)

end Binary64

end Tapline
