import Tapline.Json.Reader
import Tapline.Number.FloatText
/-!
# What numbers are written with

Integers and finite doubles are written with digits, signs, points and exponent marks, the
characters of numerals and no others.
-/

namespace Tapline

open Json (isNumeralChar)

theorem isNumeralChar_of_isDigit {c : Char} (digit : c.isDigit = true) :
    isNumeralChar c = true := by
  simp [isNumeralChar, digit]

theorem isNumeralChar_of_mem_toDigits {n : Nat} {c : Char} (member : c ∈ Nat.toDigits 10 n) :
    isNumeralChar c = true :=
  isNumeralChar_of_isDigit (Nat.isDigit_of_mem_toDigits (by decide) (by decide) member)

/-- An integer is its digits, behind a sign if it is negative. -/
theorem toList_toString_int (n : Int) :
    (toString n).toList = (if n < 0 then ['-'] else []) ++ Nat.toDigits 10 n.natAbs := by
  rw [Int.toString_eq_repr]
  cases n with
  | ofNat n => simp [Int.repr]
  | negSucc n => simp [Int.repr]

theorem isNumeralChar_of_mem_toString {n : Int} {c : Char} (member : c ∈ (toString n).toList) :
    isNumeralChar c = true := by
  rw [toList_toString_int, List.mem_append] at member
  rcases member with sign | digit
  · split at sign
    · obtain rfl : c = '-' := by simpa using sign
      rfl
    · simp at sign
  · exact isNumeralChar_of_mem_toDigits digit

namespace Binary64

theorem isNumeralChar_of_mem_exponentText {style : FloatStyle} {digits : List Char} {point : Int}
    (numeral : ∀ c ∈ digits, isNumeralChar c = true) :
    ∀ c ∈ exponentText style digits point, isNumeralChar c = true := by
  intro c member
  simp only [exponentText, List.mem_append] at member
  -- Mantissa, exponent mark, sign and exponent, in this order.
  rcases member with ((mantissa | mark) | sign) | exponent
  · split at mantissa
    · simp at mantissa
    · exact numeral c mantissa
    next d rest _ =>
      rcases List.mem_cons.mp mantissa with rfl | later
      · exact numeral c List.mem_cons_self
      · rcases List.mem_cons.mp later with rfl | fraction
        · rfl
        · exact numeral c (List.mem_cons_of_mem _ fraction)
  · obtain rfl : c = 'e' := by simpa using mark
    rfl
  · split at sign
    · obtain rfl : c = '+' := by simpa using sign
      rfl
    · simp at sign
  · exact isNumeralChar_of_mem_toString exponent

theorem isNumeralChar_of_mem_magnitudeText {style : FloatStyle} {m : Nat} {q : Int} :
    ∀ c ∈ magnitudeText style m q, isNumeralChar c = true := by
  intro c member
  unfold magnitudeText at member
  split at member
  · split at member
    · rcases (by simpa using member : c = '0' ∨ c = '.' ∨ c = '0') with rfl | rfl | rfl <;> rfl
    · obtain rfl : c = '0' := by simpa using member
      rfl
  · simp only at member
    split at member
    · rcases mem_positionalText member with digit | rfl | rfl
      · exact isNumeralChar_of_mem_toDigits digit
      · rfl
      · rfl
    · exact isNumeralChar_of_mem_exponentText (fun _ => isNumeralChar_of_mem_toDigits) c member

theorem isNumeralChar_of_mem_text {style : FloatStyle} {x : Binary64} (finite : x.isFinite = true) :
    ∀ c ∈ (x.text style).toList, isNumeralChar c = true := by
  intro c member
  unfold isFinite at finite
  unfold text at member
  split at finite
  next negative m q reads =>
    rw [reads] at member
    simp only [String.toList_ofList, List.mem_append] at member
    rcases member with sign | magnitude
    · split at sign
      · obtain rfl : c = '-' := by simpa using sign
        rfl
      · simp at sign
    · exact isNumeralChar_of_mem_magnitudeText c magnitude
  · cases finite

end Binary64

end Tapline
