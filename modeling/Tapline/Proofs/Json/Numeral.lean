import Mathlib.Data.List.TakeDrop
import Tapline.Proofs.Number.Numeral
/-!
# Integers read back

The text of an integer of 64 bits, with or without a sign, is a well-formed numeral without a
needless zero, and reading it gives the integer again, and not a double.
-/

namespace Tapline

/-! ### Digits -/

theorem digitsValue_toDigits (n : Nat) : Decimal.digitsValue (Nat.toDigits 10 n) = n := by
  have same := @Nat.ofDigitChars_ten_toDigits n
  rw [Nat.ofDigitChars_eq_foldl] at same
  simpa only [Decimal.digitsValue, Nat.mul_comm] using same

theorem head?_toDigits_ne_zero {n : Nat} (positive : 0 < n) :
    (Nat.toDigits 10 n).head? ≠ some '0' := by
  induction n using Nat.strongRecOn with
  | _ n ih =>
    by_cases small : n < 10
    · rw [Nat.toDigits_of_lt_base small]
      simp only [List.head?_cons, ne_eq, Option.some.injEq, Nat.digitChar_eq_zero]
      omega
    · rw [Nat.toDigits_of_base_le (by decide) (by omega), List.head?_append]
      have shorter := ih (n / 10) (by omega) (by omega)
      obtain ⟨d, ds, same⟩ :=
        List.exists_cons_of_ne_nil (Nat.toDigits_ne_nil (n := n / 10) (b := 10))
      rw [same] at shorter ⊢
      exact shorter

theorem isDigit_of_mem_toDigits {n : Nat} : ∀ c ∈ Nat.toDigits 10 n, c.isDigit = true :=
  fun _ => Nat.isDigit_of_mem_toDigits (by decide) (by decide)

/-- A row of digits is split off up to what is no digit. -/
theorem span_append {p : Char → Bool} {cs rest : List Char} (all : ∀ c ∈ cs, p c = true)
    (stop : ∀ c ∈ rest.head?, p c = false) : (cs ++ rest).span p = (cs, rest) := by
  rw [List.span_eq_takeWhile_dropWhile, List.takeWhile_append_of_pos all,
    List.dropWhile_append_of_pos all]
  cases rest with
  | nil => simp
  | cons c rest => simp [stop c (by simp)]

theorem span_toDigits (n : Nat) :
    (Nat.toDigits 10 n).span Char.isDigit = (Nat.toDigits 10 n, []) := by
  have whole := @span_append Char.isDigit _ [] (isDigit_of_mem_toDigits (n := n)) nofun
  rwa [List.append_nil] at whole

theorem ne_minus_of_isDigit {c : Char} (digit : c.isDigit = true) : c ≠ '-' := by
  rintro rfl
  exact absurd digit (by decide)

theorem exists_digits (n : Nat) : ∃ d ds, Nat.toDigits 10 n = d :: ds ∧ d.isDigit = true := by
  obtain ⟨d, ds, same⟩ := List.exists_cons_of_ne_nil (Nat.toDigits_ne_nil (n := n) (b := 10))
  exact ⟨d, ds, same, isDigit_of_mem_toDigits (n := n) d (by simp [same])⟩

namespace Decimal

theorem ofText?_toDigits (n : Nat) : ofText? (Nat.toDigits 10 n) = some ⟨false, n, 0⟩ := by
  have whole := span_toDigits n
  have value := digitsValue_toDigits n
  obtain ⟨d, ds, same, digit⟩ := exists_digits n
  rw [same] at whole value ⊢
  have unsigned : splitSign (d :: ds) = (false, d :: ds) := by
    unfold splitSign
    split
    next same =>
      obtain ⟨rfl, -⟩ := List.cons.inj same
      exact absurd digit (by decide)
    next same =>
      obtain ⟨rfl, -⟩ := List.cons.inj same
      exact absurd digit (by decide)
    · rfl
  simp only [ofText?, unsigned, splitDigits, whole]
  simp [exponent?, value]

theorem ofText?_negative (n : Nat) : ofText? ('-' :: Nat.toDigits 10 n) = some ⟨true, n, 0⟩ := by
  have whole := span_toDigits n
  simp only [ofText?, splitSign, splitDigits, whole]
  simp [exponent?, digitsValue_toDigits]

end Decimal

namespace Json

theorem wellFormedNumeral_toDigits (n : Nat) : wellFormedNumeral (Nat.toDigits 10 n) = true := by
  have whole := span_toDigits n
  have needless : (Nat.toDigits 10 n).length = 1 ∨ (Nat.toDigits 10 n).head? ≠ some '0' := by
    rcases Nat.eq_zero_or_pos n with rfl | positive
    · exact Or.inl (by simp)
    · exact Or.inr (head?_toDigits_ne_zero positive)
  obtain ⟨d, ds, same, digit⟩ := exists_digits n
  have unsigned := ne_minus_of_isDigit digit
  rw [same] at whole needless ⊢
  simp only [List.length_cons, List.head?_cons, ne_eq, Option.some.injEq] at needless
  have plain : ((d :: ds).head? == some '-') = false := by simpa using unsigned
  simp only [wellFormedNumeral, plain, Bool.false_eq_true, if_false, whole]
  simpa using needless

theorem wellFormedNumeral_negative (n : Nat) :
    wellFormedNumeral ('-' :: Nat.toDigits 10 n) = wellFormedNumeral (Nat.toDigits 10 n) := by
  obtain ⟨d, ds, same, digit⟩ := exists_digits n
  have unsigned := ne_minus_of_isDigit digit
  simp [wellFormedNumeral, same, unsigned]

/-- An integer of 64 bits, with or without a sign. -/
def IsWord (n : Int) : Prop := -0x8000000000000000 ≤ n ∧ n ≤ 0xFFFFFFFFFFFFFFFF

theorem isWord_toInt (n : Int64) : IsWord n.toInt := by
  have below := n.toInt_lt
  have above := n.le_toInt
  constructor <;> omega

theorem isWord_toNat (n : UInt64) : IsWord n.toNat := by
  have below := n.toNat_lt
  constructor <;> omega

theorem numberOf?_of_integral {cs : List Char} {decimal : Decimal} {n : Int}
    (formed : wellFormedNumeral cs = true) (read : Decimal.ofText? cs = some decimal)
    (digits : ∀ c ∈ cs, c.isDigit = true ∨ c = '-')
    (value : (if decimal.negative then -(decimal.digits : Int) else decimal.digits) = n)
    (signed : ¬ (decimal.negative = true ∧ decimal.digits = 0))
    (fits : IsWord n) : numberOf? cs = some (.integer n) := by
  have integral : cs.all (fun c => c.isDigit || c == '-') = true := by
    rw [List.all_eq_true]
    intro c member
    simpa using digits c member
  have nonzero : (!(decimal.negative && decimal.digits == 0)) = true := by
    rw [Bool.not_eq_true']
    exact Bool.eq_false_iff.mpr fun zero => signed (by simpa using zero)
  subst value
  unfold numberOf?
  rw [formed, read]
  simp only [Bool.not_true, Bool.false_eq_true, if_false, Option.bind_eq_bind, Option.bind_some]
  exact if_pos ⟨integral, fits.1, fits.2, nonzero⟩

/-- An integer of 64 bits reads back as that integer. -/
theorem numberOf?_toString {n : Int} (fits : IsWord n) :
    numberOf? (toString n).toList = some (.integer n) := by
  have digits : ∀ c ∈ Nat.toDigits 10 n.natAbs, c.isDigit = true ∨ c = '-' :=
    fun c member => Or.inl (isDigit_of_mem_toDigits c member)
  rw [toList_toString_int]
  by_cases negative : n < 0
  · have restored : -(n.natAbs : Int) = n := by omega
    -- A negative zero would be a double, but no integer is one.
    have nonzero : n.natAbs ≠ 0 := by omega
    rw [if_pos negative, List.singleton_append]
    refine numberOf?_of_integral ?_ (Decimal.ofText?_negative _) ?_ restored ?_ fits
    · rw [wellFormedNumeral_negative, wellFormedNumeral_toDigits]
    · intro c member
      rcases List.mem_cons.mp member with rfl | member
      · exact Or.inr rfl
      · exact digits c member
    · exact fun zero => nonzero zero.2
  · have restored : (n.natAbs : Int) = n := by omega
    rw [if_neg negative, List.nil_append]
    exact numberOf?_of_integral (wellFormedNumeral_toDigits _) (Decimal.ofText?_toDigits _) digits
      restored (fun zero => Bool.false_ne_true zero.1) fits

end Json

end Tapline
