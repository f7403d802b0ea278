import Mathlib
import Tapline.Field.Shapes
import Tapline.Proofs.Json.Numeral
import Tapline.Proofs.Json.ReadBack
import Tapline.Proofs.Text.Unbroken
import Tapline.Template.Render
/-!
# Durations read back

The text of a duration is a number of units, and the unit tells how many places the nanoseconds
begin behind the point. A reader moves the point by so many places, putting zeros where digits were
dropped, and has the nanoseconds in all. So no two durations have one text, whichever units they are
shown in.

## Main results

- `Duration.ofText?_text`: a duration is read back from its text.
- `durations_told_apart`: in a text, in JSON and in a line, a duration is told from any other.
-/

namespace Tapline

/-! ### Digits -/

theorem digitsValue_append (front back : List Char) :
    Decimal.digitsValue (front ++ back) =
      Decimal.digitsValue front * 10 ^ back.length + Decimal.digitsValue back := by
  have same : ∀ digits, Decimal.digitsValue digits = Nat.ofDigitChars 10 digits 0 := fun digits => by
    rw [Nat.ofDigitChars_eq_foldl, Decimal.digitsValue]
    simp only [Nat.mul_comm]
  rw [same, same, same, Nat.ofDigitChars_append, Nat.ofDigitChars_eq_ofDigitChars_zero, Nat.mul_comm]

theorem digitsValue_replicate_zero (count : Nat) :
    Decimal.digitsValue (List.replicate count '0') = 0 := by
  induction count with
  | zero => rfl
  | succ count ih => exact ih

namespace Duration

theorem trimZeros_eq_rdropWhile (digits : List Char) :
    trimZeros digits = digits.rdropWhile (· == '0') := rfl

/-- The zeros that were dropped can be put back. -/
theorem trimZeros_append_replicate (digits : List Char) :
    trimZeros digits ++ List.replicate (digits.length - (trimZeros digits).length) '0' = digits := by
  have whole := @List.rdropWhile_append_rtakeWhile _ (· == '0') digits
  have zeros : digits.rtakeWhile (· == '0') =
      List.replicate (digits.rtakeWhile (· == '0')).length '0' :=
    List.eq_replicate_of_mem fun c member => by simpa using List.mem_rtakeWhile_imp member
  have lengths := congrArg List.length whole
  rw [List.length_append] at lengths
  rw [trimZeros_eq_rdropWhile, show digits.length - (digits.rdropWhile (· == '0')).length =
    (digits.rtakeWhile (· == '0')).length by omega, ← zeros, whole]

theorem digitsValue_padded (width n : Nat) : Decimal.digitsValue (padded width n) = n := by
  rw [padded, digitsValue_append, digitsValue_replicate_zero, digitsValue_toDigits]
  omega

theorem padded_injective {width n m : Nat} (same : padded width n = padded width m) : n = m := by
  rw [← digitsValue_padded width n, same, digitsValue_padded]

theorem isDigit_of_mem_padded {width n : Nat} : ∀ c ∈ padded width n, c.isDigit = true := by
  intro c member
  rcases List.mem_append.mp member with zero | digit
  · obtain rfl : c = '0' := List.eq_of_mem_replicate zero
    rfl
  · exact isDigit_of_mem_toDigits c digit

theorem length_padded {width n : Nat} (wide : 0 < width) (small : n < 10 ^ width) :
    (padded width n).length = width := by
  have short := (Nat.length_toDigits_le_iff (by decide) wide).mpr small
  rw [padded, List.length_append, List.length_replicate]
  omega

theorem isDigit_of_mem_trimZeros {width n : Nat} :
    ∀ c ∈ trimZeros (padded width n), c.isDigit = true := by
  intro c member
  exact isDigit_of_mem_padded c ((List.rdropWhile_prefix _ _).subset member)

/-- A fraction without its last zeros is no longer than its places, and filled up to them it is the
fraction again. -/
theorem digitsValue_trimZeros {places fraction : Nat} (small : fraction < 10 ^ places) :
    let digits := trimZeros (padded places fraction)
    digits.length ≤ places ∧
      Decimal.digitsValue (digits ++ List.replicate (places - digits.length) '0') = fraction := by
  intro digits
  rcases Nat.eq_zero_or_pos places with rfl | wide
  · -- Without places there is only the fraction zero, of which no digit is left.
    obtain rfl : fraction = 0 := Nat.lt_one_iff.mp small
    exact ⟨Nat.le_refl _, rfl⟩
  · have length := length_padded wide small
    have filled := trimZeros_append_replicate (padded places fraction)
    rw [length] at filled
    refine ⟨?_, ?_⟩
    · rw [← length]
      exact (List.rdropWhile_prefix _ _).length_le
    · rw [filled, digitsValue_padded]

/-! ### Reading -/

/-- How many places behind the point a unit leaves to the nanoseconds. -/
def places? (unit : List Char) : Option Nat :=
  if unit = ['s'] then some 9
  else if unit = ['m', 's'] then some 6
  else if unit = ['µ', 's'] then some 3
  else if unit = ['n', 's'] then some 0
  else none

/-- Splits the digits behind a point off, if there is a point. -/
def splitFraction : List Char → List Char × List Char
  | '.' :: rest => Decimal.splitDigits rest
  | rest => ([], rest)

/-- Reads a number of units, with a fraction that does not go below nanoseconds. -/
def ofText? (text : String) : Option Duration :=
  let (whole, rest) := Decimal.splitDigits text.toList
  let (fraction, unit) := splitFraction rest
  (places? unit).bind fun places =>
    if fraction.length ≤ places then
      some (ofNanos (Decimal.digitsValue
        (whole ++ (fraction ++ List.replicate (places - fraction.length) '0'))))
    else none

/-- A unit begins with a letter. -/
theorem exists_unit {unit : List Char} {places : Nat} (known : places? unit = some places) :
    ∃ c rest, unit = c :: rest ∧ c.isDigit = false ∧ c ≠ '.' := by
  unfold places? at known
  split_ifs at known with seconds millis micros nanos
  · exact ⟨_, _, seconds, rfl, by decide⟩
  · exact ⟨_, _, millis, rfl, by decide⟩
  · exact ⟨_, _, micros, rfl, by decide⟩
  · exact ⟨_, _, nanos, rfl, by decide⟩

theorem splitFraction_of_ne {c : Char} (notPoint : c ≠ '.') (rest : List Char) :
    splitFraction (c :: rest) = ([], c :: rest) := by
  unfold splitFraction
  split
  next same =>
    obtain ⟨rfl, -⟩ := List.cons.inj same
    exact absurd rfl notPoint
  next => rfl

/-- What stands behind the whole number is split into the fraction and the unit, whether or not a
point was written. -/
theorem splitFraction_append {shown : List Char} (digits : ∀ c ∈ shown, c.isDigit = true) {c : Char}
    (notDigit : c.isDigit = false) (notPoint : c ≠ '.') (rest : List Char) :
    splitFraction ((if shown.isEmpty then [] else '.' :: shown) ++ c :: rest) =
      (shown, c :: rest) := by
  cases shown with
  | nil => exact splitFraction_of_ne notPoint rest
  | cons d ds => exact span_append digits (by simpa using notDigit)

/-- A number of units reads as so many nanoseconds. -/
theorem ofText?_unitText {places : Nat} {unit : String} (known : places? unit.toList = some places)
    (whole : Nat) {fraction : Nat} (small : fraction < 10 ^ places) :
    ofText? (unitText whole fraction places unit) =
      some (ofNanos (whole * 10 ^ places + fraction)) := by
  obtain ⟨c, rest, same, notDigit, notPoint⟩ := exists_unit known
  obtain ⟨short, value⟩ := digitsValue_trimZeros small
  have digits := @isDigit_of_mem_trimZeros places fraction
  rw [same] at known
  simp only [ofText?, unitText, String.toList_append, String.toList_ofList, same, List.append_assoc]
  generalize trimZeros (padded places fraction) = shown at *
  have split : Decimal.splitDigits (Nat.toDigits 10 whole ++
      ((if shown.isEmpty then [] else '.' :: shown) ++ c :: rest)) =
      (Nat.toDigits 10 whole, (if shown.isEmpty then [] else '.' :: shown) ++ c :: rest) := by
    refine span_append isDigit_of_mem_toDigits ?_
    cases shown <;> simp [notDigit]
  have read : Decimal.digitsValue
      (Nat.toDigits 10 whole ++ (shown ++ List.replicate (places - shown.length) '0')) =
      whole * 10 ^ places + fraction := by
    rw [digitsValue_append, value, digitsValue_toDigits, List.length_append, List.length_replicate,
      Nat.add_sub_cancel' short]
  simp only [split, splitFraction_append digits notDigit notPoint, known, Option.bind_some, short,
    if_true, read]

theorem ofNanos_totalNanos (d : Duration) : ofNanos d.totalNanos = d := by
  obtain ⟨seconds, nanos, small⟩ := d
  have whole : (seconds.toNat * nanosPerSecond + nanos) / nanosPerSecond = seconds.toNat := by
    rw [nanosPerSecond] at small ⊢
    omega
  simp [ofNanos, totalNanos, whole, Nat.mod_eq_of_lt small]

/-- A duration is read back from its text. -/
theorem ofText?_text (d : Duration) : ofText? d.text = some d := by
  have small : d.nanos < 10 ^ 9 := d.nanos_lt
  rw [← congrArg some d.ofNanos_totalNanos, totalNanos]
  unfold text
  split_ifs with seconds millis micros
  · exact ofText?_unitText rfl _ small
  -- Below a second the nanoseconds are all there is, and a unit cuts them in two.
  all_goals rw [show d.seconds.toNat = 0 by omega, Nat.zero_mul, Nat.zero_add]
  · have fraction : d.nanos % 1000000 < 10 ^ 6 := Nat.mod_lt _ (by decide)
    have whole : d.nanos / 1000000 * 10 ^ 6 + d.nanos % 1000000 = d.nanos := Nat.div_add_mod' _ _
    rw [ofText?_unitText rfl _ fraction, whole]
  · have fraction : d.nanos % 1000 < 10 ^ 3 := Nat.mod_lt _ (by decide)
    have whole : d.nanos / 1000 * 10 ^ 3 + d.nanos % 1000 = d.nanos := Nat.div_add_mod' _ _
    rw [ofText?_unitText rfl _ fraction, whole]
  · have fraction : 0 < 10 ^ 0 := by decide
    rw [ofText?_unitText rfl _ fraction, Nat.pow_zero, Nat.mul_one, Nat.add_zero]

/-! ### In a line -/

theorem unbroken_unitText {unit : String} (clear : Unbroken unit.toList)
    (whole fraction places : Nat) : Unbroken (unitText whole fraction places unit).toList := by
  have digits : ∀ cs : List Char, (∀ c ∈ cs, c.isDigit = true) → Unbroken cs := fun cs all =>
    unbroken_numeral fun c member => isNumeralChar_of_isDigit (all c member)
  have shown := digits _ (@isDigit_of_mem_trimZeros places fraction)
  simp only [unitText, String.toList_append, String.toList_ofList, Unbroken.append_iff]
  refine ⟨⟨digits _ isDigit_of_mem_toDigits, ?_⟩, clear⟩
  split
  · exact Unbroken.nil
  · exact Unbroken.cons_iff.mpr ⟨by decide, shown⟩

theorem unbroken_text (d : Duration) : Unbroken d.text.toList := by
  unfold text
  split_ifs
  all_goals exact unbroken_unitText (by simp) _ _ _

end Duration

/-- The field of a duration that an argument holds adds the text of it to a line. -/
theorem FieldFunction.text_duration (name key : String) (bag : Bag) (d : Duration) :
    ((Segment.call (duration name key)).text (bag.insert name (.duration d))).value = d.text := by
  have found : Bag.duration? (bag.insert name (.duration d)) name = some d := by
    rw [Bag.duration?, KeyMap.get?_insert_self]
    rfl
  simp only [Segment.text, FieldFunction.duration, FieldFunction.ofPure, found, Probe.field,
    Noted.pure, Field.text, Field.shown, Bool.false_eq_true, if_false, Value.display]
  exact inline_of_unbroken d.unbroken_text

/-! ### The main result -/

/-- **Durations are told apart by their texts.** A duration of any number of seconds and nanoseconds
is read back from its text, also from the string that is its JSON text and from what the field of an
argument adds to a line. So two durations have one text, or one JSON text, only if they are one. -/
theorem durations_told_apart (d e : Duration) :
    Duration.ofText? (Value.duration d).display = some d ∧
    (∃ json text, (Value.duration d).jsonText = .ok json ∧
      Json.read? json = some (.string text) ∧ Duration.ofText? text = some d) ∧
    (∀ (name key : String) (bag : Bag),
      let line := (Segment.call (FieldFunction.duration name key)).text
        (bag.insert name (.duration d))
      Duration.ofText? line.value = some d) ∧
    ((Value.duration d).display = (Value.duration e).display ↔ d = e) ∧
    ((Value.duration d).jsonText = (Value.duration e).jsonText ↔ d = e) ∧
    ((Value.duration d).toJson = (Value.duration e).toJson ↔ d = e) := by
  have text (d : Duration) : (Value.duration d).display = d.text := by rw [Value.display]
  have json (d : Duration) : (Value.duration d).jsonText = .ok (Json.quote d.text) := by
    rw [Value.jsonText]
  have document (d : Duration) : (Value.duration d).toJson = .ok (.string d.text) := by
    rw [Value.toJson]
  have read (d : Duration) : Json.read? (Json.quote d.text) = some (.string d.text) := by
    have back := Json.read?_write (.string d.text)
    rwa [Json.write] at back
  have apart (same : d.text = e.text) : d = e := by
    have back := d.ofText?_text
    rw [same, e.ofText?_text] at back
    exact (Option.some.inj back).symm
  refine ⟨?_, ⟨_, _, json d, read d, d.ofText?_text⟩, ?_, ?_, ?_, ?_⟩
  · rw [text]
    exact d.ofText?_text
  · intro name key bag line
    rw [show line.value = d.text from FieldFunction.text_duration name key bag d]
    exact d.ofText?_text
  · refine ⟨fun same => apart ?_, fun same => by rw [same]⟩
    rwa [text, text] at same
  · refine ⟨fun same => apart ?_, fun same => by rw [same]⟩
    -- The strings of two texts are read back to the texts.
    rw [json, json] at same
    have texts := (read d).symm.trans ((congrArg Json.read? (Except.ok.inj same)).trans (read e))
    exact Json.string.inj (Option.some.inj texts)
  · refine ⟨fun same => apart ?_, fun same => by rw [same]⟩
    rw [document, document] at same
    exact Json.string.inj (Except.ok.inj same)

/-- Nanoseconds that a larger unit would show as the same digits. -/
example : (Duration.ofNanos 1050000000).text = "1.05s" ∧
    (Duration.ofNanos 1050000).text = "1.05ms" ∧
    (Duration.ofNanos 1000050).text = "1.00005ms" ∧ (Duration.ofNanos 105).text = "105ns" := by
  decide +kernel

end Tapline
