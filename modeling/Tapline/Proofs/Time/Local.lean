import Mathlib
import Tapline.Proofs.Time.Duration
import Tapline.Time.Format
/-!
# Local times told by their texts

The text of a local time is a date and a time of day. It does not name the offset, but of one point
in time it tells it: clocks of different offsets show different texts, also if they are a whole day
apart.

## Main results

- `CivilTime.dayOfDate_dateOfDay`: a day is told by its date.
- `LocalTime.offset_of_text`: the offset of a local time is told by its text, given the point.

## Proof strategy

Days are put into years that begin in March. The year of a day never falls as days go by, so it is
enough to look at the first and the last day of each of the 400 years of an era. In the text every
number ends at the mark behind it, so equal texts show equal numbers.
-/

namespace Tapline

namespace CivilTime

/-! ### Dates -/

/-- The year in its era, counted from March, of a day in the era. -/
def yearOfEra (day : Nat) : Nat := (day - day / 1460 + day / 36524 - day / 146096) / 365

/-- The first day of a year that begins in March. -/
def yearStart (year : Nat) : Nat := 365 * year + year / 4 - year / 100

theorem yearOfEra_mono {n m : Nat} (ordered : n ≤ m) (inside : m < 146097) :
    yearOfEra n ≤ yearOfEra m := by
  have step : ∀ k < 146096, yearOfEra k ≤ yearOfEra (k + 1) := by
    intro k below
    unfold yearOfEra
    -- Before the division by 365 it grows by one or stands still.
    apply Nat.div_le_div_right
    omega
  induction ordered with
  | refl => exact Nat.le_refl _
  | @step m _ ih => exact (ih (by omega)).trans (step m (by omega))

theorem yearOfEra_ends : ∀ year < 400, yearOfEra (yearStart year) = year ∧
    (year < 399 → yearOfEra (yearStart (year + 1) - 1) = year) := by
  decide +kernel

/-- A day is in its year. -/
theorem year_bounds {n : Nat} (inside : n < 146097) :
    yearOfEra n < 400 ∧ yearStart (yearOfEra n) ≤ n ∧ n ≤ yearStart (yearOfEra n) + 365 := by
  have small : yearOfEra n < 400 := by
    have last : yearOfEra 146096 = 399 := by decide
    have below := yearOfEra_mono (show n ≤ 146096 by omega) (by decide)
    omega
  refine ⟨small, ?_, ?_⟩
  · by_contra before
    obtain ⟨year, next⟩ : ∃ year, yearOfEra n = year + 1 := by
      apply Nat.exists_eq_succ_of_ne_zero
      intro first
      simp [first, yearStart] at before
    rw [next] at before
    -- Then the day is not behind the last day of the year before.
    have ended := (yearOfEra_ends year (by omega)).2 (by omega)
    have early : n ≤ yearStart (year + 1) - 1 := by omega
    have earlier := yearOfEra_mono early (by unfold yearStart; omega)
    omega
  · by_contra behind
    rcases Nat.lt_or_ge (yearOfEra n) 399 with inner | outer
    · -- Then the day is not before the first day of the next year.
      have begun := (yearOfEra_ends (yearOfEra n + 1) (by omega)).1
      have late : yearStart (yearOfEra n + 1) ≤ n := by
        unfold yearStart at behind ⊢
        omega
      have later := yearOfEra_mono late inside
      omega
    · -- The last year ends with the era.
      obtain whole : yearOfEra n = 399 := by omega
      rw [whole] at behind
      have start : yearStart 399 = 145731 := by decide
      omega

/-- The month of a day in a year that begins in March. -/
def monthOfDay (n : Nat) : Nat :=
  if (5 * n + 2) / 153 < 10 then (5 * n + 2) / 153 + 3 else (5 * n + 2) / 153 - 9

/-- Days from March to the beginning of a month. -/
def daysToMonth (month : Nat) : Nat :=
  (153 * (if month ≤ 2 then month + 9 else month - 3) + 2) / 5

theorem daysToMonth_monthOfDay {n : Nat} (inside : n ≤ 365) :
    daysToMonth (monthOfDay n) = (153 * ((5 * n + 2) / 153) + 2) / 5 := by
  have months : (5 * n + 2) / 153 < 12 := by omega
  unfold daysToMonth monthOfDay
  generalize (5 * n + 2) / 153 = month at months
  by_cases early : month < 10
  · simp [early]
  · have late : month - 9 ≤ 2 := by omega
    have back : month - 9 + 9 = month := by omega
    simp [early, late, back]

/-- The day of a date, counted from 1 January 1970. -/
def dayOfDate (year : Int) (month day : Nat) : Int :=
  let fromMarch := if month ≤ 2 then year - 1 else year
  fromMarch / 400 * 146097 + yearStart (fromMarch % 400).toNat + daysToMonth month + day - 719469

/-- A day is told by its date. -/
theorem dayOfDate_dateOfDay (day : Int) :
    dayOfDate (dateOfDay day).1 (dateOfDay day).2.1 (dateOfDay day).2.2 = day := by
  have inside : ((day + 719468) % 146097).toNat < 146097 := by omega
  obtain ⟨small, first, last⟩ := year_bounds inside
  -- A date is made of the era, the year in it and the day in that year.
  have shown : dateOfDay day =
      let year := yearOfEra ((day + 719468) % 146097).toNat
      let n := ((day + 719468) % 146097).toNat - yearStart year
      (if monthOfDay n ≤ 2 then year + (day + 719468) / 146097 * 400 + 1
        else year + (day + 719468) / 146097 * 400, monthOfDay n,
        n - (153 * ((5 * n + 2) / 153) + 2) / 5 + 1) := rfl
  rw [shown]
  generalize yearOfEra ((day + 719468) % 146097).toNat = year at small first last
  have fits : ((day + 719468) % 146097).toNat - yearStart year ≤ 365 := by omega
  have fromMarch : ∀ (early : Prop) [Decidable early] (y : Int),
      (if early then (if early then y + 1 else y) - 1 else if early then y + 1 else y) = y := by
    intro early _ y
    split
    · simp
    · rfl
  simp only [dayOfDate, daysToMonth_monthOfDay fits, fromMarch]
  have era : (year + (day + 719468) / 146097 * 400) / 400 = (day + 719468) / 146097 := by omega
  have rest : (year + (day + 719468) / 146097 * 400) % 400 = year := by omega
  rw [era, rest, Int.toNat_natCast]
  omega

/-- The seconds of a timestamp, from its date and time of day. -/
theorem seconds_ofTimestamp (t : Timestamp) :
    let civil := ofTimestamp t
    t.seconds = dayOfDate civil.year civil.month civil.day * 86400 + civil.hour * 3600 +
      civil.minute * 60 + civil.second - (t.nanos / 1000000000 : Nat) := by
  intro civil
  have date : dayOfDate civil.year civil.month civil.day = t.seconds / 86400 :=
    dayOfDate_dateOfDay _
  have hour : civil.hour = (t.seconds % 86400).toNat / 3600 := rfl
  have minute : civil.minute = (t.seconds % 86400).toNat / 60 % 60 := rfl
  have second : civil.second = (t.seconds % 86400).toNat % 60 + t.nanos / 1000000000 := rfl
  rw [date, hour, minute, second]
  omega

end CivilTime

/-! ### Numbers in a text -/

open Duration (padded padded_injective isDigit_of_mem_padded)

/-- Two rows that go on where characters of one kind end are split there alike. -/
theorem append_inj_of_stop {p : Char → Bool} {front front' rest rest' : List Char}
    (all : ∀ c ∈ front, p c = true) (all' : ∀ c ∈ front', p c = true)
    (stop : ∀ c ∈ rest.head?, p c = false) (stop' : ∀ c ∈ rest'.head?, p c = false)
    (same : front ++ rest = front' ++ rest') : front = front' ∧ rest = rest' := by
  have split := congrArg (List.span p) same
  rw [span_append all stop, span_append all' stop'] at split
  exact Prod.mk.inj split

/-- A number ends at the mark behind it. -/
theorem padded_append_inj {width n m : Nat} {mark : Char} {rest rest' : List Char}
    (stop : mark.isDigit = false)
    (same : padded width n ++ mark :: rest = padded width m ++ mark :: rest') :
    n = m ∧ rest = rest' := by
  obtain ⟨numbers, rests⟩ := append_inj_of_stop isDigit_of_mem_padded isDigit_of_mem_padded
    (by simpa using stop) (by simpa using stop) same
  exact ⟨padded_injective numbers, (List.cons.inj rests).2⟩

namespace TimeItem

theorem numberText_of_nat {which : TimeNumber} (other : which ≠ .year) (n width : Nat) :
    numberText which .zero n width = padded width n := by
  have plain : (which == .year) = false := by simpa using other
  have positive : ¬ (n : Int) < 0 := by omega
  simp [numberText, plain, positive, padded]

/-- The sign of a year. -/
def yearSign (year : Int) : List Char :=
  if year < 0 then ['-'] else if 10000 ≤ year then ['+'] else []

theorem mem_yearSign {year : Int} {c : Char} (member : c ∈ yearSign year) : c = '-' ∨ c = '+' := by
  unfold yearSign at member
  split_ifs at member
  · exact .inl (List.mem_singleton.mp member)
  · exact .inr (List.mem_singleton.mp member)
  · cases member

theorem numberText_year (year : Int) :
    numberText .year .zero year 4 = yearSign year ++ padded 4 year.natAbs := by
  have limit : ((Nat.pow 10 4 : Nat) : Int) = 10000 := rfl
  unfold numberText yearSign padded
  simp only [limit, beq_self_eq_true, Bool.true_and, Bool.not_true, Bool.and_false]
  by_cases negative : year < 0
  · simp [negative]
  · simp [negative]

theorem digits_numberText_year (year : Int) :
    (numberText .year .zero year 4).filter Char.isDigit = padded 4 year.natAbs := by
  have none : (yearSign year).filter Char.isDigit = [] := by
    rw [List.filter_eq_nil_iff]
    intro c member
    rcases mem_yearSign member with rfl | rfl
    · decide
    · decide
  rw [numberText_year, List.filter_append, none, List.nil_append, List.filter_eq_self]
  exact isDigit_of_mem_padded

theorem minus_mem_numberText_year {year : Int} :
    '-' ∈ numberText .year .zero year 4 ↔ year < 0 := by
  have none : '-' ∉ padded 4 year.natAbs := fun digit =>
    ne_minus_of_isDigit (isDigit_of_mem_padded _ digit) rfl
  rw [numberText_year, List.mem_append, or_iff_left none, yearSign]
  split_ifs with negative
  · simp [negative]
  · simp [negative]
  · simp [negative]

/-- A year is told by its digits and by whether there is a minus. -/
theorem numberText_year_injective {n m : Int}
    (same : numberText .year .zero n 4 = numberText .year .zero m 4) : n = m := by
  have size : n.natAbs = m.natAbs := by
    have digits := congrArg (List.filter Char.isDigit) same
    rw [digits_numberText_year, digits_numberText_year] at digits
    exact padded_injective digits
  have sign : n < 0 ↔ m < 0 := by
    rw [← minus_mem_numberText_year, same, minus_mem_numberText_year]
  omega

theorem ne_slash_of_mem_numberText_year (year : Int) :
    ∀ c ∈ numberText .year .zero year 4, (c != '/') = true := by
  intro c member
  rw [numberText_year, List.mem_append] at member
  rcases member with sign | digit
  · rcases mem_yearSign sign with rfl | rfl
    · decide
    · decide
  · have kind := isDigit_of_mem_padded c digit
    rw [bne_iff_ne]
    rintro rfl
    cases kind

end TimeItem

/-! ### Local times -/

theorem ZoneOffset.eq_of_seconds {a b : ZoneOffset} (same : a.seconds = b.seconds) : a = b := by
  cases a
  cases b
  cases same
  rfl

namespace LocalTime

variable {s t : LocalTime}

theorem toList_text (t : LocalTime) : t.text.toList =
    TimeItem.numberText .year .zero t.civil.year 4 ++ '/' :: (padded 2 t.civil.month ++
      '/' :: (padded 2 t.civil.day ++ ' ' :: (padded 2 t.civil.hour ++
        ':' :: (padded 2 t.civil.minute ++ ':' :: (padded 2 t.civil.second ++
          '.' :: TimeItem.fractionDigits t.civil.nanos 3))))) := by
  simp [text, TimeFormat.apply, TimeFormat.plain, TimeItem.text, TimeItem.numberOf,
    TimeItem.numberText_of_nat]

/-- Texts show the numbers that they are made of, down to the second. -/
theorem civil_of_text (same : s.text = t.text) :
    s.civil.year = t.civil.year ∧ s.civil.month = t.civil.month ∧ s.civil.day = t.civil.day ∧
      s.civil.hour = t.civil.hour ∧ s.civil.minute = t.civil.minute ∧
      s.civil.second = t.civil.second := by
  have chars := congrArg String.toList same
  rw [toList_text, toList_text] at chars
  obtain ⟨years, chars⟩ := append_inj_of_stop (TimeItem.ne_slash_of_mem_numberText_year _)
    (TimeItem.ne_slash_of_mem_numberText_year _) (by simp) (by simp) chars
  obtain ⟨month, chars⟩ := padded_append_inj rfl (List.cons.inj chars).2
  obtain ⟨day, chars⟩ := padded_append_inj rfl chars
  obtain ⟨hour, chars⟩ := padded_append_inj rfl chars
  obtain ⟨minute, chars⟩ := padded_append_inj rfl chars
  obtain ⟨second, -⟩ := padded_append_inj rfl chars
  exact ⟨TimeItem.numberText_year_injective years, month, day, hour, minute, second⟩

/-- What a clock shows is the point in time and its offset. -/
theorem seconds_civil (t : LocalTime) : t.instant.seconds + t.offset.seconds =
    CivilTime.dayOfDate t.civil.year t.civil.month t.civil.day * 86400 + t.civil.hour * 3600 +
      t.civil.minute * 60 + t.civil.second - (t.instant.nanos / 1000000000 : Nat) :=
  CivilTime.seconds_ofTimestamp
    { t.instant with seconds := t.instant.seconds + t.offset.seconds }

/-- **The text tells the offset** of a local time, given the point in time. -/
theorem offset_of_text (together : s.instant = t.instant) (same : s.text = t.text) :
    s.offset = t.offset := by
  obtain ⟨year, month, day, hour, minute, second⟩ := civil_of_text same
  apply ZoneOffset.eq_of_seconds
  have here := s.seconds_civil
  have there := t.seconds_civil
  rw [year, month, day, hour, minute, second, together] at here
  omega

end LocalTime

end Tapline
