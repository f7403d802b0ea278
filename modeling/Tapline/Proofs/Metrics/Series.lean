import Mathlib.Data.List.Basic
import Tapline.Metrics
/-!
# Counts by label values

A label function answers with a row of label values, or with nothing. A counter that takes its
answers one by one counts the rows of the right length and is left as it is by all others. A
histogram does so too, whatever else it knows of the values, so its sample counts are a counter.

Series are found by a fingerprint of the row. So what is counted under a row is what was answered
with its fingerprint, and that is the row itself where no other answer is mistaken for it.

## Main results

- `Counter.Took.take`: one answer more.
- `Counter.Took.tells`: the count of a row is the number of times it was answered.
-/

namespace Tapline

namespace Family

variable {σ : Type u} {τ : Type v}

/-- The rows that have a series. -/
def rows (family : Family σ) : List (List String) := family.series.map Prod.fst

/-- The same rows, with less known of each. -/
def summary (known : σ → τ) (family : Family σ) : Family τ :=
  ⟨family.labels, family.series.map (Prod.map id known)⟩

theorem seriesOf?_map (known : σ → τ) (key : UInt64) (series : List (List String × σ)) :
    seriesOf? key (series.map (Prod.map id known)) = (seriesOf? key series).map known := by
  induction series with
  | nil => rfl
  | cons entry rest ih =>
    obtain ⟨row, first⟩ := entry
    by_cases here : rowKey row = key <;> simp [seriesOf?, here, ih]

theorem get?_summary (known : σ → τ) (family : Family σ) (row : List String) :
    (family.summary known).get? row = (family.get? row).map known :=
  seriesOf?_map known (rowKey row) family.series

/-- A change that is known of as a change of what is known. -/
theorem touch_summary {known : σ → τ} {change : σ → σ} {change' : τ → τ}
    (same : ∀ s, known (change s) = change' (known s)) (family : Family σ) (start : σ)
    (values : List String) : (family.summary known).touch (known start) change' values =
      (family.touch start change values).map (summary known) := by
  have series : ∀ series : List (List String × σ),
      update (known start) change' values (series.map (Prod.map id known)) =
        (update start change values series).map (Prod.map id known) := by
    intro series
    induction series with
    | nil => simp [update, same]
    | cons entry rest ih =>
      obtain ⟨row, first⟩ := entry
      by_cases here : rowKey row = rowKey values <;> simp [update, here, same, ih]
  unfold touch
  by_cases fits : values.length = family.labels.length
  · simp [summary, fits, series, Except.map]
  · simp [summary, fits, Except.map]

section Rows

variable {family : Family σ} {start : σ} {change : σ → σ} {values : List String}

theorem exists_touch (fits : values.length = family.labels.length) :
    ∃ touched, family.touch start change values = .ok touched ∧
      touched.labels = family.labels := by
  rw [touch, if_pos fits]
  exact ⟨_, rfl, rfl⟩

theorem touch_of_unfit (unfit : values.length ≠ family.labels.length) :
    family.touch start change values = .error ⟨family.labels.length, values.length⟩ :=
  (touch_eq_error_iff ..).mpr ⟨unfit, rfl⟩

theorem mem_rows_touch {touched : Family σ} {row : List String}
    (ok : family.touch start change values = .ok touched)
    (member : row ∈ touched.rows) : row = values ∨ row ∈ family.rows := by
  have grown : ∀ series : List (List String × σ),
      row ∈ (update start change values series).map Prod.fst →
        row = values ∨ row ∈ series.map Prod.fst := by
    intro series
    induction series with
    | nil => simp [update]
    | cons entry rest ih =>
      rw [update]
      split
      · exact Or.inr
      · simp only [List.map_cons, List.mem_cons]
        rintro (rfl | later)
        · exact Or.inr (Or.inl rfl)
        · exact (ih later).imp id Or.inr
  unfold touch at ok
  split at ok
  · cases ok
    exact grown family.series member
  · cases ok

end Rows

end Family

namespace Counter

/-- What a counter comes to with an answer of a label function. -/
def take (counter : Counter) (answer : Option (List String)) : Counter :=
  match answer.map counter.increment with
  | some (.ok touched) => touched
  | _ => counter

/-- An answer that is no row of so many values. -/
def Unfit (width : Nat) (answer : Option (List String)) : Prop :=
  ∀ row, answer = some row → row.length ≠ width

/-- Whether an answer is a row of so many values with a key. -/
def answersKey (width : Nat) (key : UInt64) (answer : Option (List String)) : Bool :=
  answer.any fun row => row.length = width && rowKey row = key

/-- What a series shows that has counted so often; where nothing was counted, there is none. -/
def shown? (count : Nat) : Option Nat := if count = 0 then none else some count

theorem shown?_succ (count : Nat) : some ((shown? count).getD 0 + 1) = shown? (count + 1) := by
  cases count <;> rfl

/-- A counter that has taken some answers, and nothing else, since it was new; what it shows for a
row was answered with the key of the row. -/
structure Took (counter : Counter) (labels : List String) (answers : List (Option (List String))) :
    Prop where
  sameLabels : counter.labels = labels
  /-- A series shows a row of the right length that was answered. -/
  rows : ∀ row ∈ counter.rows, row.length = labels.length ∧ some row ∈ answers
  counts : ∀ row, counter.get? row =
    shown? (answers.countP (answersKey labels.length (rowKey row)))

variable {counter : Counter} {labels : List String} {answers : List (Option (List String))}

theorem took_new (labels : List String) : Took (.new labels) labels [] :=
  ⟨rfl, nofun, fun _ => rfl⟩

/-- An answer that is no row of the right length is passed over. -/
theorem take_of_unfit {answer : Option (List String)}
    (unfit : Unfit counter.labels.length answer) : counter.take answer = counter := by
  cases answer with
  | none => rfl
  | some row =>
    have refused : counter.increment row = .error ⟨counter.labels.length, row.length⟩ :=
      Family.touch_of_unfit (unfit row rfl)
    simp only [take, Option.map_some, refused]

theorem Took.take (took : counter.Took labels answers) (answer : Option (List String)) :
    (counter.take answer).Took labels (answers ++ [answer]) := by
  have counted (row : List String) :
      (answers ++ [answer]).countP (answersKey labels.length (rowKey row)) =
        answers.countP (answersKey labels.length (rowKey row)) +
          if answersKey labels.length (rowKey row) answer then 1 else 0 := by
    rw [List.countP_append, List.countP_singleton]
  by_cases accepted : ∃ row, answer = some row ∧ row.length = labels.length
  · obtain ⟨row, rfl, fits⟩ := accepted
    have fits' : row.length = counter.labels.length := by rw [fits, took.sameLabels]
    obtain ⟨touched, ok, same⟩ : ∃ touched, counter.increment row = .ok touched ∧ _ :=
      Family.exists_touch fits'
    have taken : counter.take (some row) = touched := by
      simp only [Counter.take, Option.map_some, ok]
    rw [taken]
    refine ⟨same.trans took.sameLabels, fun other member => ?_, fun other => ?_⟩
    · rcases Family.mem_rows_touch ok member with rfl | old
      · exact ⟨fits, by simp⟩
      · obtain ⟨fits', answered⟩ := took.rows other old
        exact ⟨fits', List.mem_append_left _ answered⟩
    · -- Only what has the key of the row is counted once more.
      rw [Family.get?_touch ok, took.counts other, counted other]
      by_cases here : rowKey row = rowKey other
      · have one : answersKey labels.length (rowKey other) (some row) = true := by
          simp [answersKey, fits, here]
        rw [if_pos here, if_pos one, shown?_succ]
      · have nothing : answersKey labels.length (rowKey other) (some row) = false := by
          simp [answersKey, here]
        rw [if_neg here, nothing, if_neg Bool.false_ne_true, Nat.add_zero]
  · have unfit : Unfit labels.length answer :=
      fun row answered fits => accepted ⟨row, answered, fits⟩
    rw [take_of_unfit (by rwa [took.sameLabels])]
    refine ⟨took.sameLabels, fun row member => ?_, fun row => ?_⟩
    · obtain ⟨fits, answered⟩ := took.rows row member
      exact ⟨fits, List.mem_append_left _ answered⟩
    · have nothing : answersKey labels.length (rowKey row) answer = false := by
        cases answer with
        | none => rfl
        | some other => simp [answersKey, unfit other rfl]
      rw [took.counts row, counted row, nothing, if_neg Bool.false_ne_true, Nat.add_zero]

/-- A row that no other answer of its length is mistaken for. -/
def Apart (row : List String) (answers : List (Option (List String))) : Prop :=
  ∀ other, some other ∈ answers → other.length = row.length → rowKey other = rowKey row →
    other = row

/-- A counter that tells how often each row was answered. -/
structure Tells (counter : Counter) (labels : List String) (answers : List (Option (List String))) :
    Prop where
  sameLabels : counter.labels = labels
  /-- No series but those of rows of the right length that were answered. -/
  rows : ∀ row ∈ counter.rows, row.length = labels.length ∧ some row ∈ answers
  /-- As long as the row is not mistaken for another one. -/
  counts : ∀ row, row.length = labels.length → Apart row answers →
    counter.get? row = shown? (answers.count (some row))

/-- Where a row is kept apart from the others, what has its key is the row itself. -/
theorem Took.tells (took : counter.Took labels answers) : counter.Tells labels answers := by
  refine ⟨took.sameLabels, took.rows, fun row fits apart => ?_⟩
  have same : answers.countP (answersKey labels.length (rowKey row)) = answers.count (some row) := by
    apply List.countP_congr
    intro answer member
    cases answer with
    | none => simp [answersKey]
    | some other =>
      simp only [answersKey, Option.any_some, Bool.and_eq_true, decide_eq_true_eq, beq_iff_eq,
        Option.some.injEq]
      constructor
      · rintro ⟨length, key⟩
        exact apart other member (length.trans fits.symm) key
      · rintro rfl
        exact ⟨fits, rfl⟩
  rw [took.counts row, same]

end Counter

end Tapline
