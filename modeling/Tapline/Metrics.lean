import Tapline.Notice
import Tapline.Text.Fingerprint
/-!
# Metrics

A metric is a family of series. A counter series counts; a histogram series also sums the values
observed and counts, for each bound of a fixed row, the values that do not exceed it. A series is
found by the key of a row of label values, and it shows the row that it was first used with. The key
is a fingerprint of the values written without a gap, so rows that read the same when they are run
together share a series. A row of label values of the wrong length is rejected and touches no series.

## Main statements

- `Family.get?_touch`: touching a series changes what rows of its key find, and no other.
- `Family.touch_eq_error_iff`: rows of the wrong length, and no others, are rejected.
-/

namespace Tapline

/-- A family of series, listed in the order of their first use. -/
structure Family (σ : Type u) where
  labels : List String
  /-- For each series the row that it was first used with. -/
  series : List (List String × σ)

/-- The key that a row of label values is found by. -/
def rowKey (values : List String) : UInt64 := Text.fingerprint (String.join values)

namespace Family

variable {σ : Type u}

def new (labels : List String) : Family σ := ⟨labels, []⟩

/-- The series of a key, among some. -/
def seriesOf? (key : UInt64) : List (List String × σ) → Option σ
  | [] => none
  | (row, series) :: rest => if rowKey row = key then some series else seriesOf? key rest

def get? (family : Family σ) (values : List String) : Option σ :=
  seriesOf? (rowKey values) family.series

/-- Changes the series of a row, or adds it, changed from its start. -/
def update (start : σ) (change : σ → σ) (values : List String) :
    List (List String × σ) → List (List String × σ)
  | [] => [(values, change start)]
  | (row, series) :: rest =>
    -- The series keeps the row that it was first used with.
    if rowKey row = rowKey values then (row, change series) :: rest
    else (row, series) :: update start change values rest

/-- Changes the series of a row of label values, which begins its life at `start`. -/
def touch (family : Family σ) (start : σ) (change : σ → σ) (values : List String) :
    Except LabelMismatch (Family σ) :=
  if values.length = family.labels.length then
    .ok { family with series := update start change values family.series }
  else .error ⟨family.labels.length, values.length⟩

/-- The name and value of each label of a row, in the order of the names. -/
def labelled (family : Family σ) (values : List String) : List (String × String) :=
  (family.labels.zip values).mergeSort fun a b => a.1 ≤ b.1

theorem seriesOf?_update (start : σ) (change : σ → σ) (values : List String) (key : UInt64)
    (series : List (List String × σ)) :
    seriesOf? key (update start change values series) =
      if rowKey values = key then some (change ((seriesOf? key series).getD start))
      else seriesOf? key series := by
  induction series with
  | nil => simp [update, seriesOf?]
  | cons entry rest ih =>
    obtain ⟨row, first⟩ := entry
    by_cases here : rowKey row = rowKey values
    · by_cases h : rowKey values = key <;> simp [update, seriesOf?, here, h]
    · by_cases h : rowKey values = key
      · subst h
        simp [update, seriesOf?, here, ih]
      · simp [update, seriesOf?, here, ih, h]

theorem touch_eq_error_iff (family : Family σ) (start : σ) (change : σ → σ)
    (values : List String) (e : LabelMismatch) :
    family.touch start change values = .error e ↔
      values.length ≠ family.labels.length ∧ e = ⟨family.labels.length, values.length⟩ := by
  unfold touch
  split
  next same => simp [same]
  next differ => simp [differ, eq_comm]

theorem get?_touch {family touched : Family σ} {start : σ} {change : σ → σ}
    {values : List String} (ok : family.touch start change values = .ok touched)
    (other : List String) :
    touched.get? other =
      if rowKey values = rowKey other then some (change ((family.get? other).getD start))
      else family.get? other := by
  unfold touch at ok
  split at ok
  · cases ok
    exact seriesOf?_update start change values (rowKey other) family.series
  · cases ok

end Family

/-! ### Counters -/

/-- Counts by label values. -/
abbrev Counter := Family Nat

def Counter.increment (counter : Counter) (values : List String) : Except LabelMismatch Counter :=
  counter.touch 0 (· + 1) values

/-! ### Histograms -/

/-- The bounds of a histogram, in seconds. -/
def standardBounds : List Binary64 :=
  [5, 10, 25, 50, 100, 250, 500, 1000, 2500, 5000, 10000].map fun millis =>
    Binary64.ofRatio false millis 1000

/-- What a histogram knows of the values of one row. -/
structure Distribution where
  count : Nat
  sum : Binary64
  /-- For each bound, the number of values that do not exceed it. -/
  buckets : List Nat
deriving DecidableEq

namespace Distribution

def empty : Distribution := ⟨0, .zero false, standardBounds.map fun _ => 0⟩

/-- Takes a value into account. -/
def observe (value : Binary64) (d : Distribution) : Distribution where
  count := d.count + 1
  sum := d.sum.add value
  buckets := d.buckets.zipWith (fun n bound => if value.atMost bound then n + 1 else n)
    standardBounds

end Distribution

/-- Distributions by label values. -/
abbrev Histogram := Family Distribution

def Histogram.observe (histogram : Histogram) (values : List String) (value : Binary64) :
    Except LabelMismatch Histogram :=
  histogram.touch .empty (Distribution.observe value) values

end Tapline
