import Mathlib
import Tapline.Proofs.Metrics.Series
import Tapline.Proofs.Pipeline.Records
/-!
# Metrics in a chain

A chain that counts its operations reaches the handler of the metric once. There the label function
answers for the operation as the handlers before have left it, and the metric takes the answer. An
answer that is no row of the right length is passed over.

## Main results

- `Metric.countsOf?_runChain`: what the counts of a metric come to in a chain that uses it once.
- `Metric.passesOver_runChain`: where the answer does not fit, only a notice tells of the metric.

## Implementation notes

Both sorts of metric are seen as counters (`World.countsOf?`), so that each lemma is stated once.
-/

namespace Tapline

/-- A metric of a world. -/
inductive Metric where
  | counter (ref : MetricRef)
  | histogram (ref : MetricRef)
deriving DecidableEq

variable {δ ε υ : Type}

/-! ### Counts of a metric -/

namespace World

/-- How often a metric has counted each row, whatever else it knows of the values. -/
def countsOf? (world : World δ ε υ) : Metric → Option Counter
  | .counter ref => (world.counters[ref.index]?).map Prod.snd
  | .histogram ref =>
    (world.histograms[ref.index]?).map fun entry => entry.2.summary Distribution.count

variable {world : World δ ε υ} {ref : MetricRef} {counts : Counter}

/-- What counting a row does: the counter takes it, or it is noted why not. -/
theorem count_cases (found : world.countsOf? (.counter ref) = some counts) (row : List String) :
    (world.count ref row).countsOf? (.counter ref) = some (counts.take (some row)) ∧
      (row.length ≠ counts.labels.length → world.count ref row =
        world.note (.counterRejected ⟨counts.labels.length, row.length⟩)) := by
  obtain ⟨⟨name, counter⟩, here, rfl⟩ := Option.map_eq_some_iff.mp found
  have inside : ref.index < world.counters.length := (List.getElem?_eq_some_iff.mp here).1
  by_cases fits : row.length = counter.labels.length
  · obtain ⟨touched, ok, -⟩ : ∃ touched, counter.increment row = .ok touched ∧ _ :=
      Family.exists_touch fits
    refine ⟨?_, fun differ => absurd fits differ⟩
    simp only [count, here, ok, countsOf?, List.getElem?_set_self inside, Option.map_some,
      Counter.take]
  · have refused : counter.increment row = .error ⟨counter.labels.length, row.length⟩ :=
      Family.touch_of_unfit fits
    have noted : world.count ref row =
        world.note (.counterRejected ⟨counter.labels.length, row.length⟩) := by
      simp only [count, here, refused]
    rw [noted, Counter.take_of_unfit (by rintro _ ⟨⟩; exact fits)]
    exact ⟨found, fun _ => rfl⟩

/-- The same for observing a value under a row. -/
theorem observe_cases (found : world.countsOf? (.histogram ref) = some counts) (row : List String)
    (value : Binary64) :
    (world.observe ref row value).countsOf? (.histogram ref) = some (counts.take (some row)) ∧
      (row.length ≠ counts.labels.length → world.observe ref row value =
        world.note (.histogramRejected ⟨counts.labels.length, row.length⟩)) := by
  obtain ⟨⟨name, histogram⟩, here, rfl⟩ := Option.map_eq_some_iff.mp found
  have inside : ref.index < world.histograms.length := (List.getElem?_eq_some_iff.mp here).1
  by_cases fits : row.length = histogram.labels.length
  · obtain ⟨touched, ok, -⟩ : ∃ touched, histogram.observe row value = .ok touched ∧ _ :=
      Family.exists_touch fits
    -- What the histogram knows of the values besides their number plays no part.
    have same : Counter.increment (histogram.summary Distribution.count) row =
        (histogram.observe row value).map (Family.summary Distribution.count) :=
      @Family.touch_summary _ _ Distribution.count (Distribution.observe value) (· + 1)
        (fun _ => rfl) histogram .empty row
    refine ⟨?_, fun differ => absurd fits differ⟩
    rw [ok, Except.map] at same
    simp only [observe, here, ok, countsOf?, List.getElem?_set_self inside, Option.map_some,
      Counter.take, same]
  · have refused : histogram.observe row value = .error ⟨histogram.labels.length, row.length⟩ :=
      Family.touch_of_unfit fits
    have noted : world.observe ref row value =
        world.note (.histogramRejected ⟨histogram.labels.length, row.length⟩) := by
      simp only [observe, here, refused]
    rw [noted, Counter.take_of_unfit (by rintro _ ⟨⟩; exact fits)]
    exact ⟨found, fun _ => rfl⟩

end World

/-! ### The handler of a metric -/

/-- On which side of the work a chain runs. -/
inductive Side where
  | before
  | after
deriving DecidableEq

namespace Metric

/-- The side on which a metric is used. -/
def side : Metric → Side
  | counter _ => .before
  | histogram _ => .after

/-- The handler that gives a metric the answers of a label function. -/
def handler (metric : Metric) (labels : Handler.Labels) : Handler δ ε υ :=
  match metric with
  | counter ref => .count ref labels
  | histogram ref => .observeDuration ref labels

/-- What is noted about an answer that does not fit so many labels. -/
def objections (metric : Metric) (width : Nat) : Option (List String) → List Notice
  | none => []
  | some row =>
    match metric with
    | counter _ => [.counterRejected ⟨width, row.length⟩]
    | histogram _ => [.histogramRejected ⟨width, row.length⟩]

variable {metric : Metric} {world : World δ ε υ} {counts : Counter}

/-- A metric takes the answer of its label function, or it is noted why not. -/
theorem handler_cases (found : world.countsOf? metric = some counts) (labels : Handler.Labels)
    (op : Operation) :
    (metric.handler labels op world).2.countsOf? metric = some (counts.take (labels op)) ∧
      (Counter.Unfit counts.labels.length (labels op) → metric.handler labels op world =
        (op, world.noteAll (metric.objections counts.labels.length (labels op)))) := by
  cases metric with
  | counter ref =>
    simp only [handler, Handler.count]
    cases labels op with
    | none => exact ⟨found, fun _ => by simp [World.noteAll, objections]⟩
    | some row =>
      obtain ⟨taken, refused⟩ := World.count_cases found row
      exact ⟨taken, fun unfit => congrArg (op, ·) (refused (unfit row rfl))⟩
  | histogram ref =>
    simp only [handler, Handler.observeDuration]
    cases labels op with
    | none => exact ⟨found, fun _ => by simp [World.noteAll, objections]⟩
    | some row =>
      obtain ⟨taken, refused⟩ := World.observe_cases found row
        (op.bag.duration ArgName.duration).toSeconds
      exact ⟨taken, fun unfit => congrArg (op, ·) (refused (unfit row rfl))⟩

end Metric

/-! ### Handlers that spare a metric -/

/-- The counts of a metric in one world are found unchanged in another. -/
def World.KeepsCounts (metric : Metric) (before after : World δ ε υ) : Prop :=
  ∀ counts, before.countsOf? metric = some counts → after.countsOf? metric = some counts

namespace World.KeepsCounts

variable {metric : Metric} {before middle after : World δ ε υ}

theorem of_metrics_eq (counters : after.counters = before.counters)
    (histograms : after.histograms = before.histograms) : KeepsCounts metric before after := by
  intro counts found
  cases metric with
  | counter ref => rwa [countsOf?, counters]
  | histogram ref => rwa [countsOf?, histograms]

theorem trans (first : KeepsCounts metric before middle)
    (second : KeepsCounts metric middle after) : KeepsCounts metric before after :=
  fun counts found => second counts (first counts found)

end World.KeepsCounts

theorem MetricRef.index_ne {first second : MetricRef} (differ : first ≠ second) :
    first.index ≠ second.index := by
  cases first
  cases second
  simpa using differ

/-- A counter is used without touching any other metric. -/
theorem World.keepsCounts_count {metric : Metric} {other : MetricRef}
    (differ : metric ≠ .counter other) (world : World δ ε υ) (row : List String) :
    KeepsCounts metric world (world.count other row) := by
  intro counts found
  unfold count
  split
  · exact found
  · split
    · cases metric with
      | counter ref =>
        have apart : other.index ≠ ref.index :=
          MetricRef.index_ne fun same => differ (congrArg Metric.counter same.symm)
        rwa [countsOf?, List.getElem?_set_ne apart]
      | histogram ref => exact found
    · exact found

theorem World.keepsCounts_observe {metric : Metric} {other : MetricRef}
    (differ : metric ≠ .histogram other) (world : World δ ε υ) (row : List String)
    (value : Binary64) : KeepsCounts metric world (world.observe other row value) := by
  intro counts found
  unfold observe
  split
  · exact found
  · split
    · cases metric with
      | counter ref => exact found
      | histogram ref =>
        have apart : other.index ≠ ref.index :=
          MetricRef.index_ne fun same => differ (congrArg Metric.histogram same.symm)
        rwa [countsOf?, List.getElem?_set_ne apart]
    · exact found

namespace Handler

/-- A handler that leaves the counts of a metric as they are. -/
def SparesMetric (metric : Metric) (handler : Handler δ ε υ) : Prop :=
  ∀ op world, World.KeepsCounts metric world (handler op world).2

/-- A program's own remark on a span that leaves the counts of a metric as they are. -/
def SpanRemark.SparesMetric (metric : Metric) (remark : SpanRemark δ ε υ) : Prop :=
  ∀ span op world, World.KeepsCounts metric world (remark span op world)

variable {metric : Metric}

theorem sparesMetric_log [ByteStream δ ε] : (log : Handler δ ε υ).SparesMetric metric := by
  intro op world
  cases own : op.logger with
  | none =>
    rw [log_of_none own]
    exact .of_metrics_eq rfl rfl
  | some logger =>
    obtain ⟨notices, printed⟩ := log_of_some own world
    rw [printed]
    exact .of_metrics_eq rfl rfl

theorem sparesMetric_count {other : MetricRef} (differ : metric ≠ .counter other)
    (labels : Labels) : (count other labels : Handler δ ε υ).SparesMetric metric := by
  intro op world
  unfold count
  split
  · exact .of_metrics_eq rfl rfl
  · exact World.keepsCounts_count differ world _

theorem sparesMetric_observeDuration {other : MetricRef} (differ : metric ≠ .histogram other)
    (labels : Labels) : (observeDuration other labels : Handler δ ε υ).SparesMetric metric := by
  intro op world
  unfold observeDuration
  split
  · exact .of_metrics_eq rfl rfl
  · exact World.keepsCounts_observe differ world _ _

theorem sparesMetric_openSpan (name : Operation → String) {onStart : SpanRemark δ ε υ}
    (spares : onStart.SparesMetric metric) : (openSpan name onStart).SparesMetric metric := by
  intro op world
  unfold openSpan
  split
  · exact .of_metrics_eq rfl rfl
  · -- Starting a span touches the spans, and then the program has its say.
    intro counts found
    exact spares _ _ _ counts found

theorem sparesMetric_closeSpan {onFinish : SpanRemark δ ε υ}
    (spares : onFinish.SparesMetric metric) : (closeSpan onFinish).SparesMetric metric := by
  intro op world
  unfold closeSpan
  split
  · exact .of_metrics_eq rfl rfl
  · refine World.KeepsCounts.trans ?_ (spares _ _ _)
    split <;> exact .of_metrics_eq rfl rfl

theorem sparesMetric_breadcrumb (crumbOf : CrumbOf) :
    (breadcrumb crumbOf : Handler δ ε υ).SparesMetric metric := by
  intro op world
  unfold breadcrumb
  split
  · exact .of_metrics_eq rfl rfl
  · simp only
    split <;> exact .of_metrics_eq rfl rfl

end Handler

theorem keepsCounts_runHandlers {metric : Metric} {handlers : List (Handler δ ε υ)}
    (spare : ∀ handler ∈ handlers, handler.SparesMetric metric) (op : Operation)
    (world : World δ ε υ) : World.KeepsCounts metric world (runHandlers handlers op world).2 := by
  induction handlers generalizing op world with
  | nil => exact fun counts found => found
  | cons handler rest ih =>
    have first := spare handler List.mem_cons_self op world
    have later := ih (fun other member => spare other (List.mem_cons_of_mem _ member))
      (handler op world).1 (handler op world).2
    exact first.trans later

/-! ### One chain -/

namespace Metric

variable {metric : Metric} {world : World δ ε υ} {counts : Counter}

/-- Of a chain that uses a metric once, that one use counts. -/
theorem countsOf?_runChain (found : world.countsOf? metric = some counts)
    {earlier later : List (Handler δ ε υ)}
    (spared : ∀ handler ∈ earlier ++ later, handler.SparesMetric metric)
    (answer : Handler.Labels) (op : Operation) :
    (runChain (earlier ++ metric.handler answer :: later) op world).2.countsOf? metric =
      some (counts.take (answer (runChain earlier op world).1)) := by
  have reached := keepsCounts_runHandlers
    (fun handler member => spared handler (List.mem_append_left later member))
    op.setRequestArgs world counts found
  obtain ⟨taken, -⟩ := handler_cases reached answer (runChain earlier op world).1
  rw [runChain_append]
  exact keepsCounts_runHandlers
    (fun handler member => spared handler (List.mem_append_right earlier member)) _ _ _ taken

/-- A chain in which each answer that does not fit a metric is passed over: with no more than a
notice, the handlers behind run on what those before have left. -/
def PassesOver (metric : Metric) (answer : Handler.Labels)
    (upTo chain behind : List (Handler δ ε υ)) : Prop :=
  ∀ op world counts,
    let reached := runChain upTo op world
    reached.2.countsOf? metric = some counts →
    Counter.Unfit counts.labels.length (answer reached.1) →
    runChain chain op world = runHandlers behind reached.1
      (reached.2.noteAll (metric.objections counts.labels.length (answer reached.1)))

theorem passesOver_runChain (metric : Metric) (answer : Handler.Labels)
    (upTo behind : List (Handler δ ε υ)) :
    metric.PassesOver answer upTo (upTo ++ metric.handler answer :: behind) behind := by
  intro op world counts reached found unfit
  obtain ⟨-, passed⟩ := handler_cases found answer reached.1
  have goes_on : runHandlers (metric.handler answer :: behind) reached.1 reached.2 =
      runHandlers behind (metric.handler answer reached.1 reached.2).1
        (metric.handler answer reached.1 reached.2).2 := rfl
  rw [passed unfit] at goes_on
  exact (runChain_append upTo _ op world).trans goes_on

end Metric

end Tapline
