import Mathlib
import Tapline.Proofs.Metrics.Chains
import Tapline.Proofs.Pipeline.Order
/-!
# Metrics of many runs

A pipeline may count its operations before their work and observe their durations after it. Other
handlers change the operation in between, and the program may let its hooks run in any order and
any number of times.

## Main result

`metrics_count_labelled_runs`, for every program that registers the two metrics, in either order and
among any others, and every run of its pipeline.

## Proof strategy

A step of a run runs the chain of one side on one operation, or it leaves a metric alone
(`PipelineRun.next_cases`). So a step brings the counts forward by one answer or not at all
(`PipelineRun.Counts.next`), and a run by all its answers (`PipelineRun.Counts.steps`).
-/

namespace Tapline

variable {δ ε υ : Type}

/-! ### Registrations -/

/-- The registration of a metric. -/
def Metric.step (metric : Metric) (labels : Handler.Labels) : SetupStep υ :=
  match metric with
  | counter ref => .counter ref labels
  | histogram ref => .histogram ref labels

/-- A registration whose handlers leave the counts of a metric as they are. -/
def SetupStep.SparesMetric (metric : Metric) : SetupStep υ → Prop
  | plain (.before handler) | plain (.after handler) => handler.SparesMetric metric
  | plain (.tracing _ onStart onFinish) =>
    Handler.SpanRemark.SparesMetric metric onStart ∧
      Handler.SpanRemark.SparesMetric metric onFinish
  | around before after => before.SparesMetric metric ∧ after.SparesMetric metric
  | counter other _ => metric ≠ .counter other
  | histogram other _ => metric ≠ .histogram other
  | plain (.default ..) | plain (.installing _) | plain (.printing _) | breadcrumbs _
  | opening .. => True

/-- The handlers that a registration adds on a side. -/
def SetupStep.handlers : Side → SetupStep υ → List (Handler HostStream Host υ)
  | .before => befores
  | .after => afters

theorem SetupStep.SparesMetric.handlers {metric : Metric} {step : SetupStep υ}
    (spares : step.SparesMetric metric) (side : Side) :
    ∀ handler ∈ step.handlers side, handler.SparesMetric metric := by
  have one : ∀ {handler : Handler HostStream Host υ}, handler.SparesMetric metric →
      ∀ other ∈ [handler], other.SparesMetric metric := by
    intro handler spares other member
    rwa [List.mem_singleton.mp member]
  have both : (∀ handler ∈ step.befores, handler.SparesMetric metric) ∧
      ∀ handler ∈ step.afters, handler.SparesMetric metric := by
    cases step with
    | plain registration =>
      cases registration with
      | default | installing => exact ⟨nofun, nofun⟩
      | before handler => exact ⟨one spares, nofun⟩
      | after handler => exact ⟨nofun, one spares⟩
      | tracing name onStart onFinish =>
        exact ⟨one (Handler.sparesMetric_openSpan name spares.1),
          one (Handler.sparesMetric_closeSpan spares.2)⟩
      | printing logger => exact ⟨nofun, one Handler.sparesMetric_log⟩
    | around before after => exact ⟨one spares.1, one spares.2⟩
    | counter other labels => exact ⟨one (Handler.sparesMetric_count spares labels), nofun⟩
    | histogram other labels =>
      exact ⟨nofun, one (Handler.sparesMetric_observeDuration spares labels)⟩
    | breadcrumbs crumbOf => exact ⟨nofun, one (Handler.sparesMetric_breadcrumb crumbOf)⟩
    | opening settings registry => exact ⟨nofun, one Handler.sparesMetric_log⟩
  cases side with
  | before => exact both.1
  | after => exact both.2

theorem SetupStep.handlers_flatMap_spare {metric : Metric} {steps : List (SetupStep υ)}
    (spared : ∀ step ∈ steps, step.SparesMetric metric) (side : Side) :
    ∀ handler ∈ steps.flatMap (handlers side), handler.SparesMetric metric := by
  intro handler member
  obtain ⟨step, inside, own⟩ := List.mem_flatMap.mp member
  exact (spared step inside).handlers side handler own

/-! ### A run -/

/-- The chain of a pipeline on a side. -/
def Pipeline.chain (pipeline : Pipeline δ ε υ) : Side → List (Handler δ ε υ)
  | .before => pipeline.before
  | .after => pipeline.after

/-- A step in which the program itself leaves the counts of a metric as they are. -/
def PipelineStep.SparesMetric (metric : Metric) : PipelineStep δ ε υ → Prop
  | change _ how => how.SparesMetric metric
  | _ => True

namespace PipelineRun

/-- The operation that a step runs the chain of a side on, if it does. -/
def begun? (run : PipelineRun δ ε υ) : Side → PipelineStep δ ε υ → Option Operation
  | .before, .before n | .after, .after n => run.hooks[n]?.map Hook.operation
  | _, _ => none

/-- What the label function of a metric answers in a step, if it is asked. The handlers that run
before the one of the metric are given. -/
def answer? (metric : Metric) (answer : Handler.Labels) (upTo : List (Handler δ ε υ))
    (run : PipelineRun δ ε υ) (step : PipelineStep δ ε υ) : Option (Option (List String)) :=
  (run.begun? metric.side step).map fun op => answer (runChain upTo op run.world).1

/-- A run whose hooks have the chains of the pipeline. -/
def SharesChains (run : PipelineRun δ ε υ) (pipeline : Pipeline δ ε υ) : Prop :=
  ∀ hook ∈ run.hooks, hook.before = pipeline.before ∧ hook.after = pipeline.after

variable {pipeline : Pipeline δ ε υ} {run : PipelineRun δ ε υ} {metric : Metric}

theorem SharesChains.setHook (shares : run.SharesChains pipeline) {n : Nat}
    {hook changed : Hook δ ε υ} (found : run.hooks[n]? = some hook)
    (before : changed.before = hook.before) (after : changed.after = hook.after) :
    ∀ other ∈ run.hooks.set n changed,
      other.before = pipeline.before ∧ other.after = pipeline.after := by
  intro other member
  rcases List.mem_or_eq_of_mem_set member with old | rfl
  · exact shares other old
  · obtain ⟨before', after'⟩ := shares hook (List.mem_of_getElem? found)
    exact ⟨before.trans before', after.trans after'⟩

variable [ByteStream δ ε]

/-- The answers of a run, in their order. -/
def answers (pipeline : Pipeline δ ε υ) (metric : Metric) (answer : Handler.Labels)
    (upTo : List (Handler δ ε υ)) :
    PipelineRun δ ε υ → List (PipelineStep δ ε υ) → List (Option (List String))
  | _, [] => []
  | run, step :: rest =>
    (run.answer? metric answer upTo step).toList ++
      answers pipeline metric answer upTo (run.next pipeline [] step) rest

/-- A step runs the chain of one side on one operation, or it leaves a metric alone. -/
theorem next_cases (shares : run.SharesChains pipeline) {step : PipelineStep δ ε υ}
    (calm : step.SparesMetric metric) :
    (run.next pipeline [] step).SharesChains pipeline ∧
    ((∃ side op, run.begun? side step = some op ∧
      (∀ other ≠ side, run.begun? other step = none) ∧
      (run.next pipeline [] step).world = (runChain (pipeline.chain side) op run.world).2) ∨
    ((∀ side, run.begun? side step = none) ∧
      World.KeepsCounts metric run.world (run.next pipeline [] step).world)) := by
  have kept : World.KeepsCounts metric run.world run.world := .of_metrics_eq rfl rfl
  cases step with
  | create context =>
    refine ⟨fun hook member => ?_, .inr ⟨fun side => by cases side <;> rfl, kept⟩⟩
    rcases List.mem_append.mp member with old | new
    · exact shares hook old
    · obtain rfl := List.mem_singleton.mp new
      exact ⟨rfl, rfl⟩
  | change n how =>
    have nothing : ∀ side, run.begun? side (.change n how) = none := fun side => by
      cases side <;> rfl
    unfold next onHook
    simp only
    split
    next => exact ⟨shares, .inr ⟨nothing, kept⟩⟩
    next hook found =>
      exact ⟨shares.setHook found rfl rfl, .inr ⟨nothing, calm hook.operation run.world⟩⟩
  | before n =>
    unfold next onHook
    simp only
    split
    next missing =>
      exact ⟨shares, .inr ⟨fun side => by cases side <;> simp [begun?, missing], kept⟩⟩
    next hook found =>
      obtain ⟨before, -⟩ := shares hook (List.mem_of_getElem? found)
      refine ⟨shares.setHook found rfl rfl, .inl ⟨.before, hook.operation, ?_, ?_, ?_⟩⟩
      · rw [begun?, found, Option.map_some]
      · intro other differ
        cases other with
        | before => exact absurd rfl differ
        | after => rfl
      · rw [Pipeline.chain, ← before]
        rfl
  | after n =>
    unfold next
    simp only
    split
    next missing =>
      exact ⟨shares, .inr ⟨fun side => by cases side <;> simp [begun?, missing], kept⟩⟩
    next hook found =>
      obtain ⟨-, after⟩ := shares hook (List.mem_of_getElem? found)
      refine ⟨shares.setHook found rfl rfl, .inl ⟨.after, hook.operation, ?_, ?_, ?_⟩⟩
      · rw [begun?, found, Option.map_some]
      · intro other differ
        cases other with
        | before => rfl
        | after => exact absurd rfl differ
      · rw [Pipeline.chain, ← after]
        rfl
  | close =>
    have closed : (pipeline.close run.world).2.counters = run.world.counters ∧
        (pipeline.close run.world).2.histograms = run.world.histograms := by
      unfold Pipeline.close
      split <;> exact ⟨rfl, rfl⟩
    exact ⟨shares, .inr ⟨fun side => by cases side <;> rfl, .of_metrics_eq closed.1 closed.2⟩⟩
  | move logger place which =>
    exact ⟨shares, .inr ⟨fun side => by cases side <;> rfl, .of_metrics_eq rfl rfl⟩⟩

/-- A run whose metric has taken some answers since it was new. -/
structure Counts (run : PipelineRun δ ε υ) (pipeline : Pipeline δ ε υ) (metric : Metric)
    (labels : List String) (answers : List (Option (List String))) : Prop where
  took : ∃ counts, run.world.countsOf? metric = some counts ∧ counts.Took labels answers
  chains : run.SharesChains pipeline

variable {labels : List String} {answers : List (Option (List String))} {answer : Handler.Labels}
  {earlier later : List (Handler δ ε υ)}

/-- The metric takes the answer of a step, if there is one. -/
theorem Counts.next (counted : run.Counts pipeline metric labels answers)
    (chain : pipeline.chain metric.side = earlier ++ metric.handler answer :: later)
    (spared : ∀ handler ∈ earlier ++ later, handler.SparesMetric metric)
    (spared' : ∀ side ≠ metric.side, ∀ handler ∈ pipeline.chain side, handler.SparesMetric metric)
    {step : PipelineStep δ ε υ} (calm : step.SparesMetric metric) :
    (run.next pipeline [] step).Counts pipeline metric labels
      (answers ++ (run.answer? metric answer earlier step).toList) := by
  obtain ⟨⟨counts, found, took⟩, chains⟩ := counted
  obtain ⟨chains', ⟨side, op, begun, others, world⟩ | ⟨others, keeps⟩⟩ :=
    next_cases chains calm
  · refine ⟨?_, chains'⟩
    rw [world]
    -- Only on the side of the metric is its label function asked.
    by_cases own : side = metric.side
    · subst own
      rw [answer?, begun, Option.map_some, Option.toList_some, chain]
      exact ⟨_, Metric.countsOf?_runChain found spared answer op, took.take _⟩
    · rw [answer?, others _ (Ne.symm own), Option.map_none, Option.toList_none, List.append_nil]
      exact ⟨counts, keepsCounts_runHandlers (spared' side own) _ _ counts found, took⟩
  · rw [answer?, others, Option.map_none, Option.toList_none, List.append_nil]
    exact ⟨⟨counts, keeps counts found, took⟩, chains'⟩

theorem Counts.steps (counted : run.Counts pipeline metric labels answers)
    (chain : pipeline.chain metric.side = earlier ++ metric.handler answer :: later)
    (spared : ∀ handler ∈ earlier ++ later, handler.SparesMetric metric)
    (spared' : ∀ side ≠ metric.side, ∀ handler ∈ pipeline.chain side, handler.SparesMetric metric)
    {steps : List (PipelineStep δ ε υ)} (calm : ∀ step ∈ steps, step.SparesMetric metric) :
    (PipelineRun.run pipeline [] run steps).Counts pipeline metric labels
      (answers ++ run.answers pipeline metric answer earlier steps) := by
  -- The run and the answers so far grow together.
  induction steps generalizing run answers with
  | nil =>
    rw [PipelineRun.answers, List.append_nil]
    exact counted
  | cons step rest ih =>
    have first := counted.next chain spared spared' (calm step List.mem_cons_self)
    have whole := ih first fun other member => calm other (List.mem_cons_of_mem _ member)
    rw [List.append_assoc] at whole
    exact whole

end PipelineRun

/-! ### The main result -/

/-- A program that uses a metric once, among registrations that leave it alone. -/
structure Metric.UsedOnce (metric : Metric) (answer : Handler.Labels)
    (program earlier later : List (SetupStep υ)) : Prop where
  split : program = earlier ++ metric.step answer :: later
  spared : ∀ step ∈ earlier ++ later, step.SparesMetric metric

theorem Metric.handlers_step (metric : Metric) (answer : Handler.Labels) (side : Side) :
    (metric.step answer : SetupStep υ).handlers side =
      if side = metric.side then [metric.handler answer] else [] := by
  cases metric <;> cases side <;> rfl

theorem Draft.chain_of_performAll {program : List (SetupStep υ)} {world : World HostStream Host υ}
    {draft : Draft HostStream Host υ} (ready : (performAll program .empty world).1 = .ok draft)
    (side : Side) : draft.build.chain side = program.flatMap (SetupStep.handlers side) := by
  rcases performAll_cases .empty world program with
    ⟨next, succeeded, before, after, -⟩ | ⟨_, _, _, _, cause, -, -, failed, -⟩
  · obtain rfl : draft = next := Except.ok.inj (ready.symm.trans succeeded)
    cases side with
    | before => exact before
    | after => exact after
  · cases failed.symm.trans ready

namespace Metric.UsedOnce

variable {metric : Metric} {answer : Handler.Labels} {program earlier later : List (SetupStep υ)}
  {world start : World HostStream Host υ} {draft : Draft HostStream Host υ}

/-- On its own side, the handler of the metric stands between those of the others. -/
theorem chain (used : metric.UsedOnce answer program earlier later)
    (ready : (Draft.performAll program .empty world).1 = .ok draft) :
    draft.build.chain metric.side = earlier.flatMap (SetupStep.handlers metric.side) ++
      metric.handler answer :: later.flatMap (SetupStep.handlers metric.side) := by
  rw [Draft.chain_of_performAll ready, used.split, List.flatMap_append, List.flatMap_cons,
    handlers_step, if_pos rfl, List.singleton_append]

theorem other_chain (used : metric.UsedOnce answer program earlier later)
    (ready : (Draft.performAll program .empty world).1 = .ok draft) {side : Side}
    (other : side ≠ metric.side) :
    draft.build.chain side = (earlier ++ later).flatMap (SetupStep.handlers side) := by
  rw [Draft.chain_of_performAll ready, used.split, List.flatMap_append, List.flatMap_cons,
    handlers_step, if_neg other, List.nil_append, List.flatMap_append]

theorem tells (used : metric.UsedOnce answer program earlier later)
    (ready : (Draft.performAll program .empty world).1 = .ok draft) {labels : List String}
    (new : start.countsOf? metric = some (.new labels))
    {steps : List (PipelineStep HostStream Host υ)}
    (calm : ∀ step ∈ steps, step.SparesMetric metric) :
    ∃ counts, (PipelineRun.run draft.build [] (.start start) steps).world.countsOf? metric =
        some counts ∧
      counts.Tells labels (PipelineRun.answers draft.build metric answer
        (earlier.flatMap (SetupStep.handlers metric.side)) (.start start) steps) := by
  have spared : ∀ handler ∈ earlier.flatMap (SetupStep.handlers metric.side) ++
      later.flatMap (SetupStep.handlers metric.side), handler.SparesMetric metric := by
    rw [← List.flatMap_append]
    exact SetupStep.handlers_flatMap_spare used.spared metric.side
  have spared' : ∀ side ≠ metric.side, ∀ handler ∈ draft.build.chain side,
      handler.SparesMetric metric := by
    intro side other
    rw [used.other_chain ready other]
    exact SetupStep.handlers_flatMap_spare used.spared side
  have begun : (PipelineRun.start start).Counts draft.build metric labels [] :=
    ⟨⟨.new labels, new, Counter.took_new labels⟩, nofun⟩
  obtain ⟨counts, found, took⟩ := (begun.steps (used.chain ready) spared spared' calm).took
  exact ⟨counts, found, took.tells⟩

end Metric.UsedOnce

/-- **Metrics count the labelled runs.** A program uses a counter and a histogram once each, among
registrations that leave them alone. After any steps of its hooks, a row of label values of the
right length has been counted as often as a chain before the work got it as the answer of the
counter's label function, and observed as often as a chain after the work got it as the answer of
the histogram's; each function answers for the operation as the handlers before have left it. This
holds of each row whose key tells it from the other rows that were answered. There is no series of
any row that was not. Where the answer is none, or a row of the wrong length, nothing comes of it
but a notice of the latter, and the handlers behind run all the same. -/
theorem metrics_count_labelled_runs {υ : Type} {program : List (SetupStep υ)}
    {world start : World HostStream Host υ} {draft : Draft HostStream Host υ}
    (ready : (Draft.performAll program .empty world).1 = .ok draft)
    {counter histogram : MetricRef} {counted observed : Handler.Labels}
    {earlier later earlier' later' : List (SetupStep υ)}
    (counts : Metric.UsedOnce (.counter counter) counted program earlier later)
    (observes : Metric.UsedOnce (.histogram histogram) observed program earlier' later')
    {labels labels' : List String}
    (new : start.countsOf? (.counter counter) = some (.new labels))
    (new' : start.countsOf? (.histogram histogram) = some (.new labels'))
    {steps : List (PipelineStep HostStream Host υ)}
    (calm : ∀ step ∈ steps,
      step.SparesMetric (.counter counter) ∧ step.SparesMetric (.histogram histogram)) :
    let pipeline := draft.build
    let upTo := earlier.flatMap SetupStep.befores
    let upTo' := earlier'.flatMap SetupStep.afters
    let run := PipelineRun.run pipeline [] (.start start) steps
    (∃ counts, run.world.countsOf? (.counter counter) = some counts ∧
      counts.Tells labels
        (PipelineRun.answers pipeline (.counter counter) counted upTo (.start start) steps)) ∧
    (∃ counts, run.world.countsOf? (.histogram histogram) = some counts ∧
      counts.Tells labels'
        (PipelineRun.answers pipeline (.histogram histogram) observed upTo' (.start start) steps)) ∧
    Metric.PassesOver (.counter counter) counted upTo pipeline.before
      (later.flatMap SetupStep.befores) ∧
    Metric.PassesOver (.histogram histogram) observed upTo' pipeline.after
      (later'.flatMap SetupStep.afters) := by
  intro pipeline upTo upTo' run
  have chain : pipeline.before = upTo ++
      .count counter counted :: later.flatMap SetupStep.befores := counts.chain ready
  have chain' : pipeline.after = upTo' ++
      .observeDuration histogram observed :: later'.flatMap SetupStep.afters := observes.chain ready
  refine ⟨counts.tells ready new fun step member => (calm step member).1,
    observes.tells ready new' fun step member => (calm step member).2, ?_, ?_⟩
  · rw [chain]
    exact Metric.passesOver_runChain (.counter counter) counted upTo _
  · rw [chain']
    exact Metric.passesOver_runChain (.histogram histogram) observed upTo' _

/-- A counter with two labels and a histogram with one. The handler before the counter sets the kind
that the counter's label function reads, and the one behind it sets the kind that the histogram's
reads. One command is counted twice and another one once; a third gets a row that is too short, and
the last hook has no command. It is the only one that has no kind after the work either, where its
chain before the work has not run yet. -/
theorem metrics_of_eight_runs :
    let labels : Handler.Labels := fun op =>
      let command := op.bag.text "command_name"
      if command.isEmpty then none
      else if command = "PING" then some [command]
      else some [command, op.bag.text "kind"]
    let set (name text : String) : Handler HostStream Host Unit := .set name (.text text)
    let program : List (SetupStep Unit) :=
      [.plain (.before (set "kind" "redis")), .counter ⟨0⟩ labels,
        .histogram ⟨0⟩ (Handler.labelsFrom ["kind"]), .plain (.before (set "kind" "done")),
        .breadcrumbs Handler.namedCrumb]
    let start : World HostStream Host Unit :=
      (((World.fresh default (.counting ⟨0, 0⟩) ()).addCounter "calls" ["command", "kind"]).2
        |>.addHistogram "seconds" ["kind"]).2
    let steps : List (PipelineStep HostStream Host Unit) :=
      [.create .background, .create .background, .create .background, .create .background,
        .change 0 (set "command_name" "GET"), .change 1 (set "command_name" "PUT"),
        .change 2 (set "command_name" "PING"), .before 0, .before 1, .after 1, .before 2,
        .after 3, .before 3, .before 0, .after 2]
    ∃ draft, (Draft.performAll program .empty start).1 = .ok draft ∧
      let run := PipelineRun.run draft.build [] (.start start) steps
      let counted (row : List String) := run.world.counters[0]?.bind fun entry => entry.2.get? row
      let observed (row : List String) :=
        run.world.histograms[0]?.bind fun entry => (entry.2.get? row).map Distribution.count
      counted ["GET", "redis"] = some 2 ∧ counted ["PUT", "redis"] = some 1 ∧
        counted ["GET", "done"] = none ∧ observed ["done"] = some 2 := by
  intro labels set program start steps
  refine ⟨_, rfl, ?_⟩
  intro run counted observed
  have set_spares : ∀ metric name text, (set name text).SparesMetric metric :=
    fun _ _ _ _ _ _ found => found
  have counts : Metric.UsedOnce (.counter ⟨0⟩) labels program
      (program.take 1) (program.drop 2) := by
    refine ⟨rfl, ?_⟩
    simp [program, SetupStep.SparesMetric, set_spares]
  have observes : Metric.UsedOnce (.histogram ⟨0⟩) (Handler.labelsFrom ["kind"]) program
      (program.take 2) (program.drop 3) := by
    refine ⟨rfl, ?_⟩
    simp [program, SetupStep.SparesMetric, set_spares]
  have calm : ∀ step ∈ steps, step.SparesMetric (.counter ⟨0⟩) ∧
      step.SparesMetric (.histogram ⟨0⟩) := by
    simp [steps, PipelineStep.SparesMetric, set_spares]
  obtain ⟨⟨calls, found, tells⟩, ⟨durations, found', tells'⟩, -, -⟩ :=
    metrics_count_labelled_runs (show (Draft.performAll program .empty start).1 = .ok _ from rfl)
      counts observes (show start.countsOf? _ = some (.new ["command", "kind"]) from rfl)
      (show start.countsOf? _ = some (.new ["kind"]) from rfl) calm
  generalize asked : PipelineRun.answers _ (.counter ⟨0⟩) labels _ _ steps = answers at tells
  generalize asked' : PipelineRun.answers _ (.histogram ⟨0⟩) _ _ _ steps = answers' at tells'
  have answers_eq : answers = [some ["GET", "redis"], some ["PUT", "redis"], some ["PING"], none,
      some ["GET", "redis"]] := by
    rw [← asked]
    decide +kernel
  have answers_eq' : answers' = [some ["done"], none, some ["done"]] := by
    rw [← asked']
    decide +kernel
  subst answers_eq answers_eq'
  -- From here on the run is known by its counts alone.
  have found : run.world.countsOf? (.counter ⟨0⟩) = some calls := found
  have found' : run.world.countsOf? (.histogram ⟨0⟩) = some durations := found'
  clear_value run
  obtain ⟨entry, here, rfl⟩ := Option.map_eq_some_iff.mp found
  obtain ⟨entry', here', rfl⟩ := Option.map_eq_some_iff.mp found'
  have shows (row : List String) : counted row = entry.2.get? row := by
    simp only [counted, here, Option.bind_some]
  have shows' (row : List String) :
      observed row = (entry'.2.summary Distribution.count).get? row := by
    simp only [observed, here', Option.bind_some, Family.get?_summary]
  have put_get : rowKey ["PUT", "redis"] ≠ rowKey ["GET", "redis"] := by decide
  have get_done : rowKey ["GET", "redis"] ≠ rowKey ["GET", "done"] := by decide
  have put_done : rowKey ["PUT", "redis"] ≠ rowKey ["GET", "done"] := by decide
  rw [shows, shows, shows, shows']
  refine ⟨(tells.counts ["GET", "redis"] rfl ?_).trans rfl,
    (tells.counts ["PUT", "redis"] rfl ?_).trans rfl,
    (tells.counts ["GET", "done"] rfl ?_).trans rfl, (tells'.counts ["done"] rfl ?_).trans rfl⟩
  · simp [Counter.Apart, put_get]
  · simp [Counter.Apart, put_get.symm]
  · simp [Counter.Apart, get_done, put_done]
  · simp [Counter.Apart]

end Tapline
