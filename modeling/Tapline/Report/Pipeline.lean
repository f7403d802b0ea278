import Tapline.Pipeline.Basic
import Tapline.Report.Activity
/-!
# Pipelines as documents

How many handlers a hook or a pipeline has, what its logger looks like, and the metrics of a world
by their names.
-/

namespace Tapline

variable {δ ε υ : Type}

/-- The number of handlers of a hook, and whether it has a logger. -/
def Hook.report (hook : Hook δ ε υ) : Json :=
  .ofMembers [("pre", (hook.before.length : Json)), ("post", hook.after.length),
    ("logger", hook.operation.logger.isSome)]

/-- The number of handlers of a pipeline, and its logger. -/
def Pipeline.report (pipeline : Pipeline δ ε υ) (world : World δ ε υ) : Json :=
  .ofMembers [("pre", (pipeline.before.length : Json)), ("post", pipeline.after.length),
    ("logger", .ofOption (fun ref => (world.logger ref).report) pipeline.logger)]

/-- The metrics of a world by name. -/
def World.reportMetrics (world : World δ ε υ) (withheld : Option String) : Json :=
  .ofMembers (world.counters.map (fun entry => (entry.1, entry.2.report)) ++
    world.histograms.map fun entry => (entry.1, entry.2.report withheld))

/-- The spans of a world, given those that are referred to by something besides operations. -/
def World.reportSpans (world : World δ ε υ) (held : List SpanRef) (ops : List Operation) : Json :=
  world.spans.report (held ++ ops.flatMap Operation.heldSpans)

end Tapline
