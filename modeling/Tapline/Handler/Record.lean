import Tapline.Breadcrumb.Default
import Tapline.Operation
/-!
# Handlers that leave something behind

These handlers change nothing about the operation. They print it as a record, count it or its
duration in a metric, leave a breadcrumb, or keep its arguments for an observer. What goes wrong
is noted.
-/

namespace Tapline.Handler

variable {δ ε υ : Type}

/-- Prints the arguments through the logger of the operation, if it has one. -/
def log [ByteStream δ ε] : Handler δ ε υ := fun op world =>
  match op.logger with
  | none => (op, world)
  | some logger =>
    match world.print logger op.bag with
    | (.ok (), world) => (op, world)
    | (.error cause, world) => (op, world.note (.recordFailed cause))

/-- The label values of an operation; none if it is not to be counted. -/
abbrev Labels := Operation → Option (List String)

/-- The texts of arguments as label values; an operation that lacks one is not counted. -/
def labelsFrom (names : List String) : Labels := fun op =>
  let values := names.map op.bag.text
  if values.any String.isEmpty then none else some values

def count (counter : MetricRef) (labels : Labels) : Handler δ ε υ := fun op world =>
  match labels op with
  | none => (op, world)
  | some values => (op, world.count counter values)

/-- Observes the duration of the operation, in seconds. -/
def observeDuration (histogram : MetricRef) (labels : Labels) : Handler δ ε υ := fun op world =>
  match labels op with
  | none => (op, world)
  | some values =>
    (op, world.observe histogram values (op.bag.duration ArgName.duration).toSeconds)

/-- What breadcrumb an operation leaves, at a point in time. -/
abbrev CrumbOf := Timestamp → Operation → Option Breadcrumb

/-- The breadcrumb that an operation leaves by its name. -/
def namedCrumb : CrumbOf := fun now op => Breadcrumb.ofOperation? now op.bag

/-- Leaves a breadcrumb in the trail of the context, if it has one. -/
def breadcrumb (crumbOf : CrumbOf) : Handler δ ε υ := fun op world =>
  match op.context.trail with
  | none => (op, world)
  | some trail =>
    let (now, world) := world.readClocks
    match crumbOf now.wall op with
    | none => (op, world)
    | some crumb => (op, world.pushCrumb trail crumb)

/-- Keeps the arguments for an observer. -/
def record (observer : String) : Handler δ ε υ := fun op world =>
  (op, world.keepRecord observer op.bag)

/-- Counts the call for an observer. -/
def tally (observer : String) : Handler δ ε υ := fun op world => (op, world.keepCall observer)

/-- The handlers of this library, as they show themselves. -/
def descriptions : List String :=
  "LogHandler" ::
    ["BreadcrumbHandler", "SpanStartHandler", "SpanFinishHandler", "CounterHandler",
      "SummaryHandler"].map (· ++ " \x7b .. \x7d")

end Tapline.Handler
