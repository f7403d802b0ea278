import Tapline.Handler.Record
import Tapline.Handler.Tracing
import Tapline.Logger.Opening
import Tapline.Pipeline.Basic
/-!
# Setting a pipeline up

Handlers are added to the end of a chain, so they run in the order in which they are added.
Records are printed by one handler at most: asking for another one fails, before anything else is
looked at. A logger that is replaced is closed. Once a step fails, the draft is given up with its
logger.
-/

namespace Tapline

/-- Opens the logger that settings describe. -/
def World.openLogger {υ : Type} (world : World HostStream Host υ) (settings : Settings)
    (registry : Registry) : Except PipelineError (Logger HostStream) × World HostStream Host υ :=
  let opening := Logger.ofSettings settings registry world.around
  (opening.result, { world with around := opening.host }.noteAll opening.notices)

/-- A pipeline that is being set up. -/
structure Draft (δ ε υ : Type) extends Pipeline δ ε υ where
  /-- Whether records are printed. -/
  prints : Bool

namespace Draft

variable {δ ε υ : Type}

def empty : Draft δ ε υ := ⟨.empty, false⟩

def setDefault (draft : Draft δ ε υ) (name : String) (value : Value) : Draft δ ε υ :=
  { draft with toPipeline := draft.toPipeline.setDefault name value }

def addBefore (draft : Draft δ ε υ) (handler : Handler δ ε υ) : Draft δ ε υ :=
  { draft with before := draft.before ++ [handler] }

def addAfter (draft : Draft δ ε υ) (handler : Handler δ ε υ) : Draft δ ε υ :=
  { draft with after := draft.after ++ [handler] }

/-- Adds a handler to each chain. -/
def addAround (draft : Draft δ ε υ) (before after : Handler δ ε υ) : Draft δ ε υ :=
  (draft.addBefore before).addAfter after

/-- Runs every operation in a span. -/
def addTracing (draft : Draft δ ε υ) (name : Operation → String)
    (onStart onFinish : Handler.SpanRemark δ ε υ) : Draft δ ε υ :=
  draft.addAround (.openSpan name onStart) (.closeSpan onFinish)

def addCounter (draft : Draft δ ε υ) (counter : MetricRef) (labels : Handler.Labels) :
    Draft δ ε υ :=
  draft.addBefore (.count counter labels)

/-- Observes the durations of operations. -/
def addHistogram (draft : Draft δ ε υ) (histogram : MetricRef) (labels : Handler.Labels) :
    Draft δ ε υ :=
  draft.addAfter (.observeDuration histogram labels)

/-- Lets operations leave breadcrumbs. -/
def addBreadcrumbs (draft : Draft δ ε υ) (crumbOf : Handler.CrumbOf) : Draft δ ε υ :=
  draft.addAfter (.breadcrumb crumbOf)

def build (draft : Draft δ ε υ) : Pipeline δ ε υ := draft.toPipeline

def describe (draft : Draft δ ε υ) : String :=
  "ManagerBuilder \x7b defaults: " ++ draft.defaults.describe ++
    ", pre: " ++ toString draft.before.length ++ ", post: " ++ toString draft.after.length ++
    ", log_hook: " ++ (if draft.prints then "true" else "false") ++ " \x7d"

variable [ByteStream δ ε]

/-- Prints records through a logger; it takes the place of an older one, which is not closed but
given up. -/
def printThrough (draft : Draft δ ε υ) (logger : Logger δ) (world : World δ ε υ) :
    Except SetupError (Draft δ ε υ) × World δ ε υ :=
  let (ref, world) := world.addLogger logger
  if draft.prints then (.error .duplicateLogHook, draft.drop (world.dropLogger ref))
  else
    (.ok ({ draft with logger := some ref, prints := true }.addAfter .log), draft.drop world)

/-- Sets the logger without printing anything; an older one is closed. -/
def setLogger (draft : Draft δ ε υ) (logger : Logger δ) (world : World δ ε υ) :
    Draft δ ε υ × World δ ε υ :=
  let (ref, world) := world.addLogger logger
  let world := match draft.logger with
    | none => world
    | some older =>
      match world.closeLogger older with
      | (.ok (), world) => world.dropLogger older
      | (.error cause, world) => (world.note (.replacedLoggerFailed cause)).dropLogger older
  ({ draft with logger := some ref }, world)

/-- Opens the logger that settings describe, and prints records through it. -/
def printByOpening (draft : Draft HostStream Host υ) (settings : Settings) (registry : Registry)
    (world : World HostStream Host υ) :
    Except PipelineError (Draft HostStream Host υ) × World HostStream Host υ :=
  if draft.prints then (.error (.setup .duplicateLogHook), draft.drop world)
  else
    match world.openLogger settings registry with
    | (.error cause, world) => (.error cause, draft.drop world)
    | (.ok logger, world) =>
      let (result, world) := draft.printThrough logger world
      (result.mapError .setup, world)

end Draft

end Tapline
