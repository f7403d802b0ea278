import Tapline.Slots
import Tapline.Text.Quoted
import Tapline.Time.Clock
/-!
# Contexts

A context goes with an operation: the request it belongs to, the span it runs in, the trail that
collects its breadcrumbs, its deadline, and values by type. A context never changes; another one
is derived from it. Spans and trails are shared, so a context only refers to them.

## Main statements

- `Context.withDeadline_deadline`: the earlier of two deadlines holds.
-/

namespace Tapline

/-- What an operation's request is known by. -/
structure RequestMeta where
  uuid : String
  url : String
  method : String
deriving DecidableEq, Repr

def RequestMeta.blank : RequestMeta := ⟨"", "", ""⟩

/-- The request by its parts. -/
def RequestMeta.describe (request : RequestMeta) : String :=
  "RequestMeta \x7b uuid: " ++ Text.quoted request.uuid ++ ", url: " ++ Text.quoted request.url ++
    ", method: " ++ Text.quoted request.method ++ " \x7d"

/-- Refers to a span, by its number from one on. -/
structure SpanRef where
  number : Nat
deriving DecidableEq, Repr

/-- Refers to a trail, by its place. -/
structure TrailRef where
  index : Nat
deriving DecidableEq, Repr

/-- What goes with an operation. -/
structure Context where
  request : Option RequestMeta
  span : Option SpanRef
  trail : Option TrailRef
  deadline : Option Instant
  values : Slots PlainType.Carrier

namespace Context

/-- The context of nothing in particular. -/
def background : Context := ⟨none, none, none, none, .empty⟩

instance : Inhabited Context := ⟨background⟩

def forRequest (request : RequestMeta) : Context := { background with request := some request }

def withRequest (context : Context) (request : RequestMeta) : Context :=
  { context with request := some request }

/-- With another identifier for the request, whose address and method stay. -/
def withRequestId (context : Context) (uuid : String) : Context :=
  context.withRequest { context.request.getD .blank with uuid }

/-- In a span, or in none. -/
def withSpan (context : Context) (span : Option SpanRef) : Context := { context with span }

def withTrail (context : Context) (trail : TrailRef) : Context :=
  { context with trail := some trail }

/-- With a deadline, unless an earlier one holds already. -/
def withDeadline (context : Context) (deadline : Instant) : Context :=
  { context with deadline := some ((context.deadline.map (·.earlier deadline)).getD deadline) }

/-- With a deadline so long from now, unless the clock ends before. -/
def withTimeout? (context : Context) (now : Instant) (timeout : Duration) : Option Context :=
  (now.after? timeout).map context.withDeadline

def remaining (context : Context) (now : Instant) : Option Duration :=
  context.deadline.map now.elapsedTo

/-- With a value, in place of an older one of its type. -/
def withValue (context : Context) (type : PlainType) (value : type.Carrier) : Context :=
  { context with values := context.values.put type value }

/-- The context by its parts, given how many breadcrumbs a trail holds. -/
def describe (context : Context) (crumbs : TrailRef → Nat) : String :=
  let optional {α : Type} (describe : α → String) (part : Option α) : String :=
    (part.map fun part => "Some(" ++ describe part ++ ")").getD "None"
  "Context \x7b request: " ++ optional RequestMeta.describe context.request ++
    ", span: " ++ optional (fun span => "Id(" ++ toString span.number ++ ")") context.span ++
    ", breadcrumbs: " ++ optional (fun trail => toString (crumbs trail)) context.trail ++
    ", deadline: " ++ optional Instant.describe context.deadline ++
    ", values: " ++ toString (context.values.count PlainType.all) ++ " \x7d"

theorem withDeadline_deadline (context : Context) (deadline : Instant) :
    (context.withDeadline deadline).deadline =
      some (match context.deadline with
        | none => deadline
        | some earlier => earlier.earlier deadline) := by
  unfold withDeadline
  cases context.deadline <;> rfl

end Context

end Tapline
