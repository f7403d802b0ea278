import Tapline.Operation
/-!
# Spans around operations

One handler opens a span within the span of the context, puts the context into it and keeps it
with the operation; another one takes it back, records the error of the operation in it and puts
the context back where it was. An operation whose span would have no name runs without one.
-/

namespace Tapline.Handler

variable {δ ε υ : Type}

/-- What a program does with a span that was opened, or is about to be given up. -/
abbrev SpanRemark (δ ε υ : Type) := SpanRef → Operation → World δ ε υ → World δ ε υ

/-- Opens a span for the operation, unless its name is empty. -/
def openSpan (name : Operation → String) (onStart : SpanRemark δ ε υ) : Handler δ ε υ :=
  fun op world =>
    if (name op).isEmpty then (op, world)
    else
      let parent := op.context.span
      let (span, world) := world.startSpan
        ⟨"hook", parent, KeyMap.ofList [("otel.name", name op)]⟩
      ({ op with
          context := op.context.withSpan (some span)
          extensions := op.extensions.put .openSpan ⟨span, parent⟩ },
        onStart span op world)

/-- Gives the span of the operation up, if one was opened. -/
def closeSpan (onFinish : SpanRemark δ ε υ) : Handler δ ε υ :=
  fun op world =>
    match op.extensions.get? .openSpan with
    | none => (op, world)
    | some parked =>
      let op := { op with extensions := op.extensions.take .openSpan }
      let world := match op.bag.error? ArgName.error with
        | none => world
        | some message =>
          { world with spans := world.spans.record parked.span ArgName.error message }
      ({ op with context := op.context.withSpan parked.parent },
        onFinish parked.span op world)

end Tapline.Handler
