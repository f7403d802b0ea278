import Tapline.World
/-!
# Operations and handlers

An operation is what handlers look at and change: a bag of arguments, a context, perhaps a logger,
and what handlers keep with the operation, by type. A handler takes the operation and the world
and leaves both behind; it has no answer, so nothing it meets can stop those after it.

Before the handlers of a chain run, the arguments that describe the request are set anew from the
context.

## Main statements

- `runChain_append`: a chain runs its parts one after the other.
-/

namespace Tapline

/-- The span that a handler has opened for an operation. -/
structure OpenSpan where
  span : SpanRef
  /-- The span that the operation was in before. -/
  parent : Option SpanRef
deriving DecidableEq, Repr

/-- The types of what handlers keep with an operation. -/
inductive ExtensionType where
  | openSpan
  | startInstant
  | plain (type : PlainType)
deriving DecidableEq, Repr

namespace ExtensionType

abbrev Carrier : ExtensionType → Type
  | openSpan => OpenSpan
  | startInstant => Instant
  | plain type => type.Carrier

def all : List ExtensionType := [openSpan, startInstant] ++ PlainType.all.map plain

end ExtensionType

/-- What handlers look at and change. -/
structure Operation where
  bag : Bag
  context : Context
  logger : Option LoggerRef
  extensions : Slots ExtensionType.Carrier

namespace Operation

/-- An operation without arguments, in a context. -/
def inContext (context : Context) : Operation := ⟨.empty, context, none, .empty⟩

def set (op : Operation) (name : String) (value : Value) : Operation :=
  { op with bag := op.bag.insert name value }

/-- The identifier of an operation whose request has none. -/
def unknownUuid : String := "unknown"

/-- Sets the arguments that describe the request. -/
def setRequestArgs (op : Operation) : Operation :=
  let request := op.context.request.getD .blank
  let uuid := if request.uuid.isEmpty then unknownUuid else request.uuid
  ((op.set ArgName.uuid (.text uuid)).set ArgName.webUrl (.text request.url)).set
    ArgName.webMethod (.text request.method)

/-- The spans that an operation refers to. -/
def heldSpans (op : Operation) : List SpanRef :=
  op.context.span.toList ++
    match op.extensions.get? .openSpan with
    | none => []
    | some parked => parked.span :: parked.parent.toList

end Operation

/-- What runs before or after an operation. -/
abbrev Handler (δ ε υ : Type) := Operation → World δ ε υ → Operation × World δ ε υ

variable {δ ε υ : Type}

/-- The handler that does nothing. -/
instance : Inhabited (Handler δ ε υ) := ⟨fun op world => (op, world)⟩

/-- Runs handlers in their order, each on what the one before it left. -/
def runHandlers (handlers : List (Handler δ ε υ)) (op : Operation) (world : World δ ε υ) :
    Operation × World δ ε υ :=
  handlers.foldl (fun state handler => handler state.1 state.2) (op, world)

/-- Describes the request anew, then runs handlers. -/
def runChain (handlers : List (Handler δ ε υ)) (op : Operation) (world : World δ ε υ) :
    Operation × World δ ε υ :=
  runHandlers handlers op.setRequestArgs world

theorem runHandlers_append (first second : List (Handler δ ε υ)) (op : Operation)
    (world : World δ ε υ) :
    runHandlers (first ++ second) op world =
      let state := runHandlers first op world
      runHandlers second state.1 state.2 := by
  simp [runHandlers]

theorem runChain_append (first second : List (Handler δ ε υ)) (op : Operation)
    (world : World δ ε υ) :
    runChain (first ++ second) op world =
      let state := runChain first op world
      runHandlers second state.1 state.2 :=
  runHandlers_append first second op.setRequestArgs world

end Tapline
