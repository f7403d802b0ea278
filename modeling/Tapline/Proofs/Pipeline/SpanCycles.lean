import Mathlib
import Tapline.Proofs.Pipeline.Tracing
/-!
# A tracing pair among other handlers

One handler of the chain before opens a span, one of the chain after gives it up, and the others may
change whatever they like but the spans. A hook may be run again and again: a cycle is one run of
the chain before and then one or more of the chain after. In every cycle the pair comes to two
changes at most, one where the span is opened and one where it is given up at the first chance; it
is idle in every other run. The span of the context is the same after each cycle as before.

## Main result

`tracing_pair_spares_all_but_span`.

## Proof strategy

`Surroundings.run` is a cycle with any three handlers in the places of the pair. With nothing parked
at the beginning, a cycle of the pair is such a run with `enter` and `leave`, which know the span
and its parent from the start, or with handlers that do nothing. Nothing is parked at its end, so
the next cycle begins the same way. That the rest of the operation comes out as it would without the
pair is an agreement of two runs, handler by handler.
-/

namespace Tapline

namespace Slots

variable {τ : Type u} {Carrier : τ → Type v}

theorem ext_get? {slots slots' : Slots Carrier} (same : ∀ tag, slots.get? tag = slots'.get? tag) :
    slots = slots' := by
  obtain ⟨get⟩ := slots
  obtain ⟨get'⟩ := slots'
  exact congrArg Slots.mk (funext same)

variable [DecidableEq τ] (slots : Slots Carrier) (tag : τ)

theorem take_put (value : Carrier tag) : (slots.put tag value).take tag = slots.take tag := by
  apply ext_get?
  intro other
  rw [get?_take, get?_take]
  split
  · rfl
  next differ => rw [get?_put, dif_neg differ]

theorem take_take : (slots.take tag).take tag = slots.take tag := by
  apply ext_get?
  intro other
  rw [get?_take, get?_take]
  split <;> rfl

end Slots

/-- Records the error of an operation, if there is one. -/
def SpanLog.noting (log : SpanLog) (span : SpanRef) : Option String → SpanLog
  | none => log
  | some message => log.record span ArgName.error message

/-- A call that a tracing pair makes on a span, with what it is shown. -/
inductive PairCall
  | started (span : SpanRef) (op : Operation) (log : SpanLog)
  | finished (span : SpanRef) (op : Operation) (log : SpanLog)

variable {δ ε υ : Type}

/-- A handler that leaves the spans of an operation and of its world alone. -/
structure Handler.SparesSpans (calls : υ → List PairCall) (handler : Handler δ ε υ) : Prop where
  operation : ∀ op world, (handler op world).1.spans = op.spans
  calls : ∀ op world, calls (handler op world).2.own = calls world.own
  log : ∀ op world, (handler op world).2.spans = world.spans

/-! ### All but the spans -/

/-- An operation without its spans. -/
def Operation.butSpans (op : Operation) : Operation :=
  { op with
    context := op.context.withSpan none
    extensions := op.extensions.take .openSpan }

/-- A world without its spans and without what a program keeps in it. -/
def World.butSpans (world : World δ ε υ) : World δ ε Unit :=
  { world with spans := .empty, own := () }

/-- Two handlers that leave the same but for the spans if that is what they find. -/
def Handler.AgreeButSpans (handler handler' : Handler δ ε υ) : Prop :=
  ∀ op op' world world', op.butSpans = op'.butSpans → world.butSpans = world'.butSpans →
    (handler op world).1.butSpans = (handler' op' world').1.butSpans ∧
      (handler op world).2.butSpans = (handler' op' world').2.butSpans

/-- A handler that does not look at the spans. -/
def Handler.Blind (handler : Handler δ ε υ) : Prop := handler.AgreeButSpans handler

/-! ### The pair and the others -/

/-- What a tracing pair is made from. -/
structure TracingPair (δ ε υ : Type) where
  name : Operation → String
  onStart : Handler.SpanRemark δ ε υ
  onFinish : Handler.SpanRemark δ ε υ

namespace TracingPair

variable (pair : TracingPair δ ε υ)

def opening : Handler δ ε υ := .openSpan pair.name pair.onStart

def closing : Handler δ ε υ := .closeSpan pair.onFinish

/-- Goes into a span that is opened, and keeps what it was opened under. -/
def enter (span : SpanRef) (parent : Option SpanRef) (log : SpanLog) : Handler δ ε υ :=
  fun op world =>
    ({ op with
        context := op.context.withSpan (some span)
        extensions := op.extensions.put .openSpan ⟨span, parent⟩ },
      pair.onStart span op { world with spans := log })

/-- Notes the error of the operation in a span and goes back to its parent. -/
def leave (span : SpanRef) (parent : Option SpanRef) : Handler δ ε υ :=
  fun op world =>
    let taken := { op with extensions := op.extensions.take .openSpan }
    ({ taken with context := op.context.withSpan parent },
      pair.onFinish span taken
        { world with spans := world.spans.noting span (op.bag.error? ArgName.error) })

/-- A pair whose remarks keep a call and forget no span; they may do anything else. -/
structure Remarks (calls : υ → List PairCall) : Prop where
  started : ∀ span op world, calls (pair.onStart span op world).own =
    calls world.own ++ [.started span op world.spans]
  finished : ∀ span op world, calls (pair.onFinish span op world).own =
    calls world.own ++ [.finished span op world.spans]
  longer : ∀ span op world,
    world.spans.spans.length ≤ (pair.onStart span op world).spans.spans.length

/-- A pair whose remarks leave the spans alone. -/
structure Quiet : Prop where
  started : ∀ span op world, (pair.onStart span op world).spans = world.spans
  finished : ∀ span op world, (pair.onFinish span op world).spans = world.spans

/-- A pair whose remarks change spans, or what the program keeps, and nothing else. -/
structure Modest : Prop where
  started : ∀ span op world, (pair.onStart span op world).butSpans = world.butSpans
  finished : ∀ span op world, (pair.onFinish span op world).butSpans = world.butSpans

end TracingPair

/-- The handlers around a tracing pair, by their places in the two chains. -/
structure Surroundings (δ ε υ : Type) where
  ahead : List (Handler δ ε υ)
  inside : List (Handler δ ε υ)
  within : List (Handler δ ε υ)
  behind : List (Handler δ ε υ)

/-- A run of the chain before, and one or more of the chain after, each with what is done first. -/
structure SpanCycle (δ ε υ : Type) where
  lead : Handler δ ε υ
  first : Handler δ ε υ
  more : List (Handler δ ε υ)

/-- A chain that is run once for each piece of work, after it. -/
def runAgain (chain works : List (Handler δ ε υ)) (op : Operation) (world : World δ ε υ) :
    Operation × World δ ε υ :=
  runHandlers (works.map fun work op world =>
    runChain chain (work op world).1 (work op world).2) op world

theorem runAgain_cons (chain : List (Handler δ ε υ)) (work : Handler δ ε υ)
    (rest : List (Handler δ ε υ)) (op : Operation) (world : World δ ε υ) :
    runAgain chain (work :: rest) op world =
      runAgain chain rest (runChain chain (work op world).1 (work op world).2).1
        (runChain chain (work op world).1 (work op world).2).2 := rfl

namespace Surroundings

variable (others : Surroundings δ ε υ)

def before (opening : Handler δ ε υ) : List (Handler δ ε υ) :=
  others.ahead ++ opening :: others.inside

def after (closing : Handler δ ε υ) : List (Handler δ ε υ) :=
  others.within ++ closing :: others.behind

/-- What the handler met that opens the span. -/
def met (op : Operation) (world : World δ ε υ) : Operation × World δ ε υ :=
  runHandlers others.ahead op.setRequestArgs world

/-- What the handler finds that gives up the span, in the first run of the chain after. -/
def due (opening : Handler δ ε υ) (cycle : SpanCycle δ ε υ) (op : Operation) (world : World δ ε υ) :
    Operation × World δ ε υ :=
  let ready := runChain (others.before opening) op world
  let worked := cycle.first ready.1 ready.2
  runHandlers others.within worked.1.setRequestArgs worked.2

/-- A cycle from the chain before on, with a handler in the place that opens the span, one in the
place that gives it up, and one in that place in further runs. -/
def run (opening closing again : Handler δ ε υ) (cycle : SpanCycle δ ε υ) (op : Operation)
    (world : World δ ε υ) : Operation × World δ ε υ :=
  let due := others.due opening cycle op world
  let closed := closing due.1 due.2
  let left := runHandlers others.behind closed.1 closed.2
  runAgain (others.after again) cycle.more left.1 left.2

structure SparesSpans (calls : υ → List PairCall) : Prop where
  ahead : ∀ handler ∈ others.ahead, handler.SparesSpans calls
  inside : ∀ handler ∈ others.inside, handler.SparesSpans calls
  within : ∀ handler ∈ others.within, handler.SparesSpans calls
  behind : ∀ handler ∈ others.behind, handler.SparesSpans calls

/-- Handlers none of which looks at the spans. -/
def Blind : Prop :=
  ∀ handler ∈ others.ahead ++ others.inside ++ others.within ++ others.behind, handler.Blind

end Surroundings

/-- A cycle in which the spans are left alone, but for a new context at its beginning. -/
structure SpanCycle.SparesSpans (calls : υ → List PairCall) (cycle : SpanCycle δ ε υ) : Prop where
  lead : ∀ op world,
    (cycle.lead op world).1.extensions.get? .openSpan = op.extensions.get? .openSpan
  first : cycle.first.SparesSpans calls
  more : ∀ work ∈ cycle.more, work.SparesSpans calls

/-- A cycle in which nothing that is done looks at the spans. -/
def SpanCycle.Blind (cycle : SpanCycle δ ε υ) : Prop :=
  ∀ work ∈ cycle.first :: cycle.more, work.Blind

namespace Hook

/-- Works on the operation of a hook. -/
def perform (hook : Hook δ ε υ) (work : Handler δ ε υ) (world : World δ ε υ) :
    Hook δ ε υ × World δ ε υ :=
  let (operation, world) := work hook.operation world
  ({ hook with operation }, world)

def cycle (hook : Hook δ ε υ) (world : World δ ε υ) (cycle : SpanCycle δ ε υ) :
    Hook δ ε υ × World δ ε υ :=
  let led := hook.perform cycle.lead world
  (cycle.first :: cycle.more).foldl (fun state work =>
    let worked := state.1.perform work state.2
    worked.1.runAfter worked.2) (led.1.runBefore led.2)

def cycles (hook : Hook δ ε υ) (world : World δ ε υ) (cycles : List (SpanCycle δ ε υ)) :
    Hook δ ε υ × World δ ε υ :=
  cycles.foldl (fun state cycle => state.1.cycle state.2 cycle) (hook, world)

end Hook

section Cycles

variable {calls : υ → List PairCall} {pair : TracingPair δ ε υ} {others : Surroundings δ ε υ}
  {cycle : SpanCycle δ ε υ}

/-! ### Handlers that leave the spans alone -/

namespace Handler.SparesSpans

theorem idle : (default : Handler δ ε υ).SparesSpans calls :=
  ⟨fun _ _ => rfl, fun _ _ => rfl, fun _ _ => rfl⟩

theorem comp {first later : Handler δ ε υ} (spares : first.SparesSpans calls)
    (spares' : later.SparesSpans calls) :
    Handler.SparesSpans calls fun op world => later (first op world).1 (first op world).2 where
  operation := fun op world => (spares'.operation _ _).trans (spares.operation op world)
  calls := fun op world => (spares'.calls _ _).trans (spares.calls op world)
  log := fun op world => (spares'.log _ _).trans (spares.log op world)

theorem runHandlers {handlers : List (Handler δ ε υ)}
    (spares : ∀ handler ∈ handlers, handler.SparesSpans calls) :
    Handler.SparesSpans calls (runHandlers handlers) := by
  induction handlers with
  | nil => exact idle
  | cons handler rest ih =>
    have later := ih fun other member => spares other (List.mem_cons_of_mem handler member)
    exact (spares handler List.mem_cons_self).comp later

/-- The arguments of the request are no matter of spans. -/
theorem runChain {chain : List (Handler δ ε υ)}
    (spares : ∀ handler ∈ chain, handler.SparesSpans calls) :
    Handler.SparesSpans calls (runChain chain) where
  operation := fun op world => (runHandlers spares).operation op.setRequestArgs world
  calls := fun op world => (runHandlers spares).calls op.setRequestArgs world
  log := fun op world => (runHandlers spares).log op.setRequestArgs world

theorem runAgain {chain works : List (Handler δ ε υ)}
    (spares : ∀ handler ∈ chain, handler.SparesSpans calls)
    (each : ∀ work ∈ works, work.SparesSpans calls) :
    Handler.SparesSpans calls (runAgain chain works) := by
  apply runHandlers
  intro handler member
  obtain ⟨work, inside, rfl⟩ := List.mem_map.mp member
  exact (each work inside).comp (runChain spares)

end Handler.SparesSpans

/-! ### The places of the pair -/

theorem runChain_before (opening : Handler δ ε υ) (op : Operation) (world : World δ ε υ) :
    runChain (others.before opening) op world =
      runHandlers others.inside (opening (others.met op world).1 (others.met op world).2).1
        (opening (others.met op world).1 (others.met op world).2).2 := by
  rw [Surroundings.before, runChain, runHandlers_append]
  rfl

theorem runChain_after (closing : Handler δ ε υ) (op : Operation) (world : World δ ε υ) :
    runChain (others.after closing) op world =
      let due := runHandlers others.within op.setRequestArgs world
      runHandlers others.behind (closing due.1 due.2).1 (closing due.1 due.2).2 := by
  rw [Surroundings.after, runChain, runHandlers_append]
  rfl

/-- A cycle by its runs of whole chains. -/
theorem run_eq (opening closing again : Handler δ ε υ) :
    others.run opening closing again cycle = fun op world =>
      let ready := runChain (others.before opening) op world
      let worked := cycle.first ready.1 ready.2
      let left := runChain (others.after closing) worked.1 worked.2
      runAgain (others.after again) cycle.more left.1 left.2 := by
  funext op world
  simp only [runChain_after]
  rfl

/-! ### Runs in which the pair is idle -/

namespace Surroundings.SparesSpans

variable (spares : others.SparesSpans calls)

include spares

theorem before {opening : Handler δ ε υ} (spared : opening.SparesSpans calls) :
    ∀ handler ∈ others.before opening, handler.SparesSpans calls := by
  simp only [Surroundings.before, List.forall_mem_append, List.forall_mem_cons]
  exact ⟨spares.ahead, spared, spares.inside⟩

theorem after {closing : Handler δ ε υ} (spared : closing.SparesSpans calls) :
    ∀ handler ∈ others.after closing, handler.SparesSpans calls := by
  simp only [Surroundings.after, List.forall_mem_append, List.forall_mem_cons]
  exact ⟨spares.within, spared, spares.behind⟩

/-- The whole cycle leaves the spans alone if the handlers in the places of the pair do. -/
theorem run {opening closing again : Handler δ ε υ} (opens : opening.SparesSpans calls)
    (closes : closing.SparesSpans calls) (idles : again.SparesSpans calls)
    (spared : cycle.SparesSpans calls) :
    Handler.SparesSpans calls (others.run opening closing again cycle) := by
  have front := Handler.SparesSpans.runChain (spares.before opens)
  have back := Handler.SparesSpans.runChain (spares.after closes)
  have rest := Handler.SparesSpans.runAgain (spares.after idles) spared.more
  rw [run_eq]
  exact ((front.comp spared.first).comp back).comp rest

/-- With nothing parked, the chain after does what it would without the pair. -/
theorem after_of_none {op : Operation} (world : World δ ε υ) (nothing : op.spans.2 = none) :
    runChain (others.after pair.closing) op world = runChain (others.after default) op world := by
  have within := (Handler.SparesSpans.runHandlers spares.within).operation op.setRequestArgs world
  have nothing' : (runHandlers others.within op.setRequestArgs world).1.spans.2 = none := by
    rw [within]
    exact nothing
  rw [runChain_after, runChain_after, TracingPair.closing]
  simp only [closeSpan_of_none pair.onFinish _ nothing']
  rfl

/-- So it does over and over, for nothing is parked afterwards either. -/
theorem runAgain_of_none {works : List (Handler δ ε υ)}
    (each : ∀ work ∈ works, work.SparesSpans calls) {op : Operation} (world : World δ ε υ)
    (nothing : op.spans.2 = none) :
    runAgain (others.after pair.closing) works op world =
      runAgain (others.after default) works op world := by
  induction works generalizing op world with
  | nil => rfl
  | cons work rest ih =>
    have worked := (each work List.mem_cons_self).operation op world
    have nothing' : (work op world).1.spans.2 = none := by rw [worked, nothing]
    have chain := Handler.SparesSpans.runChain (spares.after Handler.SparesSpans.idle)
    have left := chain.operation (work op world).1 (work op world).2
    rw [runAgain_cons, runAgain_cons, spares.after_of_none _ nothing']
    apply ih fun other member => each other (List.mem_cons_of_mem work member)
    rw [left, nothing']

/-- Without a name, the pair is idle in the whole cycle. -/
theorem run_of_unnamed (spared : cycle.SparesSpans calls) {op : Operation} {world : World δ ε υ}
    (nothing : op.spans.2 = none) (unnamed : pair.name (others.met op world).1 = "") :
    others.run pair.opening pair.closing pair.closing cycle op world =
      others.run default default default cycle op world := by
  have idle : pair.opening (others.met op world).1 (others.met op world).2 =
      others.met op world := by
    simp [TracingPair.opening, Handler.openSpan, unnamed]
  have before : runChain (others.before pair.opening) op world =
      runChain (others.before default) op world := by
    rw [runChain_before, runChain_before, idle]
    rfl
  have front := Handler.SparesSpans.runChain (spares.before Handler.SparesSpans.idle)
  have ready := (front.comp spared.first).operation op world
  have back := Handler.SparesSpans.runChain (spares.after Handler.SparesSpans.idle)
  have left := ((front.comp spared.first).comp back).operation op world
  rw [run_eq, run_eq]
  simp only [before]
  rw [spares.after_of_none, spares.runAgain_of_none spared.more]
  · rw [left, nothing]
  · rw [ready, nothing]

/-! ### Runs in which a span is opened -/

/-- Between the places of the pair nothing happens to the spans. -/
theorem due_alike (opening : Handler δ ε υ) (spared : cycle.SparesSpans calls) (op : Operation)
    (world : World δ ε υ) :
    let entered := opening (others.met op world).1 (others.met op world).2
    let due := others.due opening cycle op world
    due.1.spans = entered.1.spans ∧ calls due.2.own = calls entered.2.own ∧
      due.2.spans = entered.2.spans := by
  intro entered due
  have inside := Handler.SparesSpans.runHandlers spares.inside
  have within := Handler.SparesSpans.runChain spares.within
  have between := (inside.comp spared.first).comp within
  have reached : due = runChain others.within
      (cycle.first (runHandlers others.inside entered.1 entered.2).1
        (runHandlers others.inside entered.1 entered.2).2).1
      (cycle.first (runHandlers others.inside entered.1 entered.2).1
        (runHandlers others.inside entered.1 entered.2).2).2 := by
    simp only [due, Surroundings.due, runChain_before]
    rfl
  rw [reached]
  exact ⟨between.operation _ _, between.calls _ _, between.log _ _⟩

/-- Nor does anything happen to them after the place of the second one. -/
theorem run_alike (opening closing : Handler δ ε υ) (spared : cycle.SparesSpans calls)
    (op : Operation) (world : World δ ε υ) :
    let due := others.due opening cycle op world
    let closed := closing due.1 due.2
    let ran := others.run opening closing default cycle op world
    ran.1.spans = closed.1.spans ∧ calls ran.2.own = calls closed.2.own ∧
      ran.2.spans = closed.2.spans := by
  intro due closed ran
  have behind := Handler.SparesSpans.runHandlers spares.behind
  have chain := spares.after Handler.SparesSpans.idle
  have rest := behind.comp (Handler.SparesSpans.runAgain chain spared.more)
  exact ⟨rest.operation closed.1 closed.2, rest.calls closed.1 closed.2, rest.log closed.1 closed.2⟩

end Surroundings.SparesSpans

namespace TracingPair

theorem opening_of_named {op : Operation} (world : World δ ε υ) (named : pair.name op ≠ "") :
    pair.opening op world =
      let opened := world.spans.start
        ⟨"hook", op.context.span, .ofList [("otel.name", pair.name op)]⟩
      pair.enter opened.1 op.context.span opened.2 op world := by
  have named : (pair.name op).isEmpty = false := by simpa using named
  simp [opening, Handler.openSpan, named, enter, World.startSpan]

theorem closing_of_some {op : Operation} (world : World δ ε υ) {span : SpanRef}
    {parent : Option SpanRef} (parked : op.spans.2 = some ⟨span, parent⟩) :
    pair.closing op world = pair.leave span parent op world := by
  have parked : op.extensions.get? .openSpan = some ⟨span, parent⟩ := parked
  simp only [closing, Handler.closeSpan, parked, leave]
  cases op.bag.error? ArgName.error <;> rfl

variable (pair) (span : SpanRef) (parent : Option SpanRef) (op : Operation) (world : World δ ε υ)

theorem spans_enter (log : SpanLog) :
    (pair.enter span parent log op world).1.spans = (some span, some ⟨span, parent⟩) := by
  simp [enter, Operation.spans, Context.withSpan]

theorem spans_leave : (pair.leave span parent op world).1.spans = (parent, none) := by
  simp [leave, Operation.spans, Context.withSpan, Slots.get?_take]

end TracingPair

namespace Surroundings.SparesSpans

variable (spares : others.SparesSpans calls) (spared : cycle.SparesSpans calls)
  {op : Operation} {world : World δ ε υ}

include spares spared

/-- With a name, the pair goes into a span and leaves it at the first chance. -/
theorem run_of_named (named : pair.name (others.met op world).1 ≠ "") :
    let opened := world.spans.start
      ⟨"hook", op.context.span, .ofList [("otel.name", pair.name (others.met op world).1)]⟩
    others.run pair.opening pair.closing pair.closing cycle op world =
      others.run (pair.enter opened.1 op.context.span opened.2)
        (pair.leave opened.1 op.context.span) default cycle op world := by
  intro opened
  have ahead := Handler.SparesSpans.runHandlers spares.ahead
  have span : (others.met op world).1.context.span = op.context.span :=
    congrArg Prod.fst (ahead.operation op.setRequestArgs world)
  have log : (others.met op world).2.spans = world.spans := ahead.log op.setRequestArgs world
  have enters : pair.opening (others.met op world).1 (others.met op world).2 =
      pair.enter opened.1 op.context.span opened.2 (others.met op world).1
        (others.met op world).2 := by
    rw [TracingPair.opening_of_named _ named, span, log]
  have due : others.due pair.opening cycle op world =
      others.due (pair.enter opened.1 op.context.span opened.2) cycle op world := by
    simp only [Surroundings.due, runChain_before, enters]
  have parked := (spares.due_alike (pair.enter opened.1 op.context.span opened.2) spared op world).1
  rw [TracingPair.spans_enter] at parked
  have leaves := pair.closing_of_some
    (others.due (pair.enter opened.1 op.context.span opened.2) cycle op world).2
    (congrArg Prod.snd parked)
  -- Nothing is parked any more, so the pair is idle in the runs that follow.
  have behind := Handler.SparesSpans.runHandlers spares.behind
  simp only [Surroundings.run, due, leaves]
  rw [spares.runAgain_of_none spared.more]
  rw [behind.operation, TracingPair.spans_leave]

variable (op world) in
/-- The remarks are called once each, with what was shown at the places of the pair. -/
theorem calls_of_enter (remarks : pair.Remarks calls) (span : SpanRef) (parent : Option SpanRef)
    (log : SpanLog) :
    let due := others.due (pair.enter span parent log) cycle op world
    calls (others.run (pair.enter span parent log) (pair.leave span parent) default cycle op
        world).2.own =
      calls world.own ++ [.started span (others.met op world).1 log,
        .finished span { due.1 with extensions := due.1.extensions.take .openSpan }
          (due.2.spans.noting span (due.1.bag.error? ArgName.error))] := by
  intro due
  have ahead := (Handler.SparesSpans.runHandlers spares.ahead).calls op.setRequestArgs world
  have between := (spares.due_alike (pair.enter span parent log) spared op world).2.1
  have ended := (spares.run_alike (pair.enter span parent log) (pair.leave span parent) spared op
    world).2.1
  have met : calls (others.met op world).2.own = calls world.own := ahead
  have entered : calls (pair.enter span parent log (others.met op world).1
      (others.met op world).2).2.own =
      calls world.own ++ [.started span (others.met op world).1 log] := by
    rw [← met]
    exact remarks.started span _ _
  have left : calls (pair.leave span parent due.1 due.2).2.own = calls due.2.own ++
      [.finished span { due.1 with extensions := due.1.extensions.take .openSpan }
        (due.2.spans.noting span (due.1.bag.error? ArgName.error))] :=
    remarks.finished span _ _
  rw [ended, left, between, entered, List.append_assoc]
  rfl

/-- After a cycle the context is in the span where it was, and nothing is parked. -/
theorem spans_of_run (nothing : op.spans.2 = none) :
    (others.run pair.opening pair.closing pair.closing cycle op world).1.spans =
      (op.context.span, none) := by
  by_cases named : pair.name (others.met op world).1 = ""
  · rw [spares.run_of_unnamed spared nothing named]
    have idle := spares.run Handler.SparesSpans.idle Handler.SparesSpans.idle
      Handler.SparesSpans.idle spared
    exact (idle.operation op world).trans (Prod.ext rfl nothing)
  · rw [spares.run_of_named spared named]
    rw [(spares.run_alike _ _ spared op world).1, TracingPair.spans_leave]

end Surroundings.SparesSpans

/-! ### Agreement but for the spans -/

theorem Operation.ext_spans {op op' : Operation} (rest : op.butSpans = op'.butSpans)
    (spans : op.spans = op'.spans) : op = op' := by
  obtain ⟨bag, ⟨request, span, trail, deadline, values⟩, logger, extensions⟩ := op
  obtain ⟨bag', ⟨request', span', trail', deadline', values'⟩, logger', extensions'⟩ := op'
  simp only [Operation.butSpans, Context.withSpan, Operation.mk.injEq, Context.mk.injEq] at rest
  obtain ⟨rfl, ⟨rfl, -, rfl, rfl, rfl⟩, rfl, taken⟩ := rest
  obtain ⟨rfl, parked⟩ : span = span' ∧
      extensions.get? .openSpan = extensions'.get? .openSpan := Prod.ext_iff.mp spans
  -- The slot of the open span is compared by itself, any other one with the rest.
  obtain rfl : extensions = extensions' := by
    apply Slots.ext_get?
    intro tag
    by_cases slot : ExtensionType.openSpan = tag
    · rw [← slot, parked]
    · have same := congrArg (fun slots => slots.get? tag) taken
      simpa only [Slots.get?_take, if_neg slot] using same
  rfl

namespace Handler.AgreeButSpans

variable {first first' later later' : Handler δ ε υ}

theorem idle : (default : Handler δ ε υ).Blind := fun _ _ _ _ shown worlds => ⟨shown, worlds⟩

theorem comp (agree : first.AgreeButSpans first') (agree' : later.AgreeButSpans later') :
    Handler.AgreeButSpans (fun op world => later (first op world).1 (first op world).2)
      (fun op world => later' (first' op world).1 (first' op world).2) := by
  intro op op' world world' shown worlds
  obtain ⟨shown, worlds⟩ := agree op op' world world' shown worlds
  exact agree' _ _ _ _ shown worlds

theorem runHandlers {handlers : List (Handler δ ε υ)}
    (blind : ∀ handler ∈ handlers, handler.Blind) : Handler.Blind (runHandlers handlers) := by
  induction handlers with
  | nil => exact idle
  | cons handler rest ih =>
    have later := ih fun other member => blind other (List.mem_cons_of_mem handler member)
    exact comp (blind handler List.mem_cons_self) later

/-- The arguments of the request do not come from the spans. -/
theorem setRequestArgs :
    Handler.Blind fun op (world : World δ ε υ) => (op.setRequestArgs, world) := by
  intro op op' world world' shown worlds
  have same : op.setRequestArgs.butSpans = op'.setRequestArgs.butSpans :=
    congrArg Operation.setRequestArgs shown
  exact ⟨same, worlds⟩

theorem runChain {chain : List (Handler δ ε υ)} (blind : ∀ handler ∈ chain, handler.Blind) :
    Handler.Blind (runChain chain) :=
  comp setRequestArgs (runHandlers blind)

theorem runAgain {chain works : List (Handler δ ε υ)} (blind : ∀ handler ∈ chain, handler.Blind)
    (each : ∀ work ∈ works, work.Blind) : Handler.Blind (runAgain chain works) := by
  apply runHandlers
  intro handler member
  obtain ⟨work, inside, rfl⟩ := List.mem_map.mp member
  exact comp (each work inside) (runChain blind)

/-- Two cycles agree if the handlers in the places of the pair do. -/
theorem run {opening opening' closing closing' : Handler δ ε υ} (blind : others.Blind)
    (blind' : cycle.Blind) (opens : opening.AgreeButSpans opening')
    (closes : closing.AgreeButSpans closing') :
    Handler.AgreeButSpans (others.run opening closing default cycle)
      (others.run opening' closing' default cycle) := by
  simp only [Surroundings.Blind, List.forall_mem_append] at blind
  obtain ⟨⟨⟨ahead, inside⟩, within⟩, behind⟩ := blind
  obtain ⟨first, more⟩ := List.forall_mem_cons.mp blind'
  have chain : ∀ handler ∈ others.after default, handler.Blind := by
    simp only [Surroundings.after, List.forall_mem_append, List.forall_mem_cons]
    exact ⟨within, idle, behind⟩
  have before := ((runChain ahead).comp opens).comp (runHandlers inside)
  have after := ((runChain within).comp closes).comp (runHandlers behind)
  have cycles := ((before.comp first).comp after).comp (runAgain chain more)
  intro op op' world world' shown worlds
  simp only [run_eq, runChain_before, runChain_after]
  exact cycles op op' world world' shown worlds

end Handler.AgreeButSpans

namespace TracingPair.Modest

variable (modest : pair.Modest) (span : SpanRef) (parent : Option SpanRef)

include modest

theorem enter (log : SpanLog) : (pair.enter span parent log).AgreeButSpans default := by
  intro op op' world world' shown worlds
  have same : (pair.enter span parent log op world).1.butSpans = op.butSpans := by
    simp [TracingPair.enter, Operation.butSpans, Context.withSpan, Slots.take_put]
  exact ⟨same.trans shown, (modest.started span op _).trans worlds⟩

theorem leave : (pair.leave span parent).AgreeButSpans default := by
  intro op op' world world' shown worlds
  have same : (pair.leave span parent op world).1.butSpans = op.butSpans := by
    simp [TracingPair.leave, Operation.butSpans, Context.withSpan, Slots.take_take]
  exact ⟨same.trans shown, (modest.finished span _ _).trans worlds⟩

theorem run_alike (blind : others.Blind) (blind' : cycle.Blind) (log : SpanLog) (op : Operation)
    (world : World δ ε υ) :
    (others.run (pair.enter span parent log) (pair.leave span parent) default cycle op
        world).1.butSpans =
      (others.run default default default cycle op world).1.butSpans := by
  have agree := Handler.AgreeButSpans.run blind blind' (modest.enter span parent log)
    (modest.leave span parent)
  exact (agree op op world world rfl rfl).1

end TracingPair.Modest

/-! ### Hooks -/

namespace Hook

variable {hook : Hook δ ε υ}

variable (hook) in
theorem foldl_runAfter (works : List (Handler δ ε υ)) (op : Operation) (world : World δ ε υ) :
    works.foldl (fun state work =>
        let worked := state.1.perform work state.2
        worked.1.runAfter worked.2) ({ hook with operation := op }, world) =
      ({ hook with operation := (runAgain hook.after works op world).1 },
        (runAgain hook.after works op world).2) := by
  induction works generalizing op world with
  | nil => rfl
  | cons work rest ih => exact ih _ _

variable (cycle) in
theorem cycle_eq {opening closing : Handler δ ε υ} (before : hook.before = others.before opening)
    (after : hook.after = others.after closing) (world : World δ ε υ) :
    let led := cycle.lead hook.operation world
    let ran := others.run opening closing closing cycle led.1 led.2
    hook.cycle world cycle = ({ hook with operation := ran.1 }, ran.2) := by
  intro led ran
  have runs := hook.foldl_runAfter (cycle.first :: cycle.more)
    (runChain hook.before led.1 led.2).1 (runChain hook.before led.1 led.2).2
  have same : runAgain hook.after (cycle.first :: cycle.more) (runChain hook.before led.1 led.2).1
      (runChain hook.before led.1 led.2).2 = ran := by
    simp only [ran, run_eq, runAgain_cons, before, after]
  rw [same] at runs
  exact runs

/-- Nothing is parked between cycles. -/
theorem settled_of_cycles (spares : others.SparesSpans calls)
    (before : hook.before = others.before pair.opening)
    (after : hook.after = others.after pair.closing) (nothing : hook.operation.spans.2 = none)
    (world : World δ ε υ) {cycles : List (SpanCycle δ ε υ)}
    (each : ∀ cycle ∈ cycles, cycle.SparesSpans calls) :
    let reached := hook.cycles world cycles
    reached.1.before = others.before pair.opening ∧ reached.1.after = others.after pair.closing ∧
      reached.1.operation.spans.2 = none := by
  induction cycles generalizing hook world with
  | nil => exact ⟨before, after, nothing⟩
  | cons cycle rest ih =>
    have spared := each cycle List.mem_cons_self
    have led := (spared.lead hook.operation world).trans nothing
    have chains := cycle_eq cycle before after world
    have before' : (hook.cycle world cycle).1.before = others.before pair.opening := by
      rw [chains]
      exact before
    have after' : (hook.cycle world cycle).1.after = others.after pair.closing := by
      rw [chains]
      exact after
    have nothing' : (hook.cycle world cycle).1.operation.spans.2 = none := by
      rw [chains]
      exact congrArg Prod.snd (spares.spans_of_run spared led)
    exact ih before' after' nothing' _
      fun other member => each other (List.mem_cons_of_mem cycle member)

end Hook

end Cycles

/-- **A tracing pair touches the spans and nothing else.** The chains of a hook hold one tracing
pair among handlers that leave the spans alone, and no span is parked. After any cycles, the next
one leaves the context in the span where it was when the chain before began, and nothing parked.
Without a name it is the cycle of the other handlers. With a name, one span is opened under that of
the context and left again at the first run of the chain after: the cycle is that of the other
handlers but for these two changes. Each remark is called once with the span, and the one on giving
it up sees the error of the operation in the log if and only if there is one. If no other handler
looks at the spans, and the remarks do nothing else, the operation comes out as it would without the
pair. -/
theorem tracing_pair_spares_all_but_span {calls : υ → List PairCall} {pair : TracingPair δ ε υ}
    {others : Surroundings δ ε υ} (spares : others.SparesSpans calls) (remarks : pair.Remarks calls)
    {hook : Hook δ ε υ} (before : hook.before = others.before pair.opening)
    (after : hook.after = others.after pair.closing)
    (nothing : hook.operation.extensions.get? .openSpan = none) (world : World δ ε υ)
    (earlier : List (SpanCycle δ ε υ)) (cycle : SpanCycle δ ε υ)
    (each : ∀ other ∈ earlier ++ [cycle], other.SparesSpans calls) :
    let reached := hook.cycles world earlier
    let begun := cycle.lead reached.1.operation reached.2
    let parent := begun.1.context.span
    let met := others.met begun.1 begun.2
    let final := reached.1.cycle reached.2 cycle
    let bare := others.run default default default cycle begun.1 begun.2
    final.1.operation.context.span = parent ∧
    final.1.operation.extensions.get? .openSpan = none ∧
    (pair.name met.1 = "" → (final.1.operation, final.2) = bare ∧
      calls final.2.own = calls begun.2.own ∧ final.2.spans = begun.2.spans) ∧
    (pair.name met.1 ≠ "" →
      let child : Span := ⟨"hook", parent, .ofList [("otel.name", pair.name met.1)]⟩
      let opened := begun.2.spans.start child
      let enter := pair.enter opened.1 parent opened.2
      let leave := pair.leave opened.1 parent
      let due := others.due enter cycle begun.1 begun.2
      let error := due.1.bag.error? ArgName.error
      let noted := due.2.spans.noting opened.1 error
      (final.1.operation, final.2) = others.run enter leave default cycle begun.1 begun.2 ∧
      calls final.2.own = calls begun.2.own ++ [.started opened.1 met.1 opened.2,
        .finished opened.1 { due.1 with extensions := due.1.extensions.take .openSpan } noted] ∧
      (∀ message, error = some message →
        (noted.get? opened.1).bind (·.fields.get? ArgName.error) = some message) ∧
      (pair.Quiet → final.2.spans = opened.2.noting opened.1 error)) ∧
    (others.Blind → cycle.Blind → pair.Modest → final.1.operation = bare.1) := by
  intro reached begun parent met final bare
  have spared := each cycle (List.mem_append_right _ List.mem_cons_self)
  obtain ⟨before', after', settled⟩ := hook.settled_of_cycles spares before after nothing world
    fun other member => each other (List.mem_append_left _ member)
  have parked : begun.1.spans.2 = none := (spared.lead _ _).trans settled
  have ran : (final.1.operation, final.2) =
      others.run pair.opening pair.closing pair.closing cycle begun.1 begun.2 := by
    simp only [final]
    rw [Hook.cycle_eq cycle before' after']
  have spans : final.1.operation.spans = (parent, none) := by
    rw [← spares.spans_of_run spared parked, ← ran]
  have idle := spares.run Handler.SparesSpans.idle Handler.SparesSpans.idle
    Handler.SparesSpans.idle spared
  refine ⟨congrArg Prod.fst spans, congrArg Prod.snd spans, fun unnamed => ?_, fun named => ?_,
    fun blind blind' modest => ?_⟩
  · rw [spares.run_of_unnamed spared parked unnamed] at ran
    have own := idle.calls begun.1 begun.2
    have log := idle.log begun.1 begun.2
    rw [← ran] at own log
    exact ⟨ran, own, log⟩
  · intro child opened enter leave due error noted
    rw [spares.run_of_named spared named] at ran
    have called := spares.calls_of_enter spared begun.1 begun.2 remarks opened.1 parent opened.2
    have between := (spares.due_alike enter spared begun.1 begun.2).2.2
    refine ⟨ran, ?_, fun message told => ?_, fun quiet => ?_⟩
    · rw [← called, ← ran]
    · -- The span is in the log from its opening on.
      have longer := remarks.longer opened.1 met.1 { met.2 with spans := opened.2 }
      have known : due.2.spans.Knows opened.1 := by
        rw [show due.2.spans = _ from between]
        exact (SpanLog.knows_start begun.2.spans child).mono longer
      simp only [noted, told, SpanLog.noting]
      exact SpanLog.get?_record known ArgName.error message
    · have ended := (spares.run_alike enter leave spared begun.1 begun.2).2.2
      have log := congrArg (fun state => state.2.spans) ran
      have entered : due.2.spans = opened.2 := between.trans (quiet.started opened.1 met.1 _)
      rw [← entered]
      exact log.trans (ended.trans (quiet.finished opened.1 _ _))
  · apply Operation.ext_spans
    · by_cases named : pair.name met.1 = ""
      · rw [spares.run_of_unnamed spared parked named] at ran
        exact congrArg (fun state => state.1.butSpans) ran
      · rw [spares.run_of_named spared named] at ran
        have same := congrArg (fun state => state.1.butSpans) ran
        exact same.trans (modest.run_alike _ _ blind blind' _ _ _)
    · have bare_spans : bare.1.spans = begun.1.spans := idle.operation begun.1 begun.2
      rw [spans, bare_spans]
      exact Prod.ext rfl parked.symm

/-- A pair that keeps its calls. It has no name for an operation with a certain argument. -/
def TracingPair.keepingCalls : TracingPair δ ε (List PairCall) where
  name op := if (op.bag.get? "untraced").isSome then "" else "work"
  onStart span op world := { world with own := world.own ++ [.started span op world.spans] }
  onFinish span op world := { world with own := world.own ++ [.finished span op world.spans] }

/-- A cycle without a name, and then one whose operation fails and whose chain after is run twice.
The request is set inside of the span. -/
theorem failure_in_second_cycle :
    let pair : TracingPair HostStream Host (List PairCall) := .keepingCalls
    let others : Surroundings HostStream Host (List PairCall) :=
      ⟨[.set "kind" (.text "read")], [.withRequest ⟨"r-1", "/", "GET"⟩], [],
        [.set "seen" (.bool true)]⟩
    let hook : Hook HostStream Host (List PairCall) :=
      ⟨.inContext (Context.background.withSpan (some ⟨1⟩)), others.before pair.opening,
        others.after pair.closing⟩
    let root : Span := ⟨"request", none, .empty⟩
    let world : World HostStream Host (List PairCall) :=
      { World.fresh default (.counting ⟨0, 0⟩) [] with spans := ⟨[root]⟩ }
    let untraced : SpanCycle HostStream Host (List PairCall) :=
      ⟨.set "untraced" .null, default, []⟩
    let traced : SpanCycle HostStream Host (List PairCall) :=
      ⟨.remove "untraced", .set ArgName.error (.text "failed"), [default]⟩
    let reached := hook.cycles world [untraced]
    let final := reached.1.cycle reached.2 traced
    others.SparesSpans id ∧ pair.Remarks id ∧
      (∀ other ∈ [untraced] ++ [traced], other.SparesSpans id) ∧ reached.2.own = [] ∧
      final.1.operation.context.span = some ⟨1⟩ ∧
      final.1.operation.context.request = some ⟨"r-1", "/", "GET"⟩ ∧ final.2.own.length = 2 ∧
      final.2.spans = ⟨[root, ⟨"hook", some ⟨1⟩,
        .ofList [("otel.name", "work"), ("error", "failed")]⟩]⟩ := by
  intro pair others hook root world untraced traced
  have spares : others.SparesSpans id := by
    constructor <;> simp only [others, List.forall_mem_singleton, List.not_mem_nil, false_imp_iff,
      implies_true]
    all_goals exact ⟨fun _ _ => rfl, fun _ _ => rfl, fun _ _ => rfl⟩
  have remarks : pair.Remarks id :=
    ⟨fun _ _ _ => rfl, fun _ _ _ => rfl, fun _ _ _ => Nat.le_refl _⟩
  have each : ∀ other ∈ [untraced] ++ [traced], other.SparesSpans id := by
    simp only [List.singleton_append, List.forall_mem_cons, List.not_mem_nil, false_imp_iff,
      implies_true, and_true]
    refine ⟨⟨fun _ _ => rfl, .idle, nofun⟩, ⟨fun _ _ => rfl, ?_, ?_⟩⟩
    · exact ⟨fun _ _ => rfl, fun _ _ => rfl, fun _ _ => rfl⟩
    · simpa only [traced, List.forall_mem_singleton] using .idle
  have before : hook.before = others.before pair.opening := rfl
  have after : hook.after = others.after pair.closing := rfl
  have nothing : hook.operation.extensions.get? .openSpan = none := rfl
  obtain ⟨span, -, -, spanned, -⟩ := tracing_pair_spares_all_but_span spares remarks before after
    nothing world [untraced] traced each
  let reached := hook.cycles world [untraced]
  let begun := traced.lead reached.1.operation reached.2
  have parent : begun.1.context.span = some ⟨1⟩ := by cbv
  have named : pair.name (others.met begun.1 begun.2).1 ≠ "" := by
    rw [show pair.name (others.met begun.1 begun.2).1 = "work" by cbv]
    decide
  obtain ⟨-, called, -, log⟩ := spanned named
  have log := log ⟨fun _ _ _ => rfl, fun _ _ _ => rfl⟩
  have unmarked : begun.2.own = [] := by cbv
  have kept := congrArg List.length called
  refine ⟨spares, remarks, each, by cbv, span.trans parent, by cbv, ?_, ?_⟩
  · rw [List.length_append, unmarked] at kept
    exact kept
  · apply log.trans
    cbv

end Tapline
