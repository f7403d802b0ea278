import Mathlib
import Tapline.Handler.Argument
import Tapline.Proofs.Pipeline.Program
/-!
# Several tracing registrations

An operation keeps one span at most for the handlers that finish spans. With one tracing
registration that is enough: the span that was opened is finished, and the context is put back in
the span where it was. With several, each span takes the place of the one before it, so the
registration that comes first finishes the last span, nobody finishes the others, and the context
is left in the span before the last one.

## Main result

`last_span_finished`, for programs with any number of tracing registrations.

## Proof strategy

The chain before is followed by induction on the program. What it leaves parked is a fold over the
spans it opens, since each opening looks at the span of the context only. In the chain after, the
first handler that finds a span parked leaves none for the others.
-/

namespace Tapline

/-- What a tracing registration, known by its place among them, does with a span. -/
inductive SpanCall where
  | started (place : Nat) (span : SpanRef)
  /-- With the error of the operation, and with the one that the span tells of. -/
  | finished (place : Nat) (span : SpanRef) (due recorded : Option String)

namespace SpanLog

/-- Whether a span was opened. -/
def Knows (log : SpanLog) (span : SpanRef) : Prop :=
  0 < span.number ∧ span.number ≤ log.spans.length

theorem knows_start (log : SpanLog) (span : Span) : (log.start span).2.Knows (log.start span).1 := by
  simp [Knows, start]

theorem Knows.mono {log later : SpanLog} {span : SpanRef} (known : log.Knows span)
    (longer : log.spans.length ≤ later.spans.length) : later.Knows span :=
  ⟨known.1, known.2.trans longer⟩

/-- What is recorded of a span can be read from it. -/
theorem get?_record {log : SpanLog} {span : SpanRef} (known : log.Knows span)
    (name value : String) :
    ((log.record span name value).get? span).bind (·.fields.get? name) = some value := by
  obtain ⟨n⟩ := span
  obtain ⟨positive, most⟩ := known
  cases n with
  | zero => exact absurd positive (Nat.lt_irrefl 0)
  | succ n =>
    have inside : n < log.spans.length := most
    simp [get?, record, inside]

end SpanLog

variable {δ ε υ : Type}

/-- A handler that leaves the spans of an operation alone, and is no tracing handler. -/
structure Handler.Aloof (calls : υ → List SpanCall) (handler : Handler δ ε υ) : Prop where
  span : ∀ op world, (handler op world).1.context.span = op.context.span
  parked : ∀ op world,
    (handler op world).1.extensions.get? .openSpan = op.extensions.get? .openSpan
  calls : ∀ op world, calls (handler op world).2.own = calls world.own
  spans : ∀ op world, world.spans.spans.length ≤ (handler op world).2.spans.spans.length

/-- A program's own remark on a span, which keeps a call. -/
structure Handler.Remarks (calls : υ → List SpanCall)
    (remark : Handler.SpanRemark δ ε υ) (call : SpanRef → Operation → SpanLog → SpanCall) :
    Prop where
  calls : ∀ span op world,
    calls (remark span op world).own = calls world.own ++ [call span op world.spans]
  spans : ∀ span op world, world.spans.spans.length ≤ (remark span op world).spans.spans.length

namespace Registration

def isTracing : Registration δ ε υ → Bool
  | tracing .. => true
  | _ => false

/-- The call that a registration makes when it finishes a span. -/
def finishCall (place : Nat) (span : SpanRef) (op : Operation) (log : SpanLog) : SpanCall :=
  .finished place span (op.bag.error? ArgName.error)
    ((log.get? span).bind (·.fields.get? ArgName.error))

/-- A registration whose calls are kept if it is a tracing one, and that has nothing to do with
spans otherwise. -/
def Traced (calls : υ → List SpanCall) (place : Nat) : Registration δ ε υ → Prop
  | before handler | after handler => handler.Aloof calls
  | tracing _ onStart onFinish =>
    Handler.Remarks calls onStart (fun span _ _ => .started place span) ∧
      Handler.Remarks calls onFinish (finishCall place)
  | _ => True

/-- A program of such registrations, whose tracing ones are counted from a place on. -/
def AllTraced (calls : υ → List SpanCall) : Nat → List (Registration δ ε υ) → Prop
  | _, [] => True
  | place, registration :: rest =>
    registration.Traced calls place ∧
      AllTraced calls (place + if registration.isTracing then 1 else 0) rest

end Registration

open Registration

variable {calls : υ → List SpanCall}

/-! ### The chain before -/

/-- The span of a context, and what is parked, once a span is opened. -/
def park (state : Option SpanRef × Option OpenSpan) (span : SpanRef) :
    Option SpanRef × Option OpenSpan :=
  (some span, some ⟨span, state.1⟩)

/-- What an operation shows of its spans. -/
def Operation.spans (op : Operation) : Option SpanRef × Option OpenSpan :=
  (op.context.span, op.extensions.get? .openSpan)

theorem Handler.Aloof.spans_eq {handler : Handler δ ε υ} (aloof : handler.Aloof calls)
    (op : Operation) (world : World δ ε υ) : (handler op world).1.spans = op.spans :=
  Prod.ext (aloof.span op world) (aloof.parked op world)

theorem openSpan_cases (name : Operation → String) {onStart : Handler.SpanRemark δ ε υ}
    {place : Nat}
    (remarks : Handler.Remarks calls onStart fun span _ _ => .started place span)
    (op : Operation) (world : World δ ε υ) :
    let state := Handler.openSpan name onStart op world
    state = (op, world) ∨
      ∃ span, state.1.spans = park op.spans span ∧
        calls state.2.own = calls world.own ++ [.started place span] ∧
        world.spans.spans.length ≤ state.2.spans.spans.length ∧ state.2.spans.Knows span := by
  intro state
  by_cases unnamed : (name op).isEmpty = true
  · left
    simp [state, Handler.openSpan, unnamed]
  · right
    let span : Span := ⟨"hook", op.context.span, KeyMap.ofList [("otel.name", name op)]⟩
    have opened : state = ({ op with
        context := op.context.withSpan (some (world.startSpan span).1)
        extensions := op.extensions.put .openSpan ⟨(world.startSpan span).1, op.context.span⟩ },
        onStart (world.startSpan span).1 op (world.startSpan span).2) := by
      simp [state, Handler.openSpan, unnamed, span]
    have longer := remarks.spans (world.startSpan span).1 op (world.startSpan span).2
    refine ⟨(world.startSpan span).1, ?_, ?_, ?_, ?_⟩
    · rw [opened]
      simp [Operation.spans, park, Context.withSpan]
    · rw [opened]
      exact remarks.calls _ op _
    · rw [opened]
      refine Nat.le_trans ?_ longer
      simp [World.startSpan, SpanLog.start]
    · rw [opened]
      exact (SpanLog.knows_start world.spans span).mono longer

/-- The chain before opens some spans, in the order of their registrations. -/
theorem run_befores (program : List (Registration δ ε υ)) {place : Nat}
    (traced : AllTraced calls place program) (op : Operation) (world : World δ ε υ)
    [ByteStream δ ε] :
    let state := runHandlers (program.flatMap Registration.befores) op world
    ∃ opened : List (Nat × SpanRef),
      (opened.map Prod.fst).Sublist (List.range' place (program.countP isTracing)) ∧
      state.1.spans = (opened.map Prod.snd).foldl park op.spans ∧
      calls state.2.own = calls world.own ++ opened.map (fun call => .started call.1 call.2) ∧
      world.spans.spans.length ≤ state.2.spans.spans.length ∧
      ∀ call ∈ opened, state.2.spans.Knows call.2 := by
  induction program generalizing place op world with
  | nil => exact ⟨[], by simp, rfl, by simp [runHandlers], Nat.le_refl _, by simp⟩
  | cons registration rest ih =>
    obtain ⟨first, others⟩ := traced
    rw [List.flatMap_cons, runHandlers_append, List.countP_cons]
    cases registration with
    | default | after | installing | printing => exact ih others op world
    | before handler =>
      obtain ⟨opened, places, spans, kept, longer, known⟩ :=
        ih others (handler op world).1 (handler op world).2
      refine ⟨opened, places, ?_, ?_, (first.spans op world).trans longer, known⟩
      · rw [first.spans_eq op world] at spans
        exact spans
      · rw [first.calls op world] at kept
        exact kept
    | tracing name onStart onFinish =>
      -- A registration without a name leaves its place out and everything else to the rest.
      rcases openSpan_cases name first.1 op world with unopened | ⟨span, parked, call, more, new⟩
      · have same : runHandlers (tracing name onStart onFinish).befores op world = (op, world) :=
          unopened
        obtain ⟨opened, places, left⟩ := ih others op world
        rw [same]
        exact ⟨opened, places.cons place, left⟩
      · obtain ⟨opened, places, spans, kept, longer, known⟩ :=
          ih others (Handler.openSpan name onStart op world).1
            (Handler.openSpan name onStart op world).2
        rw [parked] at spans
        rw [call, List.append_assoc] at kept
        refine ⟨(place, span) :: opened, places.cons_cons place, spans, kept, more.trans longer, ?_⟩
        intro call member
        rcases List.mem_cons.mp member with rfl | later
        · exact new.mono longer
        · exact known call later

/-! ### The chain after -/

theorem aloof_log [ByteStream δ ε] : (Handler.log : Handler δ ε υ).Aloof calls := by
  have leaves : ∀ (op : Operation) (world : World δ ε υ), (Handler.log op world).1 = op ∧
      (Handler.log op world).2.own = world.own ∧ (Handler.log op world).2.spans = world.spans := by
    intro op world
    cases found : op.logger with
    | none => simp [Handler.log_of_none found]
    | some ref =>
      obtain ⟨notices, printed⟩ := Handler.log_of_some found world
      rw [printed]
      exact ⟨rfl, rfl, rfl⟩
  refine ⟨fun op world => ?_, fun op world => ?_, fun op world => ?_, fun op world => ?_⟩ <;>
    obtain ⟨left, own, spans⟩ := leaves op world
  · rw [left]
  · rw [left]
  · rw [own]
  · rw [spans]

/-- Finishing a span when none is parked. -/
theorem closeSpan_of_none (onFinish : Handler.SpanRemark δ ε υ) {op : Operation}
    (world : World δ ε υ) (nothing : op.spans.2 = none) :
    Handler.closeSpan onFinish op world = (op, world) := by
  have nothing : op.extensions.get? .openSpan = none := nothing
  simp [Handler.closeSpan, nothing]

theorem closeSpan_of_some {onFinish : Handler.SpanRemark δ ε υ} {place : Nat}
    (remarks : Handler.Remarks calls onFinish (finishCall place)) {op : Operation}
    {world : World δ ε υ} {parked : OpenSpan} (found : op.spans.2 = some parked)
    (known : world.spans.Knows parked.span) :
    let state := Handler.closeSpan onFinish op world
    state.1.spans = (parked.parent, none) ∧ ∃ due recorded,
      (∀ message, due = some message → recorded = some message) ∧
      calls state.2.own = calls world.own ++ [.finished place parked.span due recorded] := by
  intro state
  have found : op.extensions.get? .openSpan = some parked := found
  let taken : Operation := { op with extensions := op.extensions.take .openSpan }
  let noted : World δ ε υ := (op.bag.error? ArgName.error).elim world fun message =>
    { world with spans := world.spans.record parked.span ArgName.error message }
  have closed : state = ({ taken with context := op.context.withSpan parked.parent },
      onFinish parked.span taken noted) := by
    simp only [state, Handler.closeSpan, found, noted]
    cases op.bag.error? ArgName.error <;> rfl
  have own : noted.own = world.own := by
    simp only [noted]
    cases op.bag.error? ArgName.error <;> rfl
  rw [closed, remarks.calls, own]
  refine ⟨by simp [Operation.spans, Context.withSpan, taken, Slots.get?_take], _, _, ?_, rfl⟩
  intro message due
  have due : op.bag.error? ArgName.error = some message := due
  simp only [noted, due]
  exact SpanLog.get?_record known ArgName.error message

/-- The first handler that finds a span parked finishes it; then none is parked. -/
theorem run_afters (program : List (Registration δ ε υ)) {place : Nat}
    (traced : AllTraced calls place program) [ByteStream δ ε] (op : Operation)
    (world : World δ ε υ) :
    let state := runHandlers (program.flatMap Registration.afters) op world
    (op.spans.2 = none → state.1.spans = op.spans ∧ calls state.2.own = calls world.own) ∧
    ∀ parked, op.spans.2 = some parked → world.spans.Knows parked.span →
      0 < program.countP isTracing →
      state.1.spans = (parked.parent, none) ∧ ∃ due recorded,
        (∀ message, due = some message → recorded = some message) ∧
        calls state.2.own = calls world.own ++ [.finished place parked.span due recorded] := by
  induction program generalizing place op world with
  | nil => exact ⟨fun _ => ⟨rfl, rfl⟩, fun _ _ _ some => absurd some (Nat.lt_irrefl 0)⟩
  | cons registration rest ih =>
    obtain ⟨first, others⟩ := traced
    rw [List.flatMap_cons, runHandlers_append, List.countP_cons]
    -- A handler that has nothing to do with spans leaves everything to the rest.
    have passes : ∀ handler : Handler δ ε υ, handler.Aloof calls →
        AllTraced calls place rest →
        let state := runHandlers (rest.flatMap Registration.afters) (handler op world).1
          (handler op world).2
        (op.spans.2 = none → state.1.spans = op.spans ∧ calls state.2.own = calls world.own) ∧
        ∀ parked, op.spans.2 = some parked → world.spans.Knows parked.span →
          0 < rest.countP isTracing →
          state.1.spans = (parked.parent, none) ∧ ∃ due recorded,
            (∀ message, due = some message → recorded = some message) ∧
            calls state.2.own =
              calls world.own ++ [.finished place parked.span due recorded] := by
      intro handler aloof traced
      have later := ih traced (handler op world).1 (handler op world).2
      rw [aloof.spans_eq op world, aloof.calls op world] at later
      refine ⟨later.1, fun parked found known => ?_⟩
      exact later.2 parked found (known.mono (aloof.spans op world))
    cases registration with
    | default | before | installing => exact ih others op world
    | after handler => exact passes handler first others
    | printing => exact passes .log aloof_log others
    | tracing name onStart onFinish =>
      refine ⟨fun nothing => ?_, fun parked found known _ => ?_⟩
      · have same : runHandlers (tracing name onStart onFinish).afters op world = (op, world) :=
          closeSpan_of_none onFinish world nothing
        rw [same]
        exact (ih others op world).1 nothing
      · obtain ⟨spans, due, recorded, told, call⟩ := closeSpan_of_some first.2 found known
        obtain ⟨spans', calls'⟩ := (ih others (Handler.closeSpan onFinish op world).1
          (Handler.closeSpan onFinish op world).2).1 (by rw [spans])
        exact ⟨spans'.trans spans, due, recorded, told, calls'.trans call⟩

/-! ### Both chains -/

theorem fst_foldl_park (spans : List SpanRef) (state : Option SpanRef × Option OpenSpan) :
    (spans.foldl park state).1 = spans.getLast?.or state.1 := by
  cases spans using List.reverseRecOn with
  | nil => simp
  | append_singleton spans last => simp [park]

theorem foldl_park_concat (spans : List SpanRef) (last : SpanRef)
    (state : Option SpanRef × Option OpenSpan) :
    (spans ++ [last]).foldl park state =
      (some last, some ⟨last, spans.getLast?.or state.1⟩) := by
  rw [List.foldl_append, ← fst_foldl_park]
  rfl

section

variable [ByteStream δ ε] {program : List (Registration δ ε υ)} {draft : Draft δ ε υ}
  {start : World δ ε υ}

/-- A hook runs both chains of its program, and the body between them. -/
theorem run_eq_runHandlers (ready : (Draft.follow program .empty start).1 = .ok draft)
    (context : Context) (body : Handler δ ε υ) (world : World δ ε υ) :
    let ran := (draft.build.hook context).run world fun hook world =>
      let (operation, world) := body hook.operation world
      ((), { hook with operation }, world)
    let left := runHandlers (program.flatMap Registration.befores)
      (draft.build.hook context).operation.setRequestArgs world
    let worked := body left.1 left.2
    (ran.2.1.operation, ran.2.2) = runHandlers (program.flatMap Registration.afters)
      worked.1.setRequestArgs worked.2 := by
  intro ran left worked
  obtain ⟨before, after⟩ := Draft.chains_follow program ready
  simp only [ran, worked, left, Hook.run, Hook.runBefore, Hook.runAfter, runChain, Draft.build,
    Pipeline.hook, before, after, Draft.empty, Pipeline.empty, List.nil_append]

/-- What both chains make of the spans, by the spans that the first of them opens. -/
theorem spans_of_run (traced : AllTraced calls 0 program)
    (ready : (Draft.follow program .empty start).1 = .ok draft) (context : Context)
    {body : Handler δ ε υ} (aloof : body.Aloof calls) (world : World δ ε υ) :
    let ran := (draft.build.hook context).run world fun hook world =>
      let (operation, world) := body hook.operation world
      ((), { hook with operation }, world)
    let final := ran.2.1.operation
    let kept := calls ran.2.2.own
    ∃ opened : List (Nat × SpanRef),
      (opened.map Prod.fst).Sublist (List.range (program.countP isTracing)) ∧
      (opened = [] → final.spans = (context.span, none) ∧ kept = calls world.own) ∧
      ∀ earlier last, opened = earlier ++ [last] →
        final.spans = ((earlier.map Prod.snd).getLast?.or context.span, none) ∧
        ∃ due recorded, (∀ message, due = some message → recorded = some message) ∧
          kept = calls world.own ++ opened.map (fun call => .started call.1 call.2) ++
            [.finished 0 last.2 due recorded] := by
  intro ran final kept
  let op := (draft.build.hook context).operation.setRequestArgs
  obtain ⟨opened, places, spans, started, -, known⟩ := run_befores program traced op world
  let left := runHandlers (program.flatMap Registration.befores) op world
  let worked := body left.1 left.2
  have finishes := run_afters program traced worked.1.setRequestArgs worked.2
  have ran_eq := run_eq_runHandlers ready context body world
  have final_spans := congrArg (fun state => state.1.spans) ran_eq
  have final_calls := congrArg (fun state => calls state.2.own) ran_eq
  have parked : worked.1.setRequestArgs.spans =
      (opened.map Prod.snd).foldl park (context.span, none) :=
    (aloof.spans_eq left.1 left.2).trans spans
  have kept_before : calls worked.2.own = calls world.own ++
      opened.map (fun call => .started call.1 call.2) :=
    (aloof.calls left.1 left.2).trans started
  rw [← List.range_eq_range'] at places
  refine ⟨opened, places, fun nothing => ?_, fun earlier last split => ?_⟩
  · subst nothing
    obtain ⟨same, quiet⟩ := finishes.1 (by rw [parked]; rfl)
    rw [List.map_nil, List.append_nil] at kept_before
    exact ⟨(final_spans.trans same).trans parked, (final_calls.trans quiet).trans kept_before⟩
  · subst split
    rw [List.map_append, List.map_singleton, foldl_park_concat] at parked
    have some_tracing : 0 < program.countP isTracing := by
      have most := places.length_le
      simp only [List.length_map, List.length_append, List.length_singleton,
        List.length_range] at most
      omega
    have known_last : worked.2.spans.Knows last.2 :=
      (known last (by simp)).mono (aloof.spans left.1 left.2)
    obtain ⟨put_back, due, recorded, told, call⟩ := finishes.2
      ⟨last.2, (earlier.map Prod.snd).getLast?.or context.span⟩ (by rw [parked]) known_last
      some_tracing
    refine ⟨final_spans.trans put_back, due, recorded, told, ?_⟩
    rw [← kept_before]
    exact final_calls.trans call

end

/-- **The last span is finished, by the first registration.** A hook of a program whose handlers
otherwise have nothing to do with spans runs both chains around a body that has nothing to do with
them either. The registrations whose spans are named open one each, in order. Then none is parked.
The first registration has finished the last span, with the error of the operation if there is one,
and the others have finished nothing. The context is in the span before the last one. So it is back
where it was if there is one tracing registration at most, and the span is finished by the
registration that opened it. -/
theorem last_span_finished [ByteStream δ ε] (program : List (Registration δ ε υ))
    (traced : AllTraced calls 0 program) {draft : Draft δ ε υ} {start : World δ ε υ}
    (ready : (Draft.follow program .empty start).1 = .ok draft) (context : Context)
    {body : Handler δ ε υ} (aloof : body.Aloof calls) (world : World δ ε υ) :
    let ran := (draft.build.hook context).run world fun hook world =>
      let (operation, world) := body hook.operation world
      ((), { hook with operation }, world)
    let final := ran.2.1.operation
    let kept := calls ran.2.2.own
    ∃ opened : List (Nat × SpanRef),
      (opened.map Prod.fst).Sublist (List.range (program.countP isTracing)) ∧
      final.extensions.get? .openSpan = none ∧
      final.context.span = (opened.map Prod.snd).dropLast.getLast?.or context.span ∧
      (opened = [] → kept = calls world.own) ∧
      (∀ last, opened.getLast? = some last → ∃ due recorded,
        (∀ message, due = some message → recorded = some message) ∧
        kept = calls world.own ++ opened.map (fun call => .started call.1 call.2) ++
          [.finished 0 last.2 due recorded]) ∧
      (program.countP isTracing ≤ 1 → final.context.span = context.span ∧
        ∀ place span, (place, span) ∈ opened → ∃ due recorded,
          (∀ message, due = some message → recorded = some message) ∧
          kept = calls world.own ++ [.started place span, .finished place span due recorded]) := by
  intro ran final kept
  obtain ⟨opened, places, unopened, finished⟩ := spans_of_run traced ready context aloof world
  rcases opened.eq_nil_or_concat' with rfl | ⟨earlier, last, rfl⟩
  · obtain ⟨spans, kept_eq⟩ := unopened rfl
    have context_span : final.context.span = context.span := congrArg Prod.fst spans
    exact ⟨[], places, congrArg Prod.snd spans, by rw [context_span]; rfl, fun _ => kept_eq,
      nofun, fun _ => ⟨context_span, nofun⟩⟩
  · obtain ⟨spans, due, recorded, told, kept_eq⟩ := finished earlier last rfl
    have context_span : final.context.span = (earlier.map Prod.snd).getLast?.or context.span :=
      congrArg Prod.fst spans
    refine ⟨earlier ++ [last], places, congrArg Prod.snd spans, ?_, by simp, ?_, ?_⟩
    · rw [context_span, List.map_append, List.map_singleton, List.dropLast_concat]
    · intro last' same
      rw [List.getLast?_concat, Option.some.injEq] at same
      subst same
      exact ⟨due, recorded, told, kept_eq⟩
    · intro single
      -- One registration opens one span at most, and its place is the first.
      have most := places.length_le.trans (List.length_range.trans_le single)
      simp only [List.length_map, List.length_append, List.length_singleton] at most
      obtain rfl : earlier = [] := List.length_eq_zero_iff.mp (by omega)
      have first : last.1 = 0 := by
        have inside : last.1 < program.countP isTracing :=
          List.mem_range.mp (places.subset (by simp))
        omega
      refine ⟨context_span, fun place span member => ?_⟩
      obtain rfl : (place, span) = last := List.mem_singleton.mp member
      obtain rfl : place = 0 := first
      exact ⟨due, recorded, told, kept_eq.trans (by simp)⟩

/-- A tracing registration whose program keeps the calls and does nothing else. -/
def Registration.keepingCalls (place : Nat) (name : String) : Registration δ ε (List SpanCall) :=
  .tracing (fun _ => name)
    (fun span _ world => { world with own := world.own ++ [.started place span] })
    (fun span op world => { world with own := world.own ++ [finishCall place span op world.spans] })

theorem Registration.traced_keepingCalls (place : Nat) (name : String) :
    (keepingCalls place name : Registration δ ε (List SpanCall)).Traced id place :=
  ⟨⟨fun _ _ _ => rfl, fun _ _ _ => Nat.le_refl _⟩, ⟨fun _ _ _ => rfl, fun _ _ _ => Nat.le_refl _⟩⟩

/-- One registration, in an operation that fails. -/
theorem single_span_finished :
    let failing : Handler HostStream Host (List SpanCall) := .set ArgName.error (.text "failed")
    let program : List (Registration HostStream Host (List SpanCall)) := [.keepingCalls 0 "work"]
    let draft : Draft HostStream Host (List SpanCall) :=
      Draft.empty.addTracing (fun _ => "work")
        (fun span _ world => { world with own := world.own ++ [.started 0 span] })
        (fun span op world => { world with own := world.own ++ [finishCall 0 span op world.spans] })
    let world : World HostStream Host (List SpanCall) :=
      .fresh default (.counting ⟨0, 0⟩) []
    let ran := (draft.build.hook .background).run world fun hook world =>
      let (operation, world) := failing hook.operation world
      ((), { hook with operation }, world)
    AllTraced id 0 program ∧ (Draft.follow program .empty world).1 = .ok draft ∧
      failing.Aloof id ∧ ran.2.1.operation.context.span = none ∧
      ran.2.2.own = [.started 0 ⟨1⟩, .finished 0 ⟨1⟩ (some "failed") (some "failed")] := by
  intro failing program draft world ran
  have traced : AllTraced id 0 program := ⟨traced_keepingCalls 0 "work", trivial⟩
  have aloof : failing.Aloof id :=
    ⟨fun _ _ => rfl, fun _ _ => rfl, fun _ _ => rfl, fun _ _ => Nat.le_refl _⟩
  have ready : (Draft.follow program .empty world).1 = .ok draft := rfl
  obtain ⟨opened, -, -, -, -, -, single⟩ :=
    last_span_finished program traced ready .background aloof world
  exact ⟨traced, ready, aloof, (single (by decide)).1, by cbv⟩

/-- **Two registrations do not nest.** The span of the first is finished by nobody, the span of the
second is finished by the first, and the context stays in the span of the first. -/
theorem two_registrations_not_nested :
    let program : List (Registration HostStream Host (List SpanCall)) :=
      [.keepingCalls 0 "outer", .keepingCalls 1 "inner"]
    let world : World HostStream Host (List SpanCall) :=
      .fresh default (.counting ⟨0, 0⟩) []
    ∃ draft, (Draft.follow program .empty world).1 = .ok draft ∧
      let ran := (draft.build.hook .background).run world fun hook world => ((), hook, world)
      ran.2.1.operation.context.span = some ⟨1⟩ ∧
        ran.2.2.own = [.started 0 ⟨1⟩, .started 1 ⟨2⟩, .finished 0 ⟨2⟩ none none] := by
  intro program world
  exact ⟨_, rfl, by cbv, by cbv⟩

end Tapline
