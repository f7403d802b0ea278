import Mathlib
import Tapline.Proofs.Breadcrumb.Window
import Tapline.Proofs.Pipeline.Order
import Tapline.Proofs.Pipeline.Records
/-!
# Breadcrumbs of many runs

The hooks of a pipeline leave breadcrumbs in the trails of their contexts, and any number of them
may share one trail. Each time a chain after the work reaches the handler for it, an operation with
a name leaves one breadcrumb, which tells that name, how long the operation took and whether it
failed. An operation without a name leaves none, and neither does one whose context has no trail.
The trail is the window of all that was left in it.

## Main result

`trail_tells_runs`, for every program with one registration for breadcrumbs and every run of its
pipeline.

## Proof strategy

What a breadcrumb tells is read off the way it is made (`Breadcrumb.tells_ofOperation?`). A handler
that spares a trail leaves it where it is, so a chain brings the window forward by what the one
handler in its middle adds (`Shows.runChain`), and a step of a run by the chain it runs
(`Shows.next`).
-/

namespace Tapline

/-! ### What a breadcrumb tells -/

/-- When the handler that leaves breadcrumbs is reached, and with which operation. -/
structure Moment where
  time : Timestamp
  operation : Operation

namespace Moment

def bag (moment : Moment) : Bag := moment.operation.bag

/-- The first name that is not empty. -/
def name? (moment : Moment) : Option String :=
  (["func_name", "command_name", "method_name"].map moment.bag.text).find? (· ≠ "")

/-- Whether a breadcrumb is left in a trail. -/
def leavesIn (ref : TrailRef) (moment : Moment) : Bool :=
  moment.operation.context.trail = some ref && moment.name?.isSome

end Moment

/-- A breadcrumb tells the name of an operation, whether it failed, and how long it took if it took
any time, and nothing else. -/
structure Breadcrumb.Tells (crumb : Breadcrumb) (moment : Moment) : Prop where
  timestamp : crumb.timestamp = moment.time
  type : crumb.type = "query"
  category : crumb.category = none
  message : crumb.message = moment.name?
  level : crumb.level = if (moment.bag.error? "error").isSome then .error else .info
  error : crumb.data.get? "error" = (moment.bag.error? "error").map Json.string
  duration : crumb.data.get? "duration" =
    if (moment.bag.duration "duration").isZero then none
    else some (.string (moment.bag.duration "duration").text)
  others : ∀ key, key ≠ "error" → key ≠ "duration" → crumb.data.get? key = none

theorem Moment.name?_eq (moment : Moment) : moment.name? = moment.bag.operationName? := by
  have nonEmpty : (fun s : String => decide (s ≠ "")) = fun s => !s.isEmpty := by
    funext s
    by_cases blank : s = "" <;> simp [blank]
  rw [name?, nonEmpty]
  rfl

namespace Breadcrumb

/-- A breadcrumb with the duration of an operation, if it took any time. -/
def timed (moment : Moment) (crumb : Breadcrumb) : Breadcrumb :=
  if (moment.bag.duration "duration").isZero then crumb
  else crumb.withData "duration" (.string (moment.bag.duration "duration").text)

theorem get?_timed (moment : Moment) {crumb : Breadcrumb} (blank : crumb.data = .empty)
    (key : String) : (crumb.timed moment).data.get? key =
      if key = "duration" then
        if (moment.bag.duration "duration").isZero then none
        else some (.string (moment.bag.duration "duration").text)
      else none := by
  unfold timed
  split
  next => simp [blank]
  next => simp [withData, KeyMap.get?_insert, blank, eq_comm]

theorem timed_frame (moment : Moment) (crumb : Breadcrumb) :
    (crumb.timed moment).timestamp = crumb.timestamp ∧ (crumb.timed moment).type = crumb.type ∧
      (crumb.timed moment).category = crumb.category ∧
      (crumb.timed moment).message = crumb.message ∧ (crumb.timed moment).level = crumb.level := by
  unfold timed
  split <;> simp [withData]

theorem tells_ofOperation? {moment : Moment} {crumb : Breadcrumb}
    (left : ofOperation? moment.time moment.bag = some crumb) : crumb.Tells moment := by
  obtain ⟨name, named, made⟩ := Option.map_eq_some_iff.mp left
  rw [← Moment.name?_eq] at named
  let plain : Breadcrumb := { Breadcrumb.new moment.time "query" with message := some name }
  have blank : plain.data = .empty := rfl
  have details := get?_timed moment blank
  obtain ⟨timestamp, type, category, message, level⟩ := timed_frame moment plain
  -- An error is one more detail, under another key than the duration.
  cases failed : moment.bag.error? "error" with
  | none =>
    have failed' : moment.bag.error? ArgName.error = none := failed
    simp only [failed'] at made
    obtain rfl : plain.timed moment = crumb := made
    refine ⟨timestamp, type, category, message.trans named.symm, ?_, ?_, ?_, ?_⟩
    · rw [failed]
      exact level
    · simp [details, failed]
    · simp [details]
    · intro key _ other
      simp [details, other]
  | some told =>
    have failed' : moment.bag.error? ArgName.error = some told := failed
    simp only [failed'] at made
    obtain rfl : { plain.timed moment with level := .error }.withData "error" (.string told) =
        crumb := made
    refine ⟨timestamp, type, category, message.trans named.symm, ?_, ?_, ?_, ?_⟩
    · simp [withData, failed]
    · simp [withData, failed]
    · simp [withData, KeyMap.get?_insert, details]
    · intro key notError other
      simp [withData, KeyMap.get?_insert, details, Ne.symm notError, other]

/-- An operation leaves a breadcrumb if it has a name. -/
theorem isSome_ofOperation? (moment : Moment) :
    (ofOperation? moment.time moment.bag).isSome = moment.name?.isSome := by
  rw [Moment.name?_eq, ofOperation?, Option.isSome_map]

end Breadcrumb

/-! ### Handlers that spare a trail -/

variable {δ ε υ : Type}

/-- A trail of one world is found unchanged in another. -/
def World.KeepsTrail (ref : TrailRef) (before after : World δ ε υ) : Prop :=
  ∀ trail, before.trails[ref.index]? = some trail → after.trails[ref.index]? = some trail

theorem World.KeepsTrail.of_trails_eq {ref : TrailRef} {before after : World δ ε υ}
    (same : after.trails = before.trails) : World.KeepsTrail ref before after := by
  intro trail found
  rw [same]
  exact found

theorem World.KeepsTrail.trans {ref : TrailRef} {before middle after : World δ ε υ}
    (first : World.KeepsTrail ref before middle) (second : World.KeepsTrail ref middle after) :
    World.KeepsTrail ref before after :=
  fun trail found => second trail (first trail found)

namespace Handler

/-- A handler that leaves a trail as it is. -/
def SparesTrail (ref : TrailRef) (handler : Handler δ ε υ) : Prop :=
  ∀ op world, World.KeepsTrail ref world (handler op world).2

/-- A program's own remark on a span that leaves a trail as it is. -/
def SparingRemark (ref : TrailRef) (remark : SpanRemark δ ε υ) : Prop :=
  ∀ span op world, World.KeepsTrail ref world (remark span op world)

variable {ref : TrailRef}

theorem sparesTrail_log [ByteStream δ ε] : (log : Handler δ ε υ).SparesTrail ref := by
  intro op world
  apply World.KeepsTrail.of_trails_eq
  cases own : op.logger with
  | none => rw [log_of_none own]
  | some logger =>
    obtain ⟨notices, printed⟩ := log_of_some own world
    rw [printed]
    rfl

theorem sparesTrail_count (counter : MetricRef) (labels : Labels) :
    (count counter labels : Handler δ ε υ).SparesTrail ref := by
  intro op world
  apply World.KeepsTrail.of_trails_eq
  unfold count World.count
  split
  · rfl
  · simp only
    split
    · rfl
    · split <;> rfl

theorem sparesTrail_observeDuration (histogram : MetricRef) (labels : Labels) :
    (observeDuration histogram labels : Handler δ ε υ).SparesTrail ref := by
  intro op world
  apply World.KeepsTrail.of_trails_eq
  unfold observeDuration World.observe
  split
  · rfl
  · simp only
    split
    · rfl
    · split <;> rfl

theorem sparesTrail_openSpan (name : Operation → String) {onStart : SpanRemark δ ε υ}
    (sparing : SparingRemark ref onStart) : (openSpan name onStart).SparesTrail ref := by
  intro op world
  unfold openSpan
  split
  · exact fun trail found => found
  · -- Starting a span touches the spans, and then the program has its say.
    intro trail found
    exact sparing _ _ _ trail found

theorem sparesTrail_closeSpan {onFinish : SpanRemark δ ε υ}
    (sparing : SparingRemark ref onFinish) : (closeSpan onFinish).SparesTrail ref := by
  intro op world
  unfold closeSpan
  split
  · exact fun trail found => found
  · intro trail found
    apply sparing
    simp only
    split
    · exact found
    · exact found

end Handler

theorem keepsTrail_runHandlers {ref : TrailRef} {handlers : List (Handler δ ε υ)}
    (spare : ∀ handler ∈ handlers, handler.SparesTrail ref) (op : Operation)
    (world : World δ ε υ) : World.KeepsTrail ref world (runHandlers handlers op world).2 := by
  induction handlers generalizing op world with
  | nil => exact fun trail found => found
  | cons handler rest ih =>
    have first := spare handler List.mem_cons_self op world
    have later := ih (fun other member => spare other (List.mem_cons_of_mem _ member))
      (handler op world).1 (handler op world).2
    exact first.trans later

/-- A registration whose handlers leave a trail as it is. -/
def SetupStep.SparesTrail (ref : TrailRef) : SetupStep υ → Prop
  | plain (.before handler) | plain (.after handler) => handler.SparesTrail ref
  | plain (.tracing _ onStart onFinish) =>
    Handler.SparingRemark ref onStart ∧ Handler.SparingRemark ref onFinish
  | around before after => before.SparesTrail ref ∧ after.SparesTrail ref
  | breadcrumbs _ => False
  | plain (.default ..) | plain (.installing _) | plain (.printing _) | counter .. | histogram ..
  | opening .. => True

theorem SetupStep.SparesTrail.handlers {ref : TrailRef} {step : SetupStep υ}
    (spares : step.SparesTrail ref) :
    (∀ handler ∈ step.befores, handler.SparesTrail ref) ∧
      ∀ handler ∈ step.afters, handler.SparesTrail ref := by
  have one : ∀ {handler : Handler HostStream Host υ}, handler.SparesTrail ref →
      ∀ other ∈ [handler], other.SparesTrail ref := by
    intro handler spares other member
    rwa [List.mem_singleton.mp member]
  cases step with
  | plain registration =>
    cases registration with
    | default | installing => exact ⟨nofun, nofun⟩
    | before handler => exact ⟨one spares, nofun⟩
    | after handler => exact ⟨nofun, one spares⟩
    | tracing name onStart onFinish =>
      exact ⟨one (Handler.sparesTrail_openSpan name spares.1),
        one (Handler.sparesTrail_closeSpan spares.2)⟩
    | printing logger => exact ⟨nofun, one Handler.sparesTrail_log⟩
  | around before after => exact ⟨one spares.1, one spares.2⟩
  | counter metric labels => exact ⟨one (Handler.sparesTrail_count metric labels), nofun⟩
  | histogram metric labels =>
    exact ⟨nofun, one (Handler.sparesTrail_observeDuration metric labels)⟩
  | breadcrumbs crumbOf => exact spares.elim
  | opening settings registry => exact ⟨nofun, one Handler.sparesTrail_log⟩

theorem SetupStep.spared_chains {ref : TrailRef} {steps : List (SetupStep υ)}
    (spared : ∀ step ∈ steps, step.SparesTrail ref) :
    (∀ handler ∈ steps.flatMap befores, handler.SparesTrail ref) ∧
      ∀ handler ∈ steps.flatMap afters, handler.SparesTrail ref := by
  constructor
  · intro handler member
    obtain ⟨step, inside, own⟩ := List.mem_flatMap.mp member
    exact (spared step inside).handlers.1 handler own
  · intro handler member
    obtain ⟨step, inside, own⟩ := List.mem_flatMap.mp member
    exact (spared step inside).handlers.2 handler own

/-! ### One chain -/

/-- The breadcrumb that is left in a trail at a moment. -/
def Moment.crumbIn? (ref : TrailRef) (moment : Moment) : Option Breadcrumb :=
  if moment.operation.context.trail = some ref then
    Breadcrumb.ofOperation? moment.time moment.bag
  else none

/-- What is left in a trail is what the named operations in it tell, one by one. -/
theorem tells_crumbs (ref : TrailRef) (moments : List Moment) :
    List.Forall₂ Breadcrumb.Tells (moments.filterMap (Moment.crumbIn? ref))
      (moments.filter (Moment.leavesIn ref)) := by
  induction moments with
  | nil => exact .nil
  | cons moment rest ih =>
    -- A moment in another context, or without a name, is on neither side.
    by_cases here : moment.operation.context.trail = some ref
    · have left : moment.crumbIn? ref = Breadcrumb.ofOperation? moment.time moment.bag :=
        if_pos here
      have leaves : moment.leavesIn ref =
          (Breadcrumb.ofOperation? moment.time moment.bag).isSome := by
        simp [Moment.leavesIn, here, Breadcrumb.isSome_ofOperation?]
      cases made : Breadcrumb.ofOperation? moment.time moment.bag with
      | none =>
        rw [made] at left leaves
        rw [List.filterMap_cons_none left, List.filter_cons_of_neg (by simp [leaves])]
        exact ih
      | some crumb =>
        rw [made] at left leaves
        rw [List.filterMap_cons_some left, List.filter_cons_of_pos (by simp [leaves])]
        exact .cons (Breadcrumb.tells_ofOperation? made) ih
    · have nothing : moment.crumbIn? ref = none := if_neg here
      rw [List.filterMap_cons_none nothing,
        List.filter_cons_of_neg (by simp [Moment.leavesIn, here])]
      exact ih

/-- A trail shows the newest of what was left in it. -/
def World.Shows (world : World δ ε υ) (ref : TrailRef) (capacity : Nat)
    (left : List Breadcrumb) : Prop :=
  world.trails[ref.index]? = some ⟨capacity, left.rtake capacity⟩

section Chains

variable {ref : TrailRef} {capacity : Nat} {left : List Breadcrumb} {world : World δ ε υ}

theorem World.Shows.keep (shows : world.Shows ref capacity left) {after : World δ ε υ}
    (keeps : World.KeepsTrail ref world after) : after.Shows ref capacity left :=
  keeps _ shows

theorem World.Shows.pushCrumb (shows : world.Shows ref capacity left) (other : TrailRef)
    (crumb : Breadcrumb) : (world.pushCrumb other crumb).Shows ref capacity
      (if other = ref then left ++ [crumb] else left) := by
  have same : other.index = ref.index ↔ other = ref := by
    cases other
    cases ref
    simp
  unfold Shows at shows ⊢
  simp only [World.pushCrumb, List.getElem?_modify, shows, same]
  split
  · exact congrArg some (Trail.push_window capacity left crumb)
  · rfl

/-- The handler for breadcrumbs adds what the moment leaves. -/
theorem World.Shows.breadcrumb (shows : world.Shows ref capacity left) (op : Operation) :
    let moment : Moment := ⟨world.readClocks.1.wall, op⟩
    (Handler.breadcrumb Handler.namedCrumb op world).1 = op ∧
      (Handler.breadcrumb Handler.namedCrumb op world).2.Shows ref capacity
        (left ++ (moment.crumbIn? ref).toList) := by
  intro moment
  unfold Handler.breadcrumb
  cases own : op.context.trail with
  | none =>
    have nothing : moment.crumbIn? ref = none := if_neg (by simp [moment, own])
    rw [nothing, Option.toList_none, List.append_nil]
    exact ⟨rfl, shows⟩
  | some other =>
    -- The clock is read first, which touches no trail.
    have clock : world.readClocks.2.Shows ref capacity left := shows
    have asked : Handler.namedCrumb world.readClocks.1.wall op =
        Breadcrumb.ofOperation? moment.time moment.bag := rfl
    simp only [asked]
    cases made : Breadcrumb.ofOperation? moment.time moment.bag with
    | none =>
      have nothing : moment.crumbIn? ref = none := by simp [Moment.crumbIn?, made]
      rw [nothing, Option.toList_none, List.append_nil]
      exact ⟨rfl, clock⟩
    | some crumb =>
      refine ⟨rfl, ?_⟩
      have pushed := clock.pushCrumb other crumb
      by_cases here : other = ref
      · have left' : moment.crumbIn? ref = some crumb := by
          simp [Moment.crumbIn?, moment, own, here, made]
        rw [left', Option.toList_some]
        rwa [if_pos here] at pushed
      · have nothing : moment.crumbIn? ref = none := by
          simp [Moment.crumbIn?, moment, own, here]
        rw [nothing, Option.toList_none, List.append_nil]
        rwa [if_neg here] at pushed

/-- When a chain reaches the handler for breadcrumbs behind some others. -/
def Moment.reached (upTo : List (Handler δ ε υ)) (op : Operation) (world : World δ ε υ) : Moment :=
  let state := runChain upTo op world
  ⟨state.2.readClocks.1.wall, state.1⟩

/-- Of a chain with one handler for breadcrumbs, that one counts. -/
theorem World.Shows.runChain (shows : world.Shows ref capacity left)
    {earlier later : List (Handler δ ε υ)}
    (spared : ∀ handler ∈ earlier ++ later, handler.SparesTrail ref) (op : Operation) :
    (runChain (earlier ++ .breadcrumb Handler.namedCrumb :: later) op world).2.Shows ref capacity
      (left ++ ((Moment.reached earlier op world).crumbIn? ref).toList) := by
  have reached := shows.keep (keepsTrail_runHandlers
    (fun handler member => spared handler (List.mem_append_left later member))
    op.setRequestArgs world)
  obtain ⟨-, pushed⟩ := reached.breadcrumb (Tapline.runChain earlier op world).1
  rw [runChain_append]
  exact pushed.keep (keepsTrail_runHandlers
    (fun handler member => spared handler (List.mem_append_right earlier member)) _ _)

end Chains

/-! ### A run -/

/-- A step in which the program itself leaves a trail as it is. -/
def PipelineStep.SparesTrail (ref : TrailRef) : PipelineStep δ ε υ → Prop
  | change _ how => how.SparesTrail ref
  | _ => True

namespace PipelineRun

/-- The moment of a step, if it runs a chain after the work. -/
def moment? (upTo : List (Handler δ ε υ)) (run : PipelineRun δ ε υ) :
    PipelineStep δ ε υ → Option Moment
  | .after n => run.hooks[n]?.map fun hook => .reached upTo hook.operation run.world
  | _ => none

/-- A run whose trail shows what was left in it, and whose hooks have the chains of the pipeline. -/
structure Shows (run : PipelineRun δ ε υ) (pipeline : Pipeline δ ε υ) (ref : TrailRef)
    (capacity : Nat) (left : List Breadcrumb) : Prop where
  trail : run.world.Shows ref capacity left
  hooks : ∀ hook ∈ run.hooks, hook.before = pipeline.before ∧ hook.after = pipeline.after

variable {pipeline : Pipeline δ ε υ} {ref : TrailRef} {capacity : Nat} {left : List Breadcrumb}
  {run : PipelineRun δ ε υ} {earlier later : List (Handler δ ε υ)}

theorem Shows.setHook (shows : run.Shows pipeline ref capacity left) {n : Nat}
    {hook changed : Hook δ ε υ} (found : run.hooks[n]? = some hook)
    (before : changed.before = hook.before) (after : changed.after = hook.after) :
    ∀ other ∈ run.hooks.set n changed,
      other.before = pipeline.before ∧ other.after = pipeline.after := by
  intro other member
  rcases List.mem_or_eq_of_mem_set member with old | rfl
  · exact shows.hooks other old
  · obtain ⟨before', after'⟩ := shows.hooks hook (List.mem_of_getElem? found)
    exact ⟨before.trans before', after.trans after'⟩

/-- Something that is done with a hook and leaves the trail as it is. -/
theorem Shows.onHook (shows : run.Shows pipeline ref capacity left) (n : Nat)
    {act : Hook δ ε υ → World δ ε υ → Hook δ ε υ × World δ ε υ}
    (spares : ∀ hook ∈ run.hooks, ∀ world, (act hook world).1.before = hook.before ∧
      (act hook world).1.after = hook.after ∧ World.KeepsTrail ref world (act hook world).2) :
    (run.onHook n act).Shows pipeline ref capacity left := by
  unfold PipelineRun.onHook
  split
  next => exact shows
  next hook found =>
    obtain ⟨before, after, keeps⟩ := spares hook (List.mem_of_getElem? found) run.world
    exact ⟨shows.trail.keep keeps, shows.setHook found before after⟩

variable [ByteStream δ ε]

/-- The moments of a run, in their order. -/
def moments (pipeline : Pipeline δ ε υ) (upTo : List (Handler δ ε υ)) :
    PipelineRun δ ε υ → List (PipelineStep δ ε υ) → List Moment
  | _, [] => []
  | run, step :: rest =>
    (run.moment? upTo step).toList ++ moments pipeline upTo (run.next pipeline upTo step) rest

/-- A step adds to the trail what its moment leaves, if it has one. -/
theorem Shows.next (shows : run.Shows pipeline ref capacity left)
    (chain : pipeline.after = earlier ++ .breadcrumb Handler.namedCrumb :: later)
    (spared : ∀ handler ∈ earlier ++ later, handler.SparesTrail ref)
    (spared' : ∀ handler ∈ pipeline.before, handler.SparesTrail ref)
    {step : PipelineStep δ ε υ} (calm : step.SparesTrail ref) :
    (run.next pipeline earlier step).Shows pipeline ref capacity
      (left ++ ((run.moment? earlier step).toList).filterMap (Moment.crumbIn? ref)) := by
  -- Only a chain after the work has a moment.
  have still : ∀ {next : PipelineRun δ ε υ}, next.Shows pipeline ref capacity left →
      next.Shows pipeline ref capacity
        (left ++ (Option.toList none).filterMap (Moment.crumbIn? ref)) := by
    intro next shows
    rwa [Option.toList_none, List.filterMap_nil, List.append_nil]
  cases step with
  | create context =>
    refine still ⟨shows.trail, fun hook member => ?_⟩
    rcases List.mem_append.mp member with old | new
    · exact shows.hooks hook old
    · obtain rfl := List.mem_singleton.mp new
      exact ⟨rfl, rfl⟩
  | change n how =>
    have acted : run.next pipeline earlier (.change n how) = run.onHook n fun hook world =>
        ({ hook with operation := (how hook.operation world).1 },
          (how hook.operation world).2) := rfl
    rw [acted]
    exact still (shows.onHook n fun hook _ world => ⟨rfl, rfl, calm hook.operation world⟩)
  | before n =>
    have acted : run.next pipeline earlier (.before n) = run.onHook n Hook.runBefore := rfl
    rw [acted]
    refine still (shows.onHook n fun hook member world => ⟨rfl, rfl, ?_⟩)
    have spared_chain : ∀ handler ∈ hook.before, handler.SparesTrail ref := by
      rw [(shows.hooks hook member).1]
      exact spared'
    exact keepsTrail_runHandlers spared_chain hook.operation.setRequestArgs world
  | after n =>
    -- Where there is no such hook, there is no moment either.
    have moment : run.moment? earlier (.after n) =
        run.hooks[n]?.map fun hook => .reached earlier hook.operation run.world := rfl
    rw [moment]
    unfold PipelineRun.next
    simp only
    split
    next found =>
      rw [found]
      exact still shows
    next hook found =>
      obtain ⟨-, after⟩ := shows.hooks hook (List.mem_of_getElem? found)
      have brought := shows.trail.runChain spared hook.operation
      rw [← chain, ← after] at brought
      have one : ∀ moment : Moment, [moment].filterMap (Moment.crumbIn? ref) =
          (moment.crumbIn? ref).toList := fun moment => by
        cases crumb : moment.crumbIn? ref <;> simp [crumb]
      refine ⟨?_, shows.setHook found rfl rfl⟩
      rw [found, Option.map_some, Option.toList_some, one]
      exact brought
  | close =>
    have closed : (pipeline.close run.world).2.trails = run.world.trails := by
      unfold Pipeline.close
      split <;> rfl
    exact still ⟨shows.trail.keep (.of_trails_eq closed), shows.hooks⟩
  | move logger place which => exact still ⟨shows.trail.keep (.of_trails_eq rfl), shows.hooks⟩

theorem Shows.steps (shows : run.Shows pipeline ref capacity left)
    (chain : pipeline.after = earlier ++ .breadcrumb Handler.namedCrumb :: later)
    (spared : ∀ handler ∈ earlier ++ later, handler.SparesTrail ref)
    (spared' : ∀ handler ∈ pipeline.before, handler.SparesTrail ref)
    {steps : List (PipelineStep δ ε υ)} (calm : ∀ step ∈ steps, step.SparesTrail ref) :
    (PipelineRun.run pipeline earlier run steps).Shows pipeline ref capacity
      (left ++ (run.moments pipeline earlier steps).filterMap (Moment.crumbIn? ref)) := by
  -- The run and what was left in the trail so far grow together.
  induction steps generalizing run left with
  | nil =>
    rw [moments, List.filterMap_nil, List.append_nil]
    exact shows
  | cons step rest ih =>
    have first := shows.next chain spared spared' (calm step List.mem_cons_self)
    have whole := ih first fun other member => calm other (List.mem_cons_of_mem _ member)
    rw [List.append_assoc, ← List.filterMap_append] at whole
    exact whole

end PipelineRun

/-! ### The main result -/

/-- **A trail tells of the runs.** A program registers breadcrumbs once, between registrations that
leave a trail as it is. After any steps of its hooks, with whatever contexts, the trail shows the
newest breadcrumbs of those that were left in it, as many as it has room for. There is one for each
chain after the work, in the order in which they ran, that reached the handler with a named
operation in a context with this trail, and it tells of that operation; nothing else is left. -/
theorem trail_tells_runs {υ : Type} {earlier later : List (SetupStep υ)}
    {world start : World HostStream Host υ} {draft : Draft HostStream Host υ}
    (ready : (Draft.performAll (earlier ++ .breadcrumbs Handler.namedCrumb :: later) .empty
      world).1 = .ok draft)
    {ref : TrailRef} (spared : ∀ step ∈ earlier ++ later, step.SparesTrail ref) {capacity : Nat}
    (begins : start.trails[ref.index]? = some (.ofCapacity capacity))
    {steps : List (PipelineStep HostStream Host υ)} (calm : ∀ step ∈ steps, step.SparesTrail ref) :
    let upTo := earlier.flatMap SetupStep.afters
    let run := PipelineRun.run draft.build upTo (.start start) steps
    let moments := PipelineRun.moments draft.build upTo (.start start) steps
    ∃ crumbs, List.Forall₂ Breadcrumb.Tells crumbs (moments.filter (Moment.leavesIn ref)) ∧
      run.world.trail ref = ⟨capacity, crumbs.rtake capacity⟩ := by
  intro upTo run moments
  refine ⟨moments.filterMap (Moment.crumbIn? ref), tells_crumbs ref moments, ?_⟩
  rcases Draft.performAll_cases .empty world
      (earlier ++ .breadcrumbs Handler.namedCrumb :: later) with
    ⟨next, succeeded, before, after, -⟩ | ⟨_, _, _, _, cause, -, -, failed, -⟩
  · obtain rfl : draft = next := Except.ok.inj (ready.symm.trans succeeded)
    obtain ⟨spared_befores, spared_afters⟩ := SetupStep.spared_chains spared
    -- The one step for breadcrumbs adds its handler between those of the others, and nothing else.
    have chain : draft.build.after = upTo ++
        .breadcrumb Handler.namedCrumb :: later.flatMap SetupStep.afters := by
      rw [List.flatMap_append, List.flatMap_cons] at after
      exact after
    have chain' : draft.build.before = (earlier ++ later).flatMap SetupStep.befores := by
      rw [List.flatMap_append, List.flatMap_cons] at before
      rw [List.flatMap_append]
      exact before
    rw [← chain'] at spared_befores
    rw [List.flatMap_append] at spared_afters
    have empty : start.Shows ref capacity [] := by
      rw [World.Shows, List.rtake_nil]
      exact begins
    have begun : (PipelineRun.start start).Shows draft.build ref capacity [] := by
      refine ⟨empty, fun hook member => ?_⟩
      cases member
    have shown := (begun.steps chain spared_afters spared_befores calm).trail
    rw [List.nil_append] at shown
    rw [World.trail, show run.world.trails[ref.index]? = _ from shown]
    rfl
  · cases failed.symm.trans ready

/-- A trail for two breadcrumbs that two hooks share, beside a hook without a trail. The first hook
runs its chain twice, and the handler after the one for breadcrumbs names it anew. The last one has
no name in its first run and has failed in its second, which leaves the third breadcrumb. -/
theorem trail_of_five_runs :
    let earlier : List (SetupStep Unit) := [.plain (.before (.set "rows" (.int 1)))]
    let later : List (SetupStep Unit) := [.plain (.after (.set "func_name" (.text "renamed")))]
    let start : World HostStream Host Unit :=
      ((World.fresh default (.counting ⟨0, 0⟩) ()).addTrail 2).2
    let request : Context := { Context.background with trail := some ⟨0⟩ }
    let steps : List (PipelineStep HostStream Host Unit) :=
      [.create request, .create .background, .create request, .after 2,
        .change 0 (.set "method_name" (.text "get")), .after 0, .after 0,
        .change 1 (.set "func_name" (.text "apart")), .after 1,
        .change 2 (.set "func_name" (.text "put")), .change 2 (.set "error" (.error "refused")),
        .after 2]
    ∃ draft, (Draft.performAll (earlier ++ .breadcrumbs Handler.namedCrumb :: later) .empty
        start).1 = .ok draft ∧
      let run := PipelineRun.run draft.build [] (.start start) steps
      (run.world.trail ⟨0⟩).crumbs.map (fun crumb => (crumb.message, crumb.level)) =
        [(some "renamed", .info), (some "put", .error)] := by
  intro earlier later start request steps
  refine ⟨_, rfl, ?_⟩
  intro run
  have set_spares : ∀ name value,
      (Handler.set name value : Handler HostStream Host Unit).SparesTrail ⟨0⟩ :=
    fun _ _ _ _ _ found => found
  have spared : ∀ step ∈ earlier ++ later, step.SparesTrail ⟨0⟩ := by
    simp [earlier, later, SetupStep.SparesTrail, set_spares]
  have calm : ∀ step ∈ steps, step.SparesTrail ⟨0⟩ := by
    simp [steps, PipelineStep.SparesTrail, set_spares]
  have begins : start.trails[(⟨0⟩ : TrailRef).index]? = some (.ofCapacity 2) := rfl
  obtain ⟨crumbs, told, shown⟩ := trail_tells_runs
    (show (Draft.performAll _ .empty start).1 = .ok _ from rfl) spared begins calm
  let look (crumb : Breadcrumb) := (crumb.message, crumb.level)
  let tell (moment : Moment) :=
    (moment.name?, if (moment.bag.error? "error").isSome then BreadcrumbLevel.error else .info)
  have looks : ∀ {moments : List Moment}, List.Forall₂ Breadcrumb.Tells crumbs moments →
      crumbs.map look = moments.map tell := by
    intro moments told
    rw [← List.forall₂_eq_eq_eq, List.forall₂_map_left_iff, List.forall₂_map_right_iff]
    exact told.imp fun crumb moment tells => Prod.ext tells.message tells.level
  have newest : (crumbs.rtake 2).map look = (crumbs.map look).rtake 2 := by
    rw [List.rtake, List.rtake, List.map_drop, List.length_map]
  rw [show run.world.trail ⟨0⟩ = _ from shown, newest, looks told]
  cbv

end Tapline
