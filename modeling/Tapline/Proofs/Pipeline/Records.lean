import Mathlib
import Tapline.Handler.Argument
import Tapline.Proofs.Pipeline.Setup
import Tapline.Proofs.Stream.Host
/-!
# Where records go

A program may install any number of loggers, before and after the registration that prints. Each
operation that finishes is then printed once, through the logger that was installed last, until
the pipeline is closed. The loggers that were replaced are closed and print nothing.

## Main result

`records_go_to_last_logger`, for every such program and every run of its pipeline: any number of
hooks, whose steps come in any order and may come after the pipeline is closed.

## Proof strategy

The program leaves all loggers closed but the last (`Draft.Installs`). A step of a run brings that
one forward by at most one record or a close (`PipelineRun.Holds`), and what the two bring adds up.
-/

namespace Tapline

variable {δ ε υ : Type}

/-! ### Running -/

/-- What may happen once a pipeline is set up. -/
inductive PipelineStep (δ ε υ : Type) where
  | create (context : Context)
  /-- The program does something with a hook, of its own accord. -/
  | change (hook : Nat) (how : Handler δ ε υ)
  | before (hook : Nat)
  | after (hook : Nat)
  | close
  /-- A background flusher makes a move. -/
  | move (logger : LoggerRef) (place : Nat) (which : FlusherMove)

/-- A step in which the program itself prints nothing. -/
def PipelineStep.Quiet : PipelineStep δ ε υ → Prop
  | change _ how => how.Quiet
  | _ => True

/-- What has come of a sequence of steps. -/
structure PipelineRun (δ ε υ : Type) where
  hooks : List (Hook δ ε υ)
  world : World δ ε υ
  /-- The bags of the operations that have finished before the pipeline was closed, each as it was
  when the chain reached the handler that prints. -/
  records : List Bag
  closed : Bool

namespace PipelineRun

def start (world : World δ ε υ) : PipelineRun δ ε υ := ⟨[], world, [], false⟩

/-- Runs a chain of a hook, if there is such a hook. -/
def onHook (run : PipelineRun δ ε υ) (n : Nat)
    (act : Hook δ ε υ → World δ ε υ → Hook δ ε υ × World δ ε υ) : PipelineRun δ ε υ :=
  match run.hooks[n]? with
  | none => run
  | some hook =>
    let (hook, world) := act hook run.world
    { run with hooks := run.hooks.set n hook, world }

variable [ByteStream δ ε]

/-- One step. The handlers that run before the one that prints are given, to tell the records. -/
def next (pipeline : Pipeline δ ε υ) (upToPrinting : List (Handler δ ε υ))
    (run : PipelineRun δ ε υ) : PipelineStep δ ε υ → PipelineRun δ ε υ
  | .create context => { run with hooks := run.hooks ++ [pipeline.hook context] }
  | .change n how =>
    run.onHook n fun hook world =>
      let (operation, world) := how hook.operation world
      ({ hook with operation }, world)
  | .before n => run.onHook n Hook.runBefore
  | .after n =>
    match run.hooks[n]? with
    | none => run
    | some hook =>
      let (finished, world) := hook.runAfter run.world
      let reached := runChain upToPrinting hook.operation run.world
      { run with
        hooks := run.hooks.set n finished
        world
        records := run.records ++ if run.closed then [] else [reached.1.bag] }
  | .close => { run with world := (pipeline.close run.world).2, closed := true }
  | .move ref place which =>
    { run with
      world := (run.world.onLogger ref fun logger around => logger.moveAt place which around).2 }

def run (pipeline : Pipeline δ ε υ) (upToPrinting : List (Handler δ ε υ))
    (run : PipelineRun δ ε υ) (steps : List (PipelineStep δ ε υ)) : PipelineRun δ ε υ :=
  steps.foldl (next pipeline upToPrinting) run

end PipelineRun

section

variable {able : Watched δ → Prop}

/-- A run, by how far the loggers have come since a world: the last one by the records, and the
others not at all. -/
structure PipelineRun.Holds (able : Watched δ → Prop) (pipeline : Pipeline (Watched δ) ε υ)
    (last : LoggerRef) (begun : World (Watched δ) ε υ) (run : PipelineRun (Watched δ) ε υ) :
    Prop where
  advances : World.Advances able (fun n => if n = last.index then run.records else [])
    (fun n => decide (n = last.index) && run.closed) begun run.world
  hooks : ∀ hook ∈ run.hooks, hook.operation.logger = some last ∧
    hook.before = pipeline.before ∧ hook.after = pipeline.after

variable {pipeline : Pipeline (Watched δ) ε υ} {last : LoggerRef}
  {begun : World (Watched δ) ε υ} {run : PipelineRun (Watched δ) ε υ}

/-- What brings the last logger forward is added to the records, unless it is closed. -/
theorem PipelineRun.Holds.advance (holds : run.Holds able pipeline last begun) {more : List Bag}
    {shuts : Bool} {world : World (Watched δ) ε υ}
    (advances : World.Advances able (fun n => if n = last.index then more else [])
      (fun n => decide (n = last.index) && shuts) run.world world) :
    World.Advances able
      (fun n => if n = last.index then run.records ++ if run.closed then [] else more else [])
      (fun n => decide (n = last.index) && (run.closed || shuts)) begun world := by
  have both := holds.advances.trans advances
  have records : (fun n => (if n = last.index then run.records else []) ++
      if decide (n = last.index) && run.closed then []
      else if n = last.index then more else []) =
      fun n => if n = last.index then run.records ++ if run.closed then [] else more else [] := by
    funext n
    by_cases same : n = last.index <;> simp [same]
  have shut : (fun n => decide (n = last.index) && run.closed ||
      decide (n = last.index) && shuts) =
      fun n => decide (n = last.index) && (run.closed || shuts) := by
    funext n
    rw [← Bool.and_or_distrib_left]
  rwa [records, shut] at both

/-- What leaves the loggers where they are. -/
theorem PipelineRun.Holds.stay (holds : run.Holds able pipeline last begun)
    {world : World (Watched δ) ε υ}
    (advances : World.Advances able (fun _ => []) (fun _ => false) run.world world) :
    World.Advances able (fun n => if n = last.index then run.records else [])
      (fun n => decide (n = last.index) && run.closed) begun world := by
  have still : World.Advances able (fun n => if n = last.index then [] else [])
      (fun n => decide (n = last.index) && false) run.world world := by
    simpa using advances
  simpa using holds.advance still

/-- A hook that is changed keeps its logger and its chains. -/
theorem PipelineRun.Holds.setHook (holds : run.Holds able pipeline last begun) {n : Nat}
    {hook changed : Hook (Watched δ) ε υ} (found : run.hooks[n]? = some hook)
    (logger : changed.operation.logger = hook.operation.logger)
    (before : changed.before = hook.before) (after : changed.after = hook.after) :
    ∀ other ∈ run.hooks.set n changed, other.operation.logger = some last ∧
      other.before = pipeline.before ∧ other.after = pipeline.after := by
  intro other member
  rcases List.mem_or_eq_of_mem_set member with old | rfl
  · exact holds.hooks other old
  · obtain ⟨logger', before', after'⟩ := holds.hooks hook (List.mem_of_getElem? found)
    exact ⟨logger.trans logger', before.trans before', after.trans after'⟩

/-- Something that is done with a hook without printing. -/
theorem PipelineRun.Holds.onHook (holds : run.Holds able pipeline last begun) (n : Nat)
    {act : Hook (Watched δ) ε υ → World (Watched δ) ε υ → Hook (Watched δ) ε υ × World (Watched δ) ε υ}
    (quiet : ∀ hook ∈ run.hooks, ∀ world,
      (act hook world).1.operation.logger = hook.operation.logger ∧
        (act hook world).1.before = hook.before ∧ (act hook world).1.after = hook.after ∧
        (act hook world).2.loggers = world.loggers) :
    (run.onHook n act).Holds able pipeline last begun := by
  unfold PipelineRun.onHook
  split
  next => exact holds
  next hook found =>
    obtain ⟨logger, before, after, loggers⟩ :=
      quiet hook (List.mem_of_getElem? found) run.world
    exact ⟨holds.stay (.of_loggers_eq loggers), holds.setHook found logger before after⟩

variable [ByteStream δ ε]

/-- The chain that prints: one record, with the bag that reaches the handler for it. -/
theorem advances_printing (steady : Steady able) {earlier later : List (Handler (Watched δ) ε υ)}
    (quiet : ∀ handler ∈ earlier ++ later, handler.Quiet) {op : Operation}
    (own : op.logger = some last) (world : World (Watched δ) ε υ) :
    let finished := runChain (earlier ++ Handler.log :: later) op world
    finished.1.logger = some last ∧
      World.Advances able
        (fun n => if n = last.index then [(runChain earlier op world).1.bag] else [])
        (fun n => decide (n = last.index) && false) world finished.2 := by
  intro finished
  let reached := runChain earlier op world
  obtain ⟨reached_logger, reached_loggers⟩ := quiet_runHandlers
    (fun handler member => quiet handler (List.mem_append_left later member)) op.setRequestArgs world
  have found : reached.1.logger = some last := reached_logger.trans own
  obtain ⟨notices, printed⟩ := Handler.log_of_some found reached.2
  obtain ⟨finished_logger, finished_loggers⟩ := quiet_runHandlers
    (fun handler member => quiet handler (List.mem_append_right earlier member)) reached.1
    ((reached.2.print last reached.1.bag).2.noteAll notices)
  -- The handlers on both sides leave the loggers alone, so only the one in the middle counts.
  have finished_eq : finished = runHandlers later reached.1
      ((reached.2.print last reached.1.bag).2.noteAll notices) := by
    have after_log : runHandlers (Handler.log :: later) reached.1 reached.2 =
        runHandlers later (Handler.log reached.1 reached.2).1 (Handler.log reached.1 reached.2).2 :=
      rfl
    rw [printed] at after_log
    exact (runChain_append earlier (Handler.log :: later) op world).trans after_log
  have advances := World.advances_onLogger
    (fun logger around => Logger.advances_print steady logger around reached.1.bag) reached.2 last
  rw [finished_eq]
  exact ⟨finished_logger.trans found, advances.congr reached_loggers.symm finished_loggers⟩

theorem PipelineRun.Holds.next (steady : Steady able) (holds : run.Holds able pipeline last begun)
    {earlier later : List (Handler (Watched δ) ε υ)}
    (chain : pipeline.after = earlier ++ Handler.log :: later)
    (quiet : ∀ handler ∈ earlier ++ later, handler.Quiet)
    (quiet' : ∀ handler ∈ pipeline.before, handler.Quiet) (own : pipeline.logger = some last)
    {step : PipelineStep (Watched δ) ε υ} (calm : step.Quiet) :
    (run.next pipeline earlier step).Holds able pipeline last begun := by
  cases step with
  | create context =>
    refine ⟨holds.advances, fun hook member => ?_⟩
    rcases List.mem_append.mp member with old | new
    · exact holds.hooks hook old
    · obtain rfl := List.mem_singleton.mp new
      exact ⟨own, rfl, rfl⟩
  | change n how =>
    change PipelineRun.Holds able pipeline last begun (run.onHook n fun hook world =>
      ({ hook with operation := (how hook.operation world).1 }, (how hook.operation world).2))
    exact holds.onHook n fun hook _ world =>
      ⟨calm.logger hook.operation world, rfl, rfl, calm.loggers hook.operation world⟩
  | before n =>
    change PipelineRun.Holds able pipeline last begun (run.onHook n Hook.runBefore)
    refine holds.onHook n fun hook member world => ?_
    have quiet_chain : ∀ handler ∈ hook.before, handler.Quiet := by
      rw [(holds.hooks hook member).2.1]
      exact quiet'
    obtain ⟨logger, loggers⟩ := quiet_runHandlers quiet_chain hook.operation.setRequestArgs world
    exact ⟨logger, rfl, rfl, loggers⟩
  | after n =>
    unfold PipelineRun.next
    simp only
    split
    next => exact holds
    next hook found =>
      obtain ⟨logger, -, after⟩ := holds.hooks hook (List.mem_of_getElem? found)
      obtain ⟨finished_logger, advances⟩ := advances_printing steady quiet logger run.world
      rw [← chain, ← after] at finished_logger advances
      refine ⟨?_, holds.setHook found (finished_logger.trans logger.symm) rfl rfl⟩
      -- What is printed after the pipeline is closed is refused, and is no record.
      have brought := holds.advance advances
      rw [Bool.or_false] at brought
      exact brought
  | close =>
    have closing : (pipeline.close run.world).2 = (run.world.closeLogger last).2 := by
      simp only [Pipeline.close, own]
    have advances := World.advances_onLogger (Logger.advances_close steady) run.world last
    simp only [PipelineRun.next, closing]
    refine ⟨?_, holds.hooks⟩
    have brought := holds.advance advances
    rw [ite_self, List.append_nil] at brought
    rw [Bool.or_true] at brought
    exact brought
  | move ref place which =>
    have advances := World.advances_onLogger
      (fun logger around => Logger.advances_moveAt steady logger place which around) run.world ref
    simp only [ite_self, Bool.and_false] at advances
    exact ⟨holds.stay advances, holds.hooks⟩

theorem PipelineRun.holds_run (steady : Steady able) (holds : run.Holds able pipeline last begun)
    {earlier later : List (Handler (Watched δ) ε υ)}
    (chain : pipeline.after = earlier ++ Handler.log :: later)
    (quiet : ∀ handler ∈ earlier ++ later, handler.Quiet)
    (quiet' : ∀ handler ∈ pipeline.before, handler.Quiet) (own : pipeline.logger = some last)
    {steps : List (PipelineStep (Watched δ) ε υ)} (calm : ∀ step ∈ steps, step.Quiet) :
    (run.run pipeline earlier steps).Holds able pipeline last begun := by
  induction steps generalizing run with
  | nil => exact holds
  | cons step rest ih =>
    have first := holds.next steady chain quiet quiet' own (calm step List.mem_cons_self)
    exact ih first fun other member => calm other (List.mem_cons_of_mem _ member)

end

/-- **Records go to the last logger.** A program prints once, besides installing any loggers in any
order; none of its other handlers prints. It succeeds. In every run of its pipeline, each sink of
the logger installed last takes one record for each operation that finishes before the pipeline is
closed, in order, rendered from the bag that reaches the handler that prints; and it is closed once,
if the pipeline is. Each sink of every other logger takes none, and is closed once. Closing the
pipeline again succeeds and changes nothing at all. -/
theorem records_go_to_last_logger [ByteStream δ ε] {able : Watched δ → Prop}
    (steady : Steady able) (earlier later : List (Registration (Watched δ) ε υ))
    (printed : Logger (Watched δ))
    (quiet : ∀ registration ∈ earlier ++ later, registration.Quiet)
    (start : World (Watched δ) ε υ) (steps : List (PipelineStep (Watched δ) ε υ))
    (calm : ∀ step ∈ steps, step.Quiet) :
    let program := earlier ++ .printing printed :: later
    let installed := program.filterMap Registration.logger?
    ∃ draft world, Draft.follow program .empty start = (.ok draft, world) ∧
      let run := (PipelineRun.start world).run draft.build
        (earlier.flatMap Registration.afters) steps
      (∀ (n : Nat) (logger : Logger (Watched δ)), installed[n]? = some logger →
        let now := run.world.logger ⟨start.loggers.length + n⟩
        if n + 1 = installed.length then logger.Advances able run.records run.closed now
        else logger.Advances able [] true now) ∧
      (run.closed = true → draft.build.close run.world = (.ok (), run.world)) := by
  intro program installed
  obtain ⟨draft, ready⟩ := Draft.follow_ok program .empty start
    (countP_isPrinting quiet printed).le
  obtain ⟨before, after⟩ := Draft.chains_follow program ready
  have begins : Draft.empty.Installs able start.loggers.length [] start :=
    ⟨rfl, fun n => by simp [Draft.empty, Pipeline.empty], nofun⟩
  have installs := begins.follow steady program ready
  rw [List.nil_append] at installs
  generalize world_eq : (Draft.follow program .empty start).2 = world at installs
  refine ⟨draft, world, Prod.ext ready world_eq, ?_⟩
  intro run
  -- The logger installed last is the pipeline's own.
  have some_installed : 0 < installed.length :=
    List.length_pos_of_mem (List.mem_filterMap.mpr ⟨.printing printed, by simp [program], rfl⟩)
  let place := installed.length - 1
  have place_last : place + 1 = installed.length := Nat.sub_add_cancel some_installed
  let last : LoggerRef := ⟨start.loggers.length + place⟩
  have own : draft.build.logger = some last := (installs.last place).mpr place_last
  have chain : draft.build.after = earlier.flatMap Registration.afters ++
      Handler.log :: later.flatMap Registration.afters := by
    refine after.trans ?_
    simp [program, Draft.empty, Pipeline.empty, Registration.afters]
  have quiet_before : ∀ handler ∈ draft.build.before, handler.Quiet := by
    intro handler member
    have member : handler ∈ [] ++ program.flatMap Registration.befores := before ▸ member
    exact quiet_befores quiet printed handler member
  have holds : (PipelineRun.start world).Holds able draft.build last world := by
    refine ⟨?_, nofun⟩
    simpa [PipelineRun.start] using World.Advances.of_loggers_eq rfl
  have holds := PipelineRun.holds_run steady holds chain (quiet_afters quiet) quiet_before own
    calm
  -- Setting up brings each logger some way, and the run brings the last one further.
  have came : ∀ (n : Nat) (logger : Logger (Watched δ)), installed[n]? = some logger →
      let now := run.world.logger ⟨start.loggers.length + n⟩
      if n + 1 = installed.length then logger.Advances able run.records run.closed now
      else logger.Advances able [] true now := by
    intro n logger found now
    have both := (installs.came n logger found).trans
      (holds.advances.logger (start.loggers.length + n))
    have inside : n < installed.length := (List.getElem?_eq_some_iff.mp found).1
    by_cases final : n + 1 = installed.length
    · have newest : ¬ n + 1 < installed.length := by omega
      have index : start.loggers.length + n = last.index :=
        congrArg (start.loggers.length + ·) (by omega : n = place)
      rw [decide_eq_false newest, if_neg Bool.false_ne_true, if_pos index, decide_eq_true index,
        List.nil_append, Bool.false_or, Bool.true_and] at both
      rw [if_pos final]
      exact both
    · have replaced : n + 1 < installed.length := by omega
      rw [decide_eq_true replaced, if_pos rfl, List.nil_append, Bool.true_or] at both
      rw [if_neg final]
      exact both
  refine ⟨came, fun closed => ?_⟩
  have brought := came place installed[place] (List.getElem?_eq_getElem (by omega))
  rw [if_pos place_last, closed] at brought
  have again := World.closeLogger_of_closed brought.closed
  simp only [Pipeline.close, own]
  rw [again]
  rfl

/-- A logger that is replaced after the registration that prints. Two hooks are made; one finishes
before the pipeline is closed, the other one after. -/
theorem record_goes_to_second_logger :
    let able : Watched HostStream → Prop := fun stream => stream.inner.Sturdy
    let sink (delivery : Delivery) : Sink (Watched HostStream) :=
      (Sink.ofStreamIn keyTemplate (.of (.memory .empty)) delivery default).1
    let earlier : List (Registration (Watched HostStream) Host Unit) :=
      [.after (.set "k" (.text "v"))]
    let later : List (Registration (Watched HostStream) Host Unit) :=
      [.installing ⟨[sink (.batched .zero 100)]⟩]
    let program := earlier ++ .printing ⟨[sink .direct]⟩ :: later
    let start : World (Watched HostStream) Host Unit := .fresh default (.counting ⟨0, 0⟩) ()
    let steps : List (PipelineStep (Watched HostStream) Host Unit) :=
      [.create .background, .create .background, .before 0, .after 0, .close, .after 1]
    (∀ registration ∈ earlier ++ later, registration.Quiet) ∧ (∀ step ∈ steps, step.Quiet) ∧
    ∃ draft world, Draft.follow program .empty start = (.ok draft, world) ∧
      let run := (PipelineRun.start world).run draft.build
        (earlier.flatMap Registration.afters) steps
      (∃ replaced, (run.world.logger ⟨0⟩).sinks = [replaced] ∧ replaced.Took able [] ∧
        replaced.closings = 1) ∧
      (∃ last, (run.world.logger ⟨1⟩).sinks = [last] ∧ last.Took able ["v\n".toUTF8] ∧
        last.closings = 1) := by
  intro able sink earlier later program start steps
  have quiet : ∀ registration ∈ earlier ++ later, registration.Quiet := by
    intro registration member
    rcases List.mem_cons.mp member with rfl | rest
    · exact ⟨fun _ _ => rfl, fun _ _ => rfl⟩
    · obtain rfl := List.mem_singleton.mp rest
      trivial
  have calm : ∀ step ∈ steps, step.Quiet := by
    simp [steps, PipelineStep.Quiet]
  have sturdy : able (.of (.memory .empty)) := trivial
  have took : ∀ delivery, (sink delivery).Took able [] := fun delivery =>
    Sink.took_ofStream HostStream.steady_sturdy.watched sturdy keyTemplate delivery default
  obtain ⟨draft, world, ready, came, -⟩ := records_go_to_last_logger
    HostStream.steady_sturdy.watched earlier later ⟨[sink .direct]⟩ quiet start steps calm
  refine ⟨quiet, calm, draft, world, ready, ?_⟩
  intro run
  -- What the run has recorded is computed from the setup.
  have computed :
      (match Draft.follow program .empty start with
        | (.error _, _) => ([], false)
        | (.ok draft, world) =>
          let run := (PipelineRun.start world).run draft.build
            (earlier.flatMap Registration.afters) steps
          (run.records.map keyTemplate.bytes, run.closed)) = (["v\n".toUTF8], true) := by
    cbv
  rw [ready] at computed
  have records : run.records.map keyTemplate.bytes = ["v\n".toUTF8] := congrArg Prod.fst computed
  have closed : run.closed = true := congrArg Prod.snd computed
  have first : Logger.Advances able [] true ⟨[sink .direct]⟩ (run.world.logger ⟨0⟩) :=
    came 0 _ rfl
  have second : Logger.Advances able run.records run.closed ⟨[sink (.batched .zero 100)]⟩
      (run.world.logger ⟨1⟩) :=
    came 1 _ rfl
  constructor
  · obtain ⟨replaced, others, advances, nothing, sinks⟩ := List.forall₂_cons_left_iff.mp first
    obtain rfl := List.forall₂_nil_left_iff.mp nothing
    obtain ⟨taken, -, closings⟩ := advances.took [] (took .direct)
    exact ⟨replaced, sinks, taken, closings⟩
  · obtain ⟨last, others, advances, nothing, sinks⟩ := List.forall₂_cons_left_iff.mp second
    obtain rfl := List.forall₂_nil_left_iff.mp nothing
    obtain ⟨taken, -, closings⟩ := advances.took [] (took (.batched .zero 100))
    refine ⟨last, sinks, ?_, ?_⟩
    · rw [← records]
      exact taken
    · rw [closed] at closings
      exact closings

end Tapline
