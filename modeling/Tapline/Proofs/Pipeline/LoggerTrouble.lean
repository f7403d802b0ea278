import Mathlib.Data.List.Forall2
import Tapline.Handler.Argument
import Tapline.Proofs.Pipeline.Program
import Tapline.Proofs.Pipeline.SideBySide
/-!
# Trouble with loggers

Records are printed on the side. Two pipelines that differ only in their logger, and in whether and
where they print, work alike: whatever their sinks accept, refuse or have closed, the operations of
a program give the same answers, and leave the same spans, trails and metrics. What goes wrong is
noted. A stream that ends the run is noted as well, and nothing is said of what comes after it.

## Main result

`logging_unnoticed`.

## Proof strategy

A world is compared without its loggers, the surroundings of their streams and its notices, and an
operation without its logger. Printing then is a step that does nothing (`unprinted_log`), so it may
be left out of either run wherever it stands (`PrintsApart.kept`). The rest of a call is the same in
both runs, and a program is its calls one after the other (`Likeness.perform`).
-/

namespace Tapline

variable {δ ε υ δ' ε' υ' φ α : Type}

/-! ### Programs of calls -/

/-- One operation of a program, and what happens to its world before. -/
structure Errand (δ ε υ φ α : Type) where
  meanwhile : World δ ε υ → World δ ε υ
  site : CallSite
  work : Context → World δ ε υ → Except φ α × World δ ε υ

def Errand.watched (errand : Errand δ ε υ φ α) : Errand δ ε (υ × List SiteCall) φ α where
  meanwhile world := (errand.meanwhile world.unlogged).logging world.own.2
  site := errand.site
  work := watchWork errand.work

/-- Does the operations of a program, one after the other. -/
def Pipeline.perform (pipeline : Pipeline δ ε υ) (text : φ → String) :
    List (Errand δ ε υ φ α) → World δ ε υ → List (Except φ α) × World δ ε υ
  | [], world => ([], world)
  | errand :: rest, world =>
    let called := errand.site.instrument pipeline text errand.work (errand.meanwhile world)
    let later := perform pipeline text rest called.2
    (called.1 :: later.1, later.2)

namespace Likeness

/-- Operations of two programs that keep a likeness. -/
structure Follows (like : Likeness δ ε υ δ' ε' υ') (pipeline : Pipeline δ ε υ)
    (pipeline' : Pipeline δ' ε' υ') (errand : Errand δ ε υ φ α) (errand' : Errand δ' ε' υ' φ α) :
    Prop where
  meanwhile : ∀ world world', like.world world world' →
    like.world (errand.meanwhile world) (errand'.meanwhile world')
  joins : like.Joins errand.site errand'.site pipeline pipeline' errand.work errand'.work

/-- Programs keep a likeness if their operations do. -/
theorem perform {like : Likeness δ ε υ δ' ε' υ'} {pipeline : Pipeline δ ε υ}
    {pipeline' : Pipeline δ' ε' υ'} (text : φ → String) {errands : List (Errand δ ε υ φ α)}
    {errands' : List (Errand δ' ε' υ' φ α)}
    (follow : List.Forall₂ (like.Follows pipeline pipeline') errands errands')
    {world : World δ ε υ} {world' : World δ' ε' υ'} (alike : like.world world world') :
    (pipeline.perform text errands world).1 = (pipeline'.perform text errands' world').1 ∧
      like.world (pipeline.perform text errands world).2
        (pipeline'.perform text errands' world').2 := by
  induction follow generalizing world world' with
  | nil => exact ⟨rfl, alike⟩
  | cons first _ ih =>
    obtain ⟨answer, called⟩ := first.joins.instrument text (first.meanwhile _ _ alike)
    obtain ⟨answers, worlds⟩ := ih called
    exact ⟨congrArg₂ List.cons answer answers, worlds⟩

end Likeness

open Likeness

/-! ### What logging leaves alone -/

/-- A world without what belongs to logging. -/
def World.unprinted (world : World δ ε υ) : World Unit Unit υ :=
  { world with around := (), loggers := [], notices := [], background := [] }

/-- An operation without its logger. -/
def Operation.silent (op : Operation) : Operation := { op with logger := none }

/-- Runs that may differ in logging. -/
def Likeness.butLogging : Likeness δ ε υ δ ε υ where
  shown := Operation.silent
  world world world' := world.unprinted = world'.unprinted
  context same := congrArg (fun op => op.context) same
  readClocks same := congrArg (fun world => world.readClocks.2) same

/-- A log of calls is no part of logging. -/
theorem logging_butLogging_iff {world world' : World δ ε (υ × List SiteCall)} :
    butLogging.logging.world world world' ↔ world.unprinted = world'.unprinted := by
  have whole : ∀ world : World δ ε (υ × List SiteCall),
      world.unprinted = world.unlogged.unprinted.logging world.own.2 := fun _ => rfl
  constructor
  · rintro ⟨worlds, logs⟩
    have worlds : world.unlogged.unprinted = world'.unlogged.unprinted := worlds
    rw [whole, whole world', worlds, logs]
  · intro same
    exact ⟨congrArg World.unlogged same, congrArg (fun world => world.own.2) same⟩

/-- The run with a log of its calls, and the run without. -/
def Likeness.beside : Likeness δ ε (υ × List SiteCall) δ ε υ where
  shown := id
  world world world' := world.unlogged = world'
  context same := congrArg Operation.context same
  readClocks same := congrArg (fun world => world.readClocks.2) same

theorem silent_opening (site : CallSite) {pipeline pipeline' : Pipeline δ ε υ}
    (defaults : pipeline.defaults = pipeline'.defaults) (began : ClockReading) :
    (site.opening pipeline began).silent = (site.opening pipeline' began).silent := by
  unfold CallSite.opening
  rw [defaults]
  rfl

theorem silent_closing {left left' : Operation} (same : left.silent = left'.silent)
    (error : Option String) (ended : ClockReading) :
    (CallSite.closing left error ended).silent = (CallSite.closing left' error ended).silent := by
  -- Closing takes the logger along, whatever it is.
  have apart : ∀ left : Operation, (CallSite.closing left error ended).silent =
      (CallSite.closing left.silent error ended).silent := by
    intro left
    cases error with
    | none => rfl
    | some message => rfl
  rw [apart, apart left', same]

theorem kept_breadcrumb :
    butLogging.Kept (Handler.breadcrumb Handler.namedCrumb : Handler δ ε υ)
      (.breadcrumb Handler.namedCrumb) := by
  intro op op' world world' shown alike
  have bag : op.bag = op'.bag := congrArg (fun op => op.bag) shown
  have context : op.context = op'.context := butLogging.context shown
  have read : world.readClocks.1 = world'.readClocks.1 :=
    congrArg (fun world => world.readClocks.1) alike
  have left := butLogging.readClocks alike
  unfold Handler.breadcrumb Handler.namedCrumb
  rw [context]
  cases op'.context.trail with
  | none => exact ⟨shown, alike⟩
  | some ref =>
    simp only [read, bag]
    cases Breadcrumb.ofOperation? world'.readClocks.1.wall op'.bag with
    | none => exact ⟨shown, left⟩
    | some crumb =>
      have pushed := congrArg (fun world : World Unit Unit υ => world.pushCrumb ref crumb) left
      exact ⟨shown, pushed⟩

/-! ### Pipelines that print -/

/-- A chain with the places where records are printed: those have no handler of their own. -/
abbrev PrintingChain (δ ε υ : Type) := List (Option (Handler δ ε υ))

namespace PrintingChain

/-- Watches the handlers of a chain, and not where it prints. -/
def watched : (Nat → Operation → SiteCall) → PrintingChain δ ε υ →
    PrintingChain δ ε (υ × List SiteCall)
  | _, [] => []
  | call, none :: rest => none :: watched call rest
  | call, some handler :: rest =>
    some (Handler.watched (call 0) handler) :: watched (fun place => call (place + 1)) rest

/-- Chains that differ at most in where they print. -/
inductive PrintsApart : PrintingChain δ ε υ → PrintingChain δ ε υ → Prop
  | nil : PrintsApart [] []
  | own {chain chain'} (handler : Handler δ ε υ) : PrintsApart chain chain' →
      PrintsApart (some handler :: chain) (some handler :: chain')
  | left {chain chain'} : PrintsApart chain chain' → PrintsApart (none :: chain) chain'
  | right {chain chain'} : PrintsApart chain chain' → PrintsApart chain (none :: chain')

end PrintingChain

/-- A pipeline with the places where it prints. -/
structure PrintingPipeline (δ ε υ : Type) where
  defaults : Bag
  before : PrintingChain δ ε υ
  after : PrintingChain δ ε υ
  logger : Option LoggerRef

namespace PrintingPipeline

/-- Watches what handlers find, but for the logger. -/
def watched (printing : PrintingPipeline δ ε υ) : PrintingPipeline δ ε (υ × List SiteCall) where
  defaults := printing.defaults
  before := printing.before.watched fun place op => .before place op.silent
  after := printing.after.watched fun place op => .after place op.silent
  logger := printing.logger

/-- Pipelines that differ at most in their logger and in where they print, and whose handlers do not
look at logging. -/
structure PrintsApart (printing printing' : PrintingPipeline δ ε υ) : Prop where
  defaults : printing.defaults = printing'.defaults
  before : printing.before.PrintsApart printing'.before
  after : printing.after.PrintsApart printing'.after
  kept : ∀ handler, some handler ∈ printing.before ++ printing.after →
    butLogging.Kept handler handler

end PrintingPipeline

/-- Operations that are the same but for logging, which may be in trouble before and meanwhile. -/
structure Errand.Alike (errand errand' : Errand δ ε υ φ α) : Prop where
  meanwhile : ∀ world, (errand.meanwhile world).unprinted = world.unprinted
  meanwhile' : ∀ world, (errand'.meanwhile world).unprinted = world.unprinted
  site : errand.site = errand'.site
  work : ∀ context world world', world.unprinted = world'.unprinted →
    (errand.work context world).1 = (errand'.work context world').1 ∧
      (errand.work context world).2.unprinted = (errand'.work context world').2.unprinted

/-! ### Printing -/

variable [ByteStream δ ε]

theorem unprinted_log (op : Operation) (world : World δ ε υ) :
    (Handler.log op world).1 = op ∧ (Handler.log op world).2.unprinted = world.unprinted := by
  cases found : op.logger with
  | none =>
    rw [Handler.log_of_none found]
    exact ⟨rfl, rfl⟩
  | some ref =>
    obtain ⟨notices, printed⟩ := Handler.log_of_some found world
    rw [printed]
    exact ⟨rfl, rfl⟩

/-- Printing does not look at what it leaves behind, so it may be watched like any other handler. -/
theorem kept_log : butLogging.Kept (Handler.log : Handler δ ε υ) .log := by
  intro op op' world world' shown alike
  obtain ⟨same, quiet⟩ := unprinted_log op world
  obtain ⟨same', quiet'⟩ := unprinted_log op' world'
  rw [same, same']
  exact ⟨shown, quiet.trans (alike.trans quiet'.symm)⟩

/-- A chain that prints first goes on with the operation that it began with. -/
theorem runHandlers_log (rest : List (Handler δ ε υ)) (op : Operation) (world : World δ ε υ) :
    runHandlers (Handler.log :: rest) op world = runHandlers rest op (Handler.log op world).2 := by
  have step : runHandlers (Handler.log :: rest) op world =
      runHandlers rest (Handler.log op world).1 (Handler.log op world).2 := rfl
  rw [step, (unprinted_log op world).1]

theorem log_logging (op : Operation) (world : World δ ε υ) (calls : List SiteCall) :
    Handler.log op (world.logging calls) =
      ((Handler.log op world).1, (Handler.log op world).2.logging calls) := by
  have printed : ∀ ref, (world.logging calls).print ref op.bag =
      ((world.print ref op.bag).1, (world.print ref op.bag).2.logging calls) := fun _ => rfl
  -- With a logger, the answer of the print decides on one more notice.
  unfold Handler.log
  cases op.logger with
  | none => rfl
  | some ref =>
    simp only [printed]
    generalize world.print ref op.bag = step
    obtain ⟨result, left⟩ := step
    cases result with
    | ok => rfl
    | error cause => rfl

namespace PrintingChain

def handlers (chain : PrintingChain δ ε υ) : List (Handler δ ε υ) :=
  chain.map (·.getD Handler.log)

/-- Where chains print makes no difference but to logging. -/
theorem PrintsApart.kept {chain chain' : PrintingChain δ ε υ} (apart : PrintsApart chain chain')
    (kept : ∀ handler, some handler ∈ chain → butLogging.Kept handler handler)
    (call : Nat → Operation → SiteCall) :
    butLogging.logging.Kept
      (runHandlers (chain.watched fun place op => call place op.silent).handlers)
      (runHandlers (chain'.watched fun place op => call place op.silent).handlers) := by
  -- By induction on how the chains differ. Places are counted over the handlers of their own.
  induction apart generalizing call with
  | nil => exact fun op op' world world' shown alike => ⟨shown, alike⟩
  | own handler _ ih =>
    apply Kept.cons
    · exact (kept handler List.mem_cons_self).watched (call 0)
    · exact ih (fun other member => kept other (List.mem_cons_of_mem _ member))
        fun place => call (place + 1)
  | left _ ih =>
    intro op op' world world' shown alike
    have printed := (unprinted_log op world).2.trans (logging_butLogging_iff.mp alike)
    have later := ih (fun other member => kept other (List.mem_cons_of_mem _ member)) call op op'
      (Handler.log op world).2 world' shown (logging_butLogging_iff.mpr printed)
    rwa [← runHandlers_log] at later
  | right _ ih =>
    intro op op' world world' shown alike
    have printed := (logging_butLogging_iff.mp alike).trans (unprinted_log op' world').2.symm
    have later := ih kept call op op' world (Handler.log op' world').2 shown
      (logging_butLogging_iff.mpr printed)
    rwa [← runHandlers_log] at later

end PrintingChain

/-! ### Watched runs and plain runs -/

theorem PrintingChain.kept_beside (chain : PrintingChain δ ε υ)
    (call : Nat → Operation → SiteCall) :
    beside.Kept (runHandlers (chain.watched call).handlers) (runHandlers chain.handlers) := by
  induction chain generalizing call with
  | nil => exact fun op op' world world' shown alike => ⟨shown, alike⟩
  | cons first rest ih =>
    cases first with
    | none =>
      -- What prints is not watched, and does the same with a log beside it.
      apply Kept.cons
      · rintro op _ world _ rfl rfl
        have printed := log_logging op world.unlogged world.own.2
        have left : (Handler.log op world).2.unlogged = (Handler.log op world.unlogged).2 :=
          congrArg (fun step => World.unlogged step.2) printed
        exact ⟨congrArg Prod.fst printed, left⟩
      · exact ih call
    | some handler =>
      apply Kept.cons
      · rintro op _ world _ rfl rfl
        exact ⟨rfl, rfl⟩
      · exact ih fun place => call (place + 1)

namespace PrintingPipeline

def pipeline (printing : PrintingPipeline δ ε υ) : Pipeline δ ε υ :=
  ⟨printing.defaults, printing.before.handlers, printing.after.handlers, printing.logger⟩

theorem follows_beside (printing : PrintingPipeline δ ε υ) (errand : Errand δ ε υ φ α) :
    beside.Follows printing.watched.pipeline printing.pipeline errand.watched errand := by
  constructor
  · rintro world _ rfl
    rfl
  · constructor
    · exact printing.before.kept_beside _
    · exact printing.after.kept_beside _
    · rintro world _ rfl
      rfl
    · rintro left _ error world _ rfl rfl
      rfl
    · rintro context world _ rfl
      exact ⟨rfl, rfl⟩

/-- The watched run is the plain run with a log. -/
theorem perform_watched (printing : PrintingPipeline δ ε υ) (text : φ → String)
    (errands : List (Errand δ ε υ φ α)) (world : World δ ε υ) :
    let plain := printing.pipeline.perform text errands world
    let watched := printing.watched.pipeline.perform text (errands.map Errand.watched)
      (world.logging [])
    watched = (plain.1, plain.2.logging watched.2.own.2) := by
  intro plain watched
  have follow : List.Forall₂ (beside.Follows printing.watched.pipeline printing.pipeline)
      (errands.map Errand.watched) errands := by
    rw [List.forall₂_map_left_iff, List.forall₂_same]
    exact fun errand _ => printing.follows_beside errand
  have begun : beside.world (world.logging []) world := rfl
  obtain ⟨answers, worlds⟩ := Likeness.perform text follow begun
  have worlds : watched.2.unlogged = plain.2 := worlds
  rw [← worlds]
  exact Prod.ext answers rfl

end PrintingPipeline

theorem PrintingPipeline.PrintsApart.follows {printing printing' : PrintingPipeline δ ε υ}
    (apart : printing.PrintsApart printing') {errand errand' : Errand δ ε υ φ α}
    (alike : errand.Alike errand') :
    butLogging.logging.Follows printing.watched.pipeline printing'.watched.pipeline errand.watched
      errand'.watched := by
  constructor
  · rintro world world' ⟨worlds, logs⟩
    exact ⟨(alike.meanwhile _).trans (worlds.trans (alike.meanwhile' _).symm), logs⟩
  · constructor
    · exact apart.before.kept
        (fun handler member => apart.kept handler (List.mem_append_left _ member)) .before
    · exact apart.after.kept
        (fun handler member => apart.kept handler (List.mem_append_right _ member)) .after
    · rintro world world' ⟨worlds, -⟩
      have began : world.readClocks.1 = world'.readClocks.1 :=
        congrArg (fun world => world.readClocks.1) worlds
      have site : errand.watched.site = errand'.watched.site := alike.site
      rw [began, site]
      exact silent_opening _ apart.defaults _
    · rintro left left' error world world' shown ⟨worlds, -⟩
      have ended : world.readClocks.1 = world'.readClocks.1 :=
        congrArg (fun world => world.readClocks.1) worlds
      rw [ended]
      exact silent_closing shown error _
    · exact work_watchWork alike.work

/-- **Logging goes unnoticed.** Two pipelines that differ in their logger and in where they print do
the operations of a program alike, whatever happens to logging before and meanwhile. They give the
same answers, make the same calls in the same order, with the same work in the same contexts, and
leave the same world but for logging. The logs are those of the plain runs. -/
theorem logging_unnoticed {printing printing' : PrintingPipeline δ ε υ}
    (apart : printing.PrintsApart printing') (text : φ → String)
    {errands errands' : List (Errand δ ε υ φ α)}
    (alike : List.Forall₂ Errand.Alike errands errands')
    {world world' : World δ ε υ} (same : world.unprinted = world'.unprinted) :
    let plain := printing.pipeline.perform text errands world
    let plain' := printing'.pipeline.perform text errands' world'
    let watched := printing.watched.pipeline.perform text (errands.map Errand.watched)
      (world.logging [])
    let watched' := printing'.watched.pipeline.perform text (errands'.map Errand.watched)
      (world'.logging [])
    plain.1 = plain'.1 ∧ plain.2.unprinted = plain'.2.unprinted ∧
      watched.2.own.2 = watched'.2.own.2 ∧
      watched = (plain.1, plain.2.logging watched.2.own.2) ∧
      watched' = (plain'.1, plain'.2.logging watched'.2.own.2) := by
  intro plain plain' watched watched'
  -- The watched runs are compared, and the plain ones are read off them.
  have ran : watched = (plain.1, plain.2.logging watched.2.own.2) :=
    printing.perform_watched text errands world
  have ran' : watched' = (plain'.1, plain'.2.logging watched'.2.own.2) :=
    printing'.perform_watched text errands' world'
  have follow : List.Forall₂ (butLogging.logging.Follows printing.watched.pipeline
      printing'.watched.pipeline) (errands.map Errand.watched) (errands'.map Errand.watched) := by
    rw [List.forall₂_map_left_iff, List.forall₂_map_right_iff]
    exact alike.imp fun _ _ alike => apart.follows alike
  have begin_alike : butLogging.logging.world (world.logging []) (world'.logging []) := ⟨same, rfl⟩
  obtain ⟨answers, worlds, logs⟩ := Likeness.perform text follow begin_alike
  refine ⟨?_, ?_, logs, ran, ran'⟩
  · have answers : watched.1 = watched'.1 := answers
    rwa [ran, ran'] at answers
  · have worlds : watched.2.unlogged.unprinted = watched'.2.unlogged.unprinted := worlds
    rwa [ran, ran'] at worlds

/-- A logger whose stream refuses every record, and that is closed after the first operation,
against no logger at all. -/
theorem refusing_logger_unnoticed :
    let set : Handler HostStream Host Unit := .set "k" (.text "v")
    let crumb : Handler HostStream Host Unit := .breadcrumb Handler.namedCrumb
    let printing : PrintingPipeline HostStream Host Unit :=
      ⟨.empty, [some set], [none, some crumb, some .log], some ⟨0⟩⟩
    let printing' : PrintingPipeline HostStream Host Unit :=
      ⟨.empty, [some set], [some crumb, some .log], none⟩
    let site : CallSite := ⟨Context.background.withTrail ⟨0⟩, "op", "main.rs:3", .empty⟩
    let errand (meanwhile : World HostStream Host Unit → World HostStream Host Unit)
        (answer : Except String Nat) : Errand HostStream Host Unit String Nat :=
      ⟨meanwhile, site, fun _ world => (answer, world)⟩
    let close (world : World HostStream Host Unit) := (world.closeLogger ⟨0⟩).2
    let errands := [errand id (.ok 1), errand close (.error "no")]
    let errands' := [errand id (.ok 1), errand id (.error "no")]
    let bare : World HostStream Host Unit :=
      ((World.fresh default (.counting ⟨0, 0⟩) ()).addTrail 4).2
    let template : Template := ⟨"x", [.literal "x"]⟩
    let sink : Sink HostStream := (Sink.ofStreamIn template .rejecting .direct default).1
    let world := (bare.addLogger ⟨[sink]⟩).2
    let plain := printing.pipeline.perform id errands world
    let plain' := printing'.pipeline.perform id errands' bare
    printing.PrintsApart printing' ∧ List.Forall₂ Errand.Alike errands errands' ∧
      world.unprinted = bare.unprinted ∧
      plain.1 = plain'.1 ∧ plain.2.unprinted = plain'.2.unprinted ∧
      plain.2.notices.length = 8 ∧ plain'.2.notices.length = 0 := by
  intro set crumb printing printing' site errand close errands errands' bare template sink world
    plain plain'
  have apart : printing.PrintsApart printing' := by
    constructor
    · rfl
    · exact .own set .nil
    · exact .left (.own crumb (.own .log .nil))
    · intro handler member
      simp only [printing, List.cons_append, List.nil_append, List.mem_cons, Option.some.injEq,
        List.not_mem_nil, or_false, false_or, reduceCtorEq] at member
      rcases member with rfl | rfl | rfl
      · exact fun op op' world world' shown alike =>
          ⟨congrArg (fun op => op.set "k" (.text "v")) shown, alike⟩
      · exact kept_breadcrumb
      · exact kept_log
  have alike : List.Forall₂ Errand.Alike errands errands' := by
    have answered : ∀ (answer : Except String Nat) (meanwhile : World HostStream Host Unit → _),
        (∀ world, (meanwhile world).unprinted = world.unprinted) →
          (errand meanwhile answer).Alike (errand id answer) :=
      fun answer meanwhile quiet => ⟨quiet, fun _ => rfl, rfl, fun _ _ _ same => ⟨rfl, same⟩⟩
    exact .cons (answered _ _ fun _ => rfl) (.cons (answered _ _ fun _ => rfl) .nil)
  have same : world.unprinted = bare.unprinted := rfl
  obtain ⟨answers, worlds, -⟩ := logging_unnoticed apart id alike same
  refine ⟨apart, alike, same, answers, worlds, ?_, ?_⟩
  · decide +kernel
  · decide +kernel

end Tapline
