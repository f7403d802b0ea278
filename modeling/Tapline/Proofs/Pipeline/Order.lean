import Mathlib
import Tapline.Handler.Argument
import Tapline.Proofs.Pipeline.CallSite
import Tapline.Proofs.Pipeline.Program
/-!
# The order of handlers

A program sets a pipeline up by registrations of many sorts: handlers for one chain or for both,
spans, metrics, breadcrumbs, and a logger that is handed over or opened from settings. Each of them
adds its own handlers at the end of the chains, so a chain holds those of all registrations in their
order. A run calls each of them once, on what the one before it has left, and the body between the
two chains.

## Main result

`handlers_in_order`, for every program and every run of a hook of its pipeline.

## Proof strategy

One lemma says all that a registration can come to (`Draft.perform_cases`): it adds its handlers, or
it fails because records are printed already or because a logger cannot be opened. By induction a
program adds the handlers of all its registrations, or stops at the first that fails
(`Draft.performAll_cases`). The run is watched as at a call site, with the body in the place of the
work.
-/

namespace Tapline

/-! ### Programs -/

/-- A registration of any sort. -/
inductive SetupStep (υ : Type) where
  | plain (registration : Registration HostStream Host υ)
  | around (before after : Handler HostStream Host υ)
  | counter (metric : MetricRef) (labels : Handler.Labels)
  | histogram (metric : MetricRef) (labels : Handler.Labels)
  | breadcrumbs (crumbOf : Handler.CrumbOf)
  | opening (settings : Settings) (registry : Registry)

section Programs

variable {υ : Type}

namespace SetupStep

def befores : SetupStep υ → List (Handler HostStream Host υ)
  | plain registration => registration.befores
  | around before _ => [before]
  | counter metric labels => [.count metric labels]
  | histogram .. | breadcrumbs _ | opening .. => []

def afters : SetupStep υ → List (Handler HostStream Host υ)
  | plain registration => registration.afters
  | around _ after => [after]
  | counter .. => []
  | histogram metric labels => [.observeDuration metric labels]
  | breadcrumbs crumbOf => [.breadcrumb crumbOf]
  | opening .. => [.log]

def isPrinting : SetupStep υ → Bool
  | plain registration => registration.isPrinting
  | opening .. => true
  | around .. | counter .. | histogram .. | breadcrumbs _ => false

/-- Why a registration fails: records are printed already, or its logger cannot be opened. -/
def Refused (step : SetupStep υ) (prints : Bool) (world : World HostStream Host υ)
    (cause : PipelineError) : Prop :=
  (prints = true ∧ step.isPrinting = true ∧ cause = .setup .duplicateLogHook) ∨
  (prints = false ∧ ∃ settings registry, step = .opening settings registry ∧
    (world.openLogger settings registry).1 = .error cause)

end SetupStep

namespace Draft

variable (draft : Draft HostStream Host υ) (world : World HostStream Host υ)

def perform : SetupStep υ → Except PipelineError (Draft HostStream Host υ) × World HostStream Host υ
  | .plain registration =>
    let (result, world) := draft.register world registration
    (result.mapError .setup, world)
  | .around before after => (.ok (draft.addAround before after), world)
  | .counter metric labels => (.ok (draft.addCounter metric labels), world)
  | .histogram metric labels => (.ok (draft.addHistogram metric labels), world)
  | .breadcrumbs crumbOf => (.ok (draft.addBreadcrumbs crumbOf), world)
  | .opening settings registry => draft.printByOpening settings registry world

/-- Performs the steps of a program, up to one that fails. -/
def performAll : List (SetupStep υ) → Draft HostStream Host υ → World HostStream Host υ →
    Except PipelineError (Draft HostStream Host υ) × World HostStream Host υ
  | [], draft, world => (.ok draft, world)
  | step :: rest, draft, world =>
    match draft.perform world step with
    | (.error cause, world) => (.error cause, world)
    | (.ok draft, world) => performAll rest draft world

/-- A draft with the handlers of a registration besides its own. -/
structure Adds (step : SetupStep υ) (next : Draft HostStream Host υ) : Prop where
  before : next.before = draft.before ++ step.befores
  after : next.after = draft.after ++ step.afters
  prints : next.prints = (draft.prints || step.isPrinting)
  once : (draft.prints && step.isPrinting) = false

theorem adds_of_opened {settings : Settings} {registry : Registry}
    {logger : Logger HostStream} {opened : World HostStream Host υ}
    (opening : world.openLogger settings registry = (.ok logger, opened))
    (first : draft.prints = false) :
    ∃ next, (draft.printByOpening settings registry world).1 = .ok next ∧
      draft.Adds (.opening settings registry) next := by
  simp only [printByOpening, first, Bool.false_eq_true, if_false, opening, printThrough]
  refine ⟨_, rfl, (List.append_nil _).symm, rfl, ?_, ?_⟩
  · exact (Bool.or_true _).symm
  · rw [first, Bool.false_and]

/-- A registration adds its handlers, or it is refused. -/
theorem perform_cases (step : SetupStep υ) :
    (∃ next, (draft.perform world step).1 = .ok next ∧ draft.Adds step next) ∨
    ∃ cause, (draft.perform world step).1 = .error cause ∧
      step.Refused draft.prints world cause := by
  cases step with
  | plain registration =>
    cases twice : draft.prints && registration.isPrinting with
    | false =>
      obtain ⟨next, added, before, after, prints⟩ := draft.register_ok world registration twice
      refine .inl ⟨next, ?_, before, after, prints, twice⟩
      simp only [perform, added, Except.mapError]
    | true =>
      obtain ⟨prints, again⟩ := Bool.and_eq_true_iff.mp twice
      refine .inr ⟨.setup .duplicateLogHook, ?_, .inl ⟨prints, again, rfl⟩⟩
      simp only [perform, register_error world twice, Except.mapError]
  | around before after =>
    exact .inl ⟨_, rfl, rfl, rfl, (Bool.or_false _).symm, Bool.and_false _⟩
  | counter metric labels =>
    exact .inl ⟨_, rfl, rfl, (List.append_nil _).symm, (Bool.or_false _).symm, Bool.and_false _⟩
  | histogram metric labels =>
    exact .inl ⟨_, rfl, (List.append_nil _).symm, rfl, (Bool.or_false _).symm, Bool.and_false _⟩
  | breadcrumbs crumbOf =>
    exact .inl ⟨_, rfl, (List.append_nil _).symm, rfl, (Bool.or_false _).symm, Bool.and_false _⟩
  | opening settings registry =>
    cases prints : draft.prints with
    | true =>
      refine .inr ⟨.setup .duplicateLogHook, ?_, .inl ⟨rfl, rfl, rfl⟩⟩
      simp only [perform, printByOpening, prints, if_true]
    | false =>
      cases opening : world.openLogger settings registry with
      | mk result opened =>
        cases result with
        | ok logger => exact .inl (draft.adds_of_opened world opening prints)
        | error cause =>
          refine .inr ⟨cause, ?_, .inr ⟨rfl, settings, registry, rfl, congrArg Prod.fst opening⟩⟩
          simp only [perform, printByOpening, prints, Bool.false_eq_true, if_false, opening]

variable {draft world} in
theorem performAll_of_ok {step : SetupStep υ} {middle : Draft HostStream Host υ}
    (performed : (draft.perform world step).1 = .ok middle) (rest : List (SetupStep υ)) :
    performAll (step :: rest) draft world =
      performAll rest middle (draft.perform world step).2 := by
  rw [performAll]
  generalize draft.perform world step = taken at *
  obtain ⟨result, left⟩ := taken
  obtain rfl : result = .ok middle := performed
  rfl

variable {draft world} in
theorem performAll_of_error {step : SetupStep υ} {cause : PipelineError}
    (failed : (draft.perform world step).1 = .error cause) (rest : List (SetupStep υ)) :
    performAll (step :: rest) draft world = (.error cause, (draft.perform world step).2) := by
  rw [performAll]
  generalize draft.perform world step = taken at *
  obtain ⟨result, left⟩ := taken
  obtain rfl : result = .error cause := failed
  rfl

/-- A program adds the handlers of its registrations in their order, or it stops at one that is
refused. -/
theorem performAll_cases (program : List (SetupStep υ)) :
    (∃ next, (performAll program draft world).1 = .ok next ∧
      next.before = draft.before ++ program.flatMap SetupStep.befores ∧
      next.after = draft.after ++ program.flatMap SetupStep.afters ∧
      next.prints = (draft.prints || program.any SetupStep.isPrinting) ∧
      program.countP SetupStep.isPrinting + draft.prints.toNat ≤ 1) ∨
    ∃ earlier step later reached cause, program = earlier ++ step :: later ∧
      (performAll earlier draft world).1 = .ok reached ∧
      (performAll program draft world).1 = .error cause ∧
      step.Refused reached.prints (performAll earlier draft world).2 cause := by
  induction program generalizing draft world with
  | nil =>
    refine .inl ⟨draft, rfl, ?_⟩
    simpa using Bool.toNat_le draft.prints
  | cons step rest ih =>
    rcases draft.perform_cases world step with ⟨middle, performed, adds⟩ | ⟨cause, failed, refused⟩
    · -- What holds of the rest, begun with the step's handlers, holds of the whole.
      have goes := performAll_of_ok performed
      rcases ih middle (draft.perform world step).2 with
        ⟨next, succeeded, before, after, prints, once⟩ |
        ⟨earlier, other, later, reached, cause, split, reaches, failed, refused⟩
      · refine .inl ⟨next, by rw [goes, succeeded], ?_, ?_, ?_, ?_⟩
        · rw [before, adds.before, List.flatMap_cons, List.append_assoc]
        · rw [after, adds.after, List.flatMap_cons, List.append_assoc]
        · rw [prints, adds.prints, List.any_cons, Bool.or_assoc]
        · have first := adds.once
          rw [adds.prints] at once
          rw [List.countP_cons]
          cases printed : draft.prints <;> cases printing : step.isPrinting <;>
            simp [printed, printing] at first once ⊢ <;> omega
      · refine .inr ⟨step :: earlier, other, later, reached, cause, by rw [split]; rfl, ?_, ?_, ?_⟩
        · rw [goes, reaches]
        · rw [goes, failed]
        · rwa [goes]
    · refine .inr ⟨[], step, rest, draft, cause, rfl, rfl, ?_, refused⟩
      rw [performAll_of_error failed]

variable {draft world}

theorem prints_of_performAll {program : List (SetupStep υ)} {reached : Draft HostStream Host υ}
    (reaches : (performAll program draft world).1 = .ok reached) :
    reached.prints = (draft.prints || program.any SetupStep.isPrinting) := by
  rcases performAll_cases draft world program with
    ⟨next, succeeded, -, -, prints, -⟩ | ⟨_, _, _, _, cause, -, -, failed, -⟩
  · obtain rfl := Except.ok.inj (succeeded.symm.trans reaches)
    exact prints
  · exact nomatch failed.symm.trans reaches

/-- Where records are printed already, a program that asks for it again goes no further. -/
theorem performAll_of_again {second : SetupStep υ} (printing : draft.prints = true)
    (again : second.isPrinting = true) (later : List (SetupStep υ)) :
    (performAll (second :: later) draft world).1 = .error (.setup .duplicateLogHook) := by
  rcases draft.perform_cases world second with
    ⟨next, -, adds⟩ | ⟨cause, failed, ⟨-, -, rfl⟩ | ⟨first, -⟩⟩
  · have once := adds.once
    rw [printing, again] at once
    cases once
  · rw [performAll_of_error failed]
  · exact nomatch printing.symm.trans first

theorem performAll_append (earlier later : List (SetupStep υ)) {reached : Draft HostStream Host υ}
    (reaches : (performAll earlier draft world).1 = .ok reached) :
    performAll (earlier ++ later) draft world =
      performAll later reached (performAll earlier draft world).2 := by
  -- The first part does not fail, so no step of it is left out.
  induction earlier generalizing draft world with
  | nil =>
    obtain rfl : draft = reached := Except.ok.inj reaches
    rfl
  | cons step rest ih =>
    cases performed : (draft.perform world step).1 with
    | error cause =>
      rw [performAll_of_error performed] at reaches
      cases reaches
    | ok middle =>
      rw [performAll_of_ok performed] at reaches
      rw [List.cons_append, performAll_of_ok performed, performAll_of_ok performed]
      exact ih reaches

end Draft

end Programs

/-! ### Runs -/

namespace Hook

variable {δ ε υ α : Type}

/-- A hook whose handlers are watched. -/
def watched (hook : Hook δ ε υ) : Hook δ ε (υ × List SiteCall) :=
  ⟨hook.operation, watchChain .before hook.before, watchChain .after hook.after⟩

/-- A body that does not replace the hook by one with other chains. -/
def KeepsChains (body : Hook δ ε υ → World δ ε υ → α × Hook δ ε υ × World δ ε υ) : Prop :=
  ∀ hook world, (body hook world).2.1.before = hook.before ∧
    (body hook world).2.1.after = hook.after

/-- Does the body of a run, which knows nothing of the log, and adds it to the log. -/
def watchBody (hook : Hook δ ε υ)
    (body : Hook δ ε υ → World δ ε υ → α × Hook δ ε υ × World δ ε υ) :
    Hook δ ε (υ × List SiteCall) → World δ ε (υ × List SiteCall) →
      α × Hook δ ε (υ × List SiteCall) × World δ ε (υ × List SiteCall) :=
  fun found world =>
    let done := body { hook with operation := found.operation } world.unlogged
    (done.1, { found with operation := done.2.1.operation },
      done.2.2.logging (world.own.2 ++ [.work found.operation.context]))

end Hook

section Runs

variable {δ ε υ α : Type}

/-- Each handler of a chain finds what those before it leave. -/
theorem getElem?_foundBy (handlers : List (Handler δ ε υ)) (op : Operation) (world : World δ ε υ)
    {n : Nat} (inside : n < handlers.length) :
    (foundBy handlers op world)[n]? = some (runHandlers (handlers.take n) op world).1 := by
  induction handlers generalizing op world n with
  | nil => cases inside
  | cons handler rest ih =>
    cases n with
    | zero => rfl
    | succ n => exact ih _ _ (Nat.lt_of_succ_lt_succ inside)

theorem runChain_watchChain (call : Nat → Operation → SiteCall) (handlers : List (Handler δ ε υ))
    (op : Operation) (world : World δ ε υ) (log : List SiteCall) :
    runChain (watchChain call handlers) op (world.logging log) =
      ((runChain handlers op world).1, (runChain handlers op world).2.logging
        (log ++ (foundBy handlers op.setRequestArgs world).mapIdx call)) :=
  runHandlers_watchChain call handlers op.setRequestArgs world log

namespace Hook

variable {body : Hook δ ε υ → World δ ε υ → α × Hook δ ε υ × World δ ε υ} {hook : Hook δ ε υ}
  {befores afters : List (Handler δ ε υ)}

theorem run_of_keepsChains (keeps : KeepsChains body) (before : hook.before = befores)
    (after : hook.after = afters) (world : World δ ε υ) :
    let ready := runChain befores hook.operation world
    let done := body { hook with operation := ready.1 } ready.2
    let ended := runChain afters done.2.1.operation done.2.2
    hook.run world body = (done.1, { hook with operation := ended.1 }, ended.2) := by
  subst before after
  intro ready done ended
  obtain ⟨before, after⟩ : done.2.1.before = hook.before ∧ done.2.1.after = hook.after :=
    keeps { hook with operation := ready.1 } ready.2
  have ran : hook.run world body = (done.1, done.2.1.runAfter done.2.2) := rfl
  rw [ran, runAfter, before, after]

theorem run_watched (before : hook.before = befores) (after : hook.after = afters)
    (world : World δ ε υ) :
    let ready := runChain befores hook.operation world
    let done := body { hook with operation := ready.1 } ready.2
    let ended := runChain afters done.2.1.operation done.2.2
    hook.watched.run (world.logging []) (hook.watchBody body) =
      (done.1, watched { hook with operation := ended.1 }, ended.2.logging
        ((foundBy befores hook.operation.setRequestArgs world).mapIdx .before ++
          [.work ready.1.context] ++
          (foundBy afters done.2.1.operation.setRequestArgs done.2.2).mapIdx .after)) := by
  subst before after
  intro ready done ended
  let earlier := foundBy hook.before hook.operation.setRequestArgs world
  have entered := runChain_watchChain .before hook.before hook.operation world []
  have begun : hook.watched.runBefore (world.logging []) =
      ({ hook.watched with operation := ready.1 }, ready.2.logging (earlier.mapIdx .before)) :=
    congrArg (fun state => ({ hook.watched with operation := state.1 }, state.2)) entered
  -- The body is done in the world without the log, so it finds what it would find unwatched.
  have worked : ∀ log, hook.watchBody body { hook.watched with operation := ready.1 }
      (ready.2.logging log) = (done.1, { hook.watched with operation := done.2.1.operation },
        done.2.2.logging (log ++ [.work ready.1.context])) := fun _ => rfl
  have left := runChain_watchChain .after hook.after done.2.1.operation done.2.2
    (earlier.mapIdx .before ++ [.work ready.1.context])
  simp only [run, begun, worked]
  exact congrArg (fun state => (done.1, watched { hook with operation := state.1 }, state.2)) left

end Hook

/-- **Handlers run in the order of registration, each once.** If a program succeeds, it has asked
for records at most once, and the chains of its pipeline are the handlers of its registrations in
their order. A run of a hook that the pipeline makes, whatever has become of its operation, calls
just these handlers, each once and on what those before it leave, with one call of the body between
the two chains; so many calls are made as the chains have handlers. A second registration for
records is refused wherever it stands, and nothing else fails but opening a logger. -/
theorem handlers_in_order (program : List (SetupStep υ)) (start : World HostStream Host υ) :
    let befores := program.flatMap SetupStep.befores
    let afters := program.flatMap SetupStep.afters
    let outcome := Draft.performAll program .empty start
    (∀ draft, outcome.1 = .ok draft →
      program.countP SetupStep.isPrinting ≤ 1 ∧
      draft.build.before = befores ∧ draft.build.after = afters ∧
      ∀ (history : List (String × Value)) (context : Context) (op : Operation) (α : Type)
        (body : Hook HostStream Host υ → World HostStream Host υ →
          α × Hook HostStream Host υ × World HostStream Host υ)
        (world : World HostStream Host υ), Hook.KeepsChains body →
        let hook := { (draft.build.setDefaults history).hook context with operation := op }
        let ready := runChain befores op world
        let done := body { hook with operation := ready.1 } ready.2
        let ended := runChain afters done.2.1.operation done.2.2
        let plain := hook.run world body
        plain = (done.1, { hook with operation := ended.1 }, ended.2) ∧
        ∃ earlier later : List Operation,
          hook.watched.run (world.logging []) (hook.watchBody body) =
            (plain.1, plain.2.1.watched, plain.2.2.logging (earlier.mapIdx .before ++
              [.work ready.1.context] ++ later.mapIdx .after)) ∧
          earlier.length = draft.build.before.length ∧ later.length = draft.build.after.length ∧
          (∀ n < earlier.length, earlier[n]? = some (runChain (befores.take n) op world).1) ∧
          (∀ n < later.length, later[n]? =
            some (runChain (afters.take n) done.2.1.operation done.2.2).1)) ∧
    (∀ earlier second later reached, program = earlier ++ second :: later →
      (Draft.performAll earlier .empty start).1 = .ok reached →
      earlier.any SetupStep.isPrinting = true → second.isPrinting = true →
      outcome.1 = .error (.setup .duplicateLogHook)) ∧
    (∀ cause, outcome.1 = .error cause → ∃ earlier step later reached,
      program = earlier ++ step :: later ∧
      (Draft.performAll earlier .empty start).1 = .ok reached ∧
      step.Refused (earlier.any SetupStep.isPrinting) (Draft.performAll earlier .empty start).2
        cause) := by
  intro befores afters outcome
  refine ⟨?_, ?_, ?_⟩
  · intro draft succeeded
    rcases Draft.performAll_cases .empty start program with
      ⟨next, reaches, before, after, -, once⟩ | ⟨_, _, _, _, cause, -, -, failed, -⟩
    · obtain rfl := Except.ok.inj (reaches.symm.trans succeeded)
      have before : next.build.before = befores := before
      have after : next.build.after = afters := after
      refine ⟨once, before, after, ?_⟩
      intro history context op α body world keeps hook ready done ended plain
      have chains : hook.before = befores ∧ hook.after = afters := by
        simp only [hook, Pipeline.setDefaults_eq, Pipeline.hook]
        exact ⟨before, after⟩
      have ran : plain = (done.1, { hook with operation := ended.1 }, ended.2) :=
        Hook.run_of_keepsChains keeps chains.1 chains.2 world
      refine ⟨ran, foundBy befores op.setRequestArgs world,
        foundBy afters done.2.1.operation.setRequestArgs done.2.2, ?_, ?_, ?_, ?_, ?_⟩
      · rw [ran]
        exact Hook.run_watched chains.1 chains.2 world
      · rw [before]
        exact length_foundBy _ _ _
      · rw [after]
        exact length_foundBy _ _ _
      · intro n inside
        rw [length_foundBy] at inside
        exact getElem?_foundBy _ _ _ inside
      · intro n inside
        rw [length_foundBy] at inside
        exact getElem?_foundBy _ _ _ inside
    · exact nomatch failed.symm.trans succeeded
  · intro earlier second later reached split reaches again twice
    -- The draft that the earlier steps reach prints, so the second request is refused.
    have printing : reached.prints = true := by
      rw [Draft.prints_of_performAll reaches, again, Bool.or_true]
    simp only [outcome, split]
    rw [Draft.performAll_append earlier _ reaches]
    exact Draft.performAll_of_again printing twice later
  · intro cause failed
    rcases Draft.performAll_cases .empty start program with
      ⟨next, succeeded, -⟩ | ⟨earlier, step, later, reached, other, split, reaches, fails, refused⟩
    · exact nomatch succeeded.symm.trans failed
    · obtain rfl := Except.error.inj (fails.symm.trans failed)
      rw [Draft.prints_of_performAll reaches] at refused
      exact ⟨earlier, step, later, reached, split, reaches, refused⟩

/-- Registrations of every sort but installing a logger. A handler before the body copies what
another one has set, and one after it what the body has set. Asking for records again is refused,
also with settings that cannot work. -/
theorem order_of_many_registrations :
    let quiet : Handler.SpanRemark HostStream Host Unit := fun _ _ world => world
    let settings : Settings := { Settings.standard with stdout := false }
    let program : List (SetupStep Unit) :=
      [.plain (.before (.set "a" (.int 1))), .around (.copy "a" "b") (.copy "rows" "seen"),
        .plain (.default "kind" (.text "read")),
        .plain (.tracing (fun _ => "work") quiet quiet), .opening settings .standard,
        .counter ⟨0⟩ (Handler.labelsFrom ["kind"]), .histogram ⟨0⟩ (Handler.labelsFrom ["kind"]),
        .breadcrumbs Handler.namedCrumb]
    let again : SetupStep Unit :=
      .opening { settings with asyncFlush := true, flushMillis := 0 } .standard
    let start : World HostStream Host Unit := .fresh default (.counting ⟨0, 0⟩) ()
    let body : Hook HostStream Host Unit → World HostStream Host Unit →
        Nat × Hook HostStream Host Unit × World HostStream Host Unit := fun hook world =>
      (3, { hook with operation := (hook.operation.set "rows" (.int 3)) }, world)
    Hook.KeepsChains body ∧
    (Draft.performAll (program ++ [again]) .empty start).1 = .error (.setup .duplicateLogHook) ∧
    ∃ draft, (Draft.performAll program .empty start).1 = .ok draft ∧
      draft.build.before.length = 4 ∧ draft.build.after.length = 5 ∧
      let hook := { draft.build.hook .background with operation := .inContext .background }
      ∃ (earlier later : List Operation) (context : Context),
        (hook.watched.run (start.logging []) (hook.watchBody body)).2.2.own.2 =
          earlier.mapIdx .before ++ [.work context] ++ later.mapIdx .after ∧
        (hook.run start body).1 = 3 ∧ earlier.length = 4 ∧ later.length = 5 ∧
        (earlier[2]?.bind (·.bag.get? "b")) = some (.int 1) ∧
        (later[1]?.bind (·.bag.get? "seen")) = some (.int 3) := by
  intro quiet settings program again start body
  have keeps : Hook.KeepsChains body := fun _ _ => ⟨rfl, rfl⟩
  obtain ⟨draft, ready⟩ : ∃ draft, (Draft.performAll program .empty start).1 = .ok draft :=
    ⟨_, rfl⟩
  obtain ⟨-, before, after, runs⟩ := (handlers_in_order program start).1 draft ready
  obtain ⟨-, twice, -⟩ := handlers_in_order (program ++ [again]) start
  have refused := twice program again [] draft rfl ready rfl rfl
  refine ⟨keeps, refused, draft, ready, congrArg List.length before, congrArg List.length after, ?_⟩
  intro hook
  obtain ⟨ran, earlier, later, log, number, number', found, found'⟩ :=
    runs [] .background (.inContext .background) Nat body start keeps
  rw [before] at number
  rw [after] at number'
  refine ⟨earlier, later, _, congrArg (fun state => state.2.2.own.2) log,
    congrArg Prod.fst ran, number, number', ?_, ?_⟩
  · rw [found 2 (by rw [number]; decide)]
    rfl
  · rw [found' 1 (by rw [number']; decide)]
    cbv

end Runs

end Tapline
