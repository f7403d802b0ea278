import Tapline.Proofs.Pipeline.Loggers
/-!
# Programs that print once

A program that prints once may install other loggers before and after. Each time, the logger that
is replaced is closed, so that in the end all are but the last (`Installs`). Its other handlers
are taken to be quiet: they neither change the logger of an operation nor call one.
-/

namespace Tapline

variable {δ ε υ : Type}

/-! ### Handlers that do not print -/

/-- A handler that neither changes the logger of its operation nor calls one. -/
structure Handler.Quiet (handler : Handler δ ε υ) : Prop where
  logger : ∀ op world, (handler op world).1.logger = op.logger
  loggers : ∀ op world, (handler op world).2.loggers = world.loggers

/-- A program's own remark on a span that calls no logger. -/
def Handler.QuietRemark (remark : Handler.SpanRemark δ ε υ) : Prop :=
  ∀ span op world, (remark span op world).loggers = world.loggers

/-- A registration that is not for printing, and whose handlers do not print. -/
def Registration.Quiet : Registration δ ε υ → Prop
  | before handler | after handler => handler.Quiet
  | tracing _ onStart onFinish => Handler.QuietRemark onStart ∧ Handler.QuietRemark onFinish
  | default .. | installing _ => True
  | printing _ => False

theorem Handler.quiet_openSpan (name : Operation → String) {onStart : Handler.SpanRemark δ ε υ}
    (quiet : Handler.QuietRemark onStart) : (Handler.openSpan name onStart).Quiet := by
  refine ⟨fun op world => ?_, fun op world => ?_⟩
  · unfold openSpan
    split <;> rfl
  · unfold openSpan
    split
    · rfl
    · exact quiet _ _ _

theorem Handler.quiet_closeSpan {onFinish : Handler.SpanRemark δ ε υ}
    (quiet : Handler.QuietRemark onFinish) : (Handler.closeSpan onFinish).Quiet := by
  refine ⟨fun op world => ?_, fun op world => ?_⟩
  · unfold closeSpan
    split <;> rfl
  · unfold closeSpan
    split
    · rfl
    · refine (quiet _ _ _).trans ?_
      simp only
      split <;> rfl

theorem Registration.Quiet.befores {registration : Registration δ ε υ}
    (quiet : registration.Quiet) : ∀ handler ∈ registration.befores, handler.Quiet := by
  intro handler member
  cases registration with
  | before own => exact List.mem_singleton.mp member ▸ quiet
  | tracing name onStart onFinish =>
    exact List.mem_singleton.mp member ▸ Handler.quiet_openSpan name quiet.1
  | _ => exact absurd member List.not_mem_nil

theorem Registration.Quiet.afters [ByteStream δ ε] {registration : Registration δ ε υ}
    (quiet : registration.Quiet) : ∀ handler ∈ registration.afters, handler.Quiet := by
  intro handler member
  cases registration with
  | after own => exact List.mem_singleton.mp member ▸ quiet
  | tracing name onStart onFinish =>
    exact List.mem_singleton.mp member ▸ Handler.quiet_closeSpan quiet.2
  | printing => exact quiet.elim
  | _ => exact absurd member List.not_mem_nil

theorem quiet_runHandlers {handlers : List (Handler δ ε υ)}
    (quiet : ∀ handler ∈ handlers, handler.Quiet) (op : Operation) (world : World δ ε υ) :
    (runHandlers handlers op world).1.logger = op.logger ∧
      (runHandlers handlers op world).2.loggers = world.loggers := by
  induction handlers generalizing op world with
  | nil => exact ⟨rfl, rfl⟩
  | cons handler rest ih =>
    have first := quiet handler List.mem_cons_self
    obtain ⟨logger, loggers⟩ := ih (fun other member => quiet other (List.mem_cons_of_mem _ member))
      (handler op world).1 (handler op world).2
    exact ⟨logger.trans (first.logger op world), loggers.trans (first.loggers op world)⟩

/-! ### Programs that print once -/

section

variable {earlier later : List (Registration δ ε υ)}

theorem countP_isPrinting (quiet : ∀ registration ∈ earlier ++ later, registration.Quiet)
    (printed : Logger δ) :
    (earlier ++ .printing printed :: later).countP Registration.isPrinting = 1 := by
  have notPrinting : ∀ registration ∈ earlier ++ later, ¬ registration.isPrinting = true := by
    intro registration member printing
    have calm := quiet registration member
    cases registration with
    | printing => exact calm.elim
    | _ => exact Bool.noConfusion printing
  have none_before : earlier.countP Registration.isPrinting = 0 :=
    List.countP_eq_zero.mpr fun registration member =>
      notPrinting registration (List.mem_append_left later member)
  have none_after : later.countP Registration.isPrinting = 0 :=
    List.countP_eq_zero.mpr fun registration member =>
      notPrinting registration (List.mem_append_right earlier member)
  rw [List.countP_append, none_before, List.countP_cons_of_pos rfl, none_after]

theorem quiet_befores (quiet : ∀ registration ∈ earlier ++ later, registration.Quiet)
    (printed : Logger δ) :
    ∀ handler ∈ (earlier ++ .printing printed :: later).flatMap Registration.befores,
      handler.Quiet := by
  have same : (earlier ++ .printing printed :: later).flatMap Registration.befores =
      (earlier ++ later).flatMap Registration.befores := by
    simp [Registration.befores]
  rw [same]
  intro handler member
  obtain ⟨registration, inside, own⟩ := List.mem_flatMap.mp member
  exact (quiet registration inside).befores handler own

theorem quiet_afters [ByteStream δ ε]
    (quiet : ∀ registration ∈ earlier ++ later, registration.Quiet) :
    ∀ handler ∈ earlier.flatMap Registration.afters ++ later.flatMap Registration.afters,
      handler.Quiet := by
  rw [← List.flatMap_append]
  intro handler member
  obtain ⟨registration, inside, own⟩ := List.mem_flatMap.mp member
  exact (quiet registration inside).afters handler own

end

/-! ### Setting up -/

section

variable {able : Watched δ → Prop}

/-- A draft that has installed some loggers in a world: the last of them is the draft's own, and
the others are closed. -/
structure Draft.Installs (able : Watched δ → Prop) (base : Nat)
    (installed : List (Logger (Watched δ))) (draft : Draft (Watched δ) ε υ)
    (world : World (Watched δ) ε υ) : Prop where
  count : world.loggers.length = base + installed.length
  last : ∀ n, draft.logger = some ⟨base + n⟩ ↔ n + 1 = installed.length
  came : ∀ (n : Nat) (logger : Logger (Watched δ)), installed[n]? = some logger →
    logger.Advances able [] (decide (n + 1 < installed.length)) (world.logger ⟨base + n⟩)

variable {base : Nat} {installed : List (Logger (Watched δ))} {draft next : Draft (Watched δ) ε υ}
  {world after : World (Watched δ) ε υ}

/-- Installing a logger closes the one before it. -/
theorem Draft.Installs.add (installs : draft.Installs able base installed world)
    {logger : Logger (Watched δ)} (own : next.logger = some ⟨world.loggers.length⟩)
    (closes : World.Closes able draft.logger (world.addLogger logger).2 after) :
    next.Installs able base (installed ++ [logger]) after := by
  refine ⟨?_, fun n => ?_, fun n other found => ?_⟩
  · rw [closes.count, List.length_append, List.length_singleton, ← Nat.add_assoc, ← installs.count]
    exact List.length_append
  · rw [own, installs.count, List.length_append, List.length_singleton, Option.some.injEq,
      LoggerRef.mk.injEq]
    omega
  · have inside : n < installed.length + 1 := by
      have bound := (List.getElem?_eq_some_iff.mp found).1
      rwa [List.length_append, List.length_singleton] at bound
    have closed := closes.logger (base + n)
    rw [List.length_append, List.length_singleton]
    rcases Nat.lt_succ_iff_lt_or_eq.mp inside with earlier | rfl
    · -- The one that was the last until now is closed, and the others were closed before.
      rw [List.getElem?_append_left earlier] at found
      rw [world.logger_addLogger logger (by rw [installs.count]; omega)] at closed
      have both := (installs.came n other found).trans closed
      have shut : (decide (n + 1 < installed.length) ||
          decide (draft.logger = some ⟨base + n⟩)) = decide (n + 1 < installed.length + 1) := by
        simp only [installs.last n]
        rw [← Bool.decide_or]
        exact decide_eq_decide.mpr (by omega)
      rw [shut, List.nil_append, ite_self] at both
      exact both
    · rw [List.getElem?_concat_length, Option.some.injEq] at found
      subst found
      rw [← installs.count, world.logger_addLogger_self logger] at closed
      have open' : decide (draft.logger = some ⟨world.loggers.length⟩) = false := by
        rw [installs.count, decide_eq_false_iff_not, installs.last]
        exact Nat.succ_ne_self _
      rw [open'] at closed
      rw [← installs.count, decide_eq_false (Nat.lt_irrefl _)]
      exact closed

variable [ByteStream δ ε]

theorem closes_drop (steady : Steady able) (draft : Draft (Watched δ) ε υ)
    (world : World (Watched δ) ε υ) :
    World.Closes able draft.logger world (draft.drop world) := by
  unfold Pipeline.drop
  cases draft.logger with
  | none => exact .of_none rfl
  | some ref => exact .of_onLogger (Logger.advances_drop steady) world ref

theorem closes_setLogger (steady : Steady able) (draft : Draft (Watched δ) ε υ)
    (logger : Logger (Watched δ)) (world : World (Watched δ) ε υ) :
    World.Closes able draft.logger (world.addLogger logger).2 (draft.setLogger logger world).2 := by
  unfold Draft.setLogger
  cases older : draft.logger with
  | none => exact .of_none rfl
  | some ref =>
    have closes : World.Closes able (some ref) (world.addLogger logger).2
        ((world.addLogger logger).2.closeLogger ref).2 :=
      .of_onLogger (Logger.advances_close steady) _ ref
    simp only
    generalize (world.addLogger logger).2.closeLogger ref = closed at *
    obtain ⟨result, left⟩ := closed
    cases result with
    | ok => exact closes.trans (.of_onLogger (Logger.advances_drop steady) left ref)
    | error cause =>
      exact (closes.note _).trans (.of_onLogger (Logger.advances_drop steady) _ ref)

theorem Draft.Installs.register (steady : Steady able)
    (installs : draft.Installs able base installed world)
    (registration : Registration (Watched δ) ε υ)
    (added : (draft.register world registration).1 = .ok next) :
    next.Installs able base (installed ++ registration.logger?.toList)
      (draft.register world registration).2 := by
  cases registration with
  | default | before | after | tracing =>
    -- Only the two registrations that bring a logger touch the world.
    obtain rfl := Except.ok.inj added
    have same : draft.Installs able base (installed ++ []) world := by rwa [List.append_nil]
    exact ⟨same.count, same.last, same.came⟩
  | installing logger =>
    obtain rfl := Except.ok.inj added
    exact installs.add rfl (closes_setLogger steady draft logger world)
  | printing logger =>
    cases prints : draft.prints with
    | true =>
      rw [Draft.register_error world (Bool.and_eq_true_iff.mpr ⟨prints, rfl⟩)] at added
      cases added
    | false =>
      simp only [Draft.register, Draft.printThrough, prints, Bool.false_eq_true, if_false] at added ⊢
      obtain rfl := Except.ok.inj added
      exact installs.add rfl (closes_drop steady draft (world.addLogger logger).2)

theorem Draft.Installs.follow (steady : Steady able)
    (installs : draft.Installs able base installed world)
    (program : List (Registration (Watched δ) ε υ))
    (added : (Draft.follow program draft world).1 = .ok next) :
    next.Installs able base (installed ++ program.filterMap Registration.logger?)
      (Draft.follow program draft world).2 := by
  induction program generalizing draft world installed with
  | nil =>
    obtain rfl : draft = next := Except.ok.inj added
    rw [List.filterMap_nil, List.append_nil]
    exact installs
  | cons registration rest ih =>
    have first : ∀ middle : Draft (Watched δ) ε υ,
        (draft.register world registration).1 = .ok middle →
          middle.Installs able base (installed ++ registration.logger?.toList)
            (draft.register world registration).2 :=
      fun _ => installs.register steady registration
    rw [Draft.follow] at added ⊢
    generalize draft.register world registration = step at *
    obtain ⟨result, left⟩ := step
    cases result with
    | error cause => cases added
    | ok middle =>
      have later := ih (first middle rfl) added
      rw [List.append_assoc] at later
      have same : registration.logger?.toList ++ rest.filterMap Registration.logger? =
          (registration :: rest).filterMap Registration.logger? := by
        cases registration <;> rfl
      rwa [same] at later

end

end Tapline
