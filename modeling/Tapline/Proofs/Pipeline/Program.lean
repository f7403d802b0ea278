import Tapline.Pipeline.Draft
/-!
# Programs that set pipelines up

What is added to a draft, in order, is a program. The chains of the pipeline that a program sets
up are those of its registrations, one after the other; a program that asks twice for records to
be printed fails.

## Main results

- `Draft.chains_follow`: the chains, if the program succeeds.
- `Draft.follow_ok`: a program with one registration that prints succeeds.
-/

namespace Tapline

/-- What is added to a draft. -/
inductive Registration (δ ε υ : Type) where
  | default (name : String) (value : Value)
  | before (handler : Handler δ ε υ)
  | after (handler : Handler δ ε υ)
  | tracing (name : Operation → String) (onStart onFinish : Handler.SpanRemark δ ε υ)
  | installing (logger : Logger δ)
  | printing (logger : Logger δ)

variable {δ ε υ : Type}

namespace Registration

/-- The handlers that a registration adds to run before operations. -/
def befores : Registration δ ε υ → List (Handler δ ε υ)
  | before handler => [handler]
  | tracing name onStart _ => [.openSpan name onStart]
  | _ => []

def isPrinting : Registration δ ε υ → Bool
  | printing _ => true
  | _ => false

/-- The logger that a registration installs. -/
def logger? : Registration δ ε υ → Option (Logger δ)
  | installing logger | printing logger => some logger
  | _ => none

variable [ByteStream δ ε]

/-- The handlers that a registration adds to run after operations. -/
def afters : Registration δ ε υ → List (Handler δ ε υ)
  | after handler => [handler]
  | tracing _ _ onFinish => [.closeSpan onFinish]
  | printing _ => [.log]
  | _ => []

end Registration

/-- Printing the arguments of an operation adds notices at most, besides what the logger does. -/
theorem Handler.log_of_some [ByteStream δ ε] {op : Operation} {ref : LoggerRef}
    (found : op.logger = some ref) (world : World δ ε υ) :
    ∃ notices, Handler.log op world = (op, (world.print ref op.bag).2.noteAll notices) := by
  simp only [log, found]
  generalize world.print ref op.bag = printed
  obtain ⟨result, left⟩ := printed
  cases result with
  | ok => exact ⟨[], by simp [World.noteAll]⟩
  | error cause => exact ⟨[.recordFailed cause], rfl⟩

theorem Handler.log_of_none [ByteStream δ ε] {op : Operation} (nothing : op.logger = none)
    (world : World δ ε υ) : Handler.log op world = (op, world) := by
  simp only [log, nothing]

namespace Draft

variable [ByteStream δ ε]

/-- Adds a registration. -/
def register (draft : Draft δ ε υ) (world : World δ ε υ) :
    Registration δ ε υ → Except SetupError (Draft δ ε υ) × World δ ε υ
  | .default name value => (.ok (draft.setDefault name value), world)
  | .before handler => (.ok (draft.addBefore handler), world)
  | .after handler => (.ok (draft.addAfter handler), world)
  | .tracing name onStart onFinish => (.ok (draft.addTracing name onStart onFinish), world)
  | .installing logger =>
    let (draft, world) := draft.setLogger logger world
    (.ok draft, world)
  | .printing logger => draft.printThrough logger world

/-- Adds the registrations of a program, up to one that fails. -/
def follow : List (Registration δ ε υ) → Draft δ ε υ → World δ ε υ →
    Except SetupError (Draft δ ε υ) × World δ ε υ
  | [], draft, world => (.ok draft, world)
  | registration :: rest, draft, world =>
    match draft.register world registration with
    | (.error cause, world) => (.error cause, world)
    | (.ok draft, world) => follow rest draft world

/-- A registration is added unless records would be printed twice. -/
theorem register_ok (draft : Draft δ ε υ) (world : World δ ε υ)
    (registration : Registration δ ε υ)
    (once : (draft.prints && registration.isPrinting) = false) :
    ∃ next, (draft.register world registration).1 = .ok next ∧
      next.before = draft.before ++ registration.befores ∧
      next.after = draft.after ++ registration.afters ∧
      next.prints = (draft.prints || registration.isPrinting) := by
  cases registration with
  | default name value =>
    exact ⟨_, rfl, (List.append_nil _).symm, (List.append_nil _).symm, (Bool.or_false _).symm⟩
  | before handler => exact ⟨_, rfl, rfl, (List.append_nil _).symm, (Bool.or_false _).symm⟩
  | after handler => exact ⟨_, rfl, (List.append_nil _).symm, rfl, (Bool.or_false _).symm⟩
  | tracing name onStart onFinish => exact ⟨_, rfl, rfl, rfl, (Bool.or_false _).symm⟩
  | installing logger =>
    exact ⟨_, rfl, (List.append_nil _).symm, (List.append_nil _).symm, (Bool.or_false _).symm⟩
  | printing logger =>
    have first : draft.prints = false := (Bool.and_true _).symm.trans once
    simp only [register, printThrough, first, Bool.false_eq_true, if_false]
    exact ⟨_, rfl, (List.append_nil _).symm, rfl, rfl⟩

theorem register_error {draft : Draft δ ε υ} (world : World δ ε υ)
    {registration : Registration δ ε υ}
    (twice : (draft.prints && registration.isPrinting) = true) :
    (draft.register world registration).1 = .error .duplicateLogHook := by
  obtain ⟨prints, again⟩ := Bool.and_eq_true_iff.mp twice
  cases registration with
  | printing logger => simp [register, printThrough, prints]
  | _ => exact absurd again Bool.noConfusion

/-- **Chains of a program.** Handlers run in the order in which the program adds them. -/
theorem chains_follow (program : List (Registration δ ε υ)) {draft next : Draft δ ε υ}
    {world : World δ ε υ} (succeeded : (follow program draft world).1 = .ok next) :
    next.before = draft.before ++ program.flatMap Registration.befores ∧
      next.after = draft.after ++ program.flatMap Registration.afters := by
  induction program generalizing draft world with
  | nil =>
    obtain rfl : draft = next := Except.ok.inj succeeded
    simp
  | cons registration rest ih =>
    rw [follow] at succeeded
    -- A program that fails has no chains, so only the first case can end well.
    cases twice : draft.prints && registration.isPrinting with
    | false =>
      obtain ⟨middle, added, before, after, -⟩ := draft.register_ok world registration twice
      generalize draft.register world registration = step at *
      obtain ⟨result, left⟩ := step
      obtain rfl : result = .ok middle := added
      obtain ⟨before', after'⟩ := ih succeeded
      rw [before', after', before, after]
      simp
    | true =>
      have refused := register_error world twice
      generalize draft.register world registration = step at *
      obtain ⟨result, left⟩ := step
      obtain rfl : result = .error .duplicateLogHook := refused
      exact nomatch succeeded

/-- A program succeeds that prints once, or not at all. -/
theorem follow_ok (program : List (Registration δ ε υ)) (draft : Draft δ ε υ)
    (world : World δ ε υ)
    (once : program.countP Registration.isPrinting + draft.prints.toNat ≤ 1) :
    ∃ next, (follow program draft world).1 = .ok next := by
  induction program generalizing draft world with
  | nil => exact ⟨draft, rfl⟩
  | cons registration rest ih =>
    rw [List.countP_cons] at once
    have first : (draft.prints && registration.isPrinting) = false := by
      cases prints : draft.prints <;> cases printing : registration.isPrinting <;>
        simp [prints, printing] at once ⊢
    obtain ⟨middle, added, -, -, prints⟩ := draft.register_ok world registration first
    rw [follow]
    generalize draft.register world registration = step at *
    obtain ⟨result, left⟩ := step
    obtain rfl : result = .ok middle := added
    have most : (draft.prints || registration.isPrinting).toNat ≤
        draft.prints.toNat + if registration.isPrinting then 1 else 0 := by
      cases draft.prints <;> cases registration.isPrinting <;> decide
    rw [← prints] at most
    exact ih middle left (by omega)

end Draft

end Tapline
