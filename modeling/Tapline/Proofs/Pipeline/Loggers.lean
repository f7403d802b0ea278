import Mathlib.Data.List.Forall2
import Tapline.Proofs.Pipeline.Program
import Tapline.Proofs.Sink.Taken
/-!
# How far loggers have come

Each logger of a world comes forward with its sinks, all by the same records. A call on one logger
leaves the others where they are, and handlers that do not print leave all of them.
-/

namespace Tapline

namespace Logger

variable {δ : Type u} {ε : Type v}

/-- A move of the background flusher of one sink, if it has one. -/
def moveAt [ByteStream δ ε] (logger : Logger δ) (place : Nat) (which : FlusherMove) (around : ε) :
    LoggerStep δ ε :=
  match logger.sinks[place]? with
  | none => ⟨[], logger, around, [], []⟩
  | some sink =>
    let step := sink.move around which
    ⟨[], ⟨logger.sinks.set place step.sink⟩, step.around, step.notices, step.background⟩

variable {able : Watched δ → Prop}

/-- How far a logger has come by records, and perhaps a close after them. -/
def Advances (able : Watched δ → Prop) (records : List Bag) (shuts : Bool)
    (before after : Logger (Watched δ)) : Prop :=
  List.Forall₂ (Sink.Advances able records shuts) before.sinks after.sinks

theorem Advances.refl (logger : Logger (Watched δ)) : Advances able [] false logger logger :=
  List.forall₂_same.mpr fun sink _ => .refl sink

theorem Advances.trans {records more : List Bag} {shuts shuts' : Bool}
    {before middle after : Logger (Watched δ)} (first : Advances able records shuts before middle)
    (second : Advances able more shuts' middle after) :
    Advances able (records ++ if shuts then [] else more) (shuts || shuts') before after := by
  obtain ⟨before⟩ := before
  obtain ⟨middle⟩ := middle
  obtain ⟨after⟩ := after
  simp only [Advances] at *
  induction first generalizing after with
  | nil =>
    cases second
    exact .nil
  | cons head _ ih =>
    cases second with
    | cons head' tail' => exact .cons (head.trans head') (ih _ tail')

theorem advances_eachSink {records : List Bag} {shuts : Bool}
    {call : Sink (Watched δ) → ε → SinkStep (Watched δ) ε}
    (each : ∀ sink around, Sink.Advances able records shuts sink (call sink around).sink)
    (sinks : List (Sink (Watched δ))) (around : ε) :
    Advances able records shuts ⟨sinks⟩ (eachSink call sinks around).logger := by
  induction sinks generalizing around with
  | nil => exact .nil
  | cons sink rest ih => exact .cons (each sink around) (ih (call sink around).around)

variable [ByteStream δ ε]

theorem advances_print (steady : Steady able) (logger : Logger (Watched δ)) (around : ε)
    (bag : Bag) : Advances able [bag] false logger (logger.print around bag).logger := by
  have each : ∀ (sink : Sink (Watched δ)) (around : ε),
      Sink.Advances able [bag] false sink (printTo bag sink around).sink :=
    fun sink around => Sink.advances_write steady sink around bag
  exact advances_eachSink each logger.sinks around

theorem advances_close (steady : Steady able) (logger : Logger (Watched δ)) (around : ε) :
    Advances able [] true logger (logger.close around).logger :=
  advances_eachSink (Sink.advances_close steady) logger.sinks around

theorem advances_drop (steady : Steady able) (logger : Logger (Watched δ)) (around : ε) :
    Advances able [] true logger (logger.drop around).logger :=
  advances_eachSink (Sink.advances_drop steady) logger.sinks around

theorem advances_moveAt (steady : Steady able) (logger : Logger (Watched δ)) (place : Nat)
    (which : FlusherMove) (around : ε) :
    Advances able [] false logger (logger.moveAt place which around).logger := by
  unfold moveAt
  split
  · exact .refl logger
  next sink found =>
    refine List.forall₂_of_length_eq_of_get (List.length_set ..).symm fun n here there => ?_
    simp only [List.get_eq_getElem, List.getElem_set]
    split
    next same =>
      subst same
      obtain rfl : logger.sinks[place] = sink :=
        Option.some.inj ((List.getElem?_eq_getElem here).symm.trans found)
      exact Sink.advances_move steady _ around which
    next => exact .refl _

/-- Closing closed sinks changes nothing. -/
theorem close_of_closed {logger : Logger (Watched δ)}
    (closed : ∀ sink ∈ logger.sinks, sink.closed = true) (around : ε) :
    logger.close around = ⟨[], logger, around, [], []⟩ := by
  obtain ⟨sinks⟩ := logger
  simp only [close] at *
  induction sinks with
  | nil => rfl
  | cons sink rest ih =>
    have first : sink.close around = sink.unchanged around := by
      simp [Sink.close, closed sink List.mem_cons_self]
    rw [eachSink, first]
    simp only [Sink.unchanged, ih fun sink member => closed sink (List.mem_cons_of_mem _ member)]
    rfl

theorem Advances.closed {records : List Bag} {before after : Logger (Watched δ)}
    (advances : Advances able records true before after) :
    ∀ sink ∈ after.sinks, sink.closed = true := by
  obtain ⟨before⟩ := before
  obtain ⟨after⟩ := after
  simp only [Advances] at *
  induction advances with
  | nil => simp
  | cons head _ ih =>
    intro sink member
    rcases List.mem_cons.mp member with rfl | later
    · rw [head.closed, Bool.or_true]
    · exact ih sink later

end Logger

namespace World

variable {δ ε υ : Type} {able : Watched δ → Prop} {world : World (Watched δ) ε υ}

/-- How far each logger of a world has come. -/
structure Advances (able : Watched δ → Prop) (records : Nat → List Bag) (shuts : Nat → Bool)
    (before after : World (Watched δ) ε υ) : Prop where
  count : after.loggers.length = before.loggers.length
  logger : ∀ n, (before.logger ⟨n⟩).Advances able (records n) (shuts n) (after.logger ⟨n⟩)

/-- Only the loggers of the worlds matter. -/
theorem Advances.congr {records : Nat → List Bag} {shuts : Nat → Bool}
    {before before' after after' : World (Watched δ) ε υ}
    (advances : Advances able records shuts before after)
    (same : before'.loggers = before.loggers) (same' : after'.loggers = after.loggers) :
    Advances able records shuts before' after' := by
  refine ⟨?_, fun n => ?_⟩
  · rw [same, same', advances.count]
  · have logger := advances.logger n
    rw [World.logger, World.logger] at logger ⊢
    rwa [same, same']

theorem Advances.of_loggers_eq {before after : World (Watched δ) ε υ}
    (same : after.loggers = before.loggers) :
    Advances able (fun _ => []) (fun _ => false) before after := by
  refine ⟨congrArg List.length same, fun n => ?_⟩
  have logger : after.logger ⟨n⟩ = before.logger ⟨n⟩ := by rw [World.logger, same]; rfl
  rw [logger]
  exact .refl _

theorem Advances.trans {records more : Nat → List Bag} {shuts shuts' : Nat → Bool}
    {before middle after : World (Watched δ) ε υ} (first : Advances able records shuts before middle)
    (second : Advances able more shuts' middle after) :
    Advances able (fun n => records n ++ if shuts n then [] else more n)
      (fun n => shuts n || shuts' n) before after :=
  ⟨second.count.trans first.count, fun n => (first.logger n).trans (second.logger n)⟩

/-- A call on a logger leaves the others where they are. -/
theorem advances_onLogger {records : List Bag} {shuts : Bool}
    {call : Logger (Watched δ) → ε → LoggerStep (Watched δ) ε}
    (advances : ∀ logger around, Logger.Advances able records shuts logger
      (call logger around).logger) (world : World (Watched δ) ε υ) (ref : LoggerRef) :
    Advances able (fun n => if n = ref.index then records else [])
      (fun n => decide (n = ref.index) && shuts) world (world.onLogger ref call).2 := by
  refine ⟨List.length_set .., fun n => ?_⟩
  by_cases same : n = ref.index
  · subst same
    simp only [if_true, decide_true, Bool.true_and]
    by_cases inside : ref.index < world.loggers.length
    · -- The logger that is called is the one that is put back.
      have there : (world.onLogger ref call).2.logger ⟨ref.index⟩ =
          (call (world.logger ref) world.around).logger := by
        simp [World.logger, onLogger, inside]
      rw [there]
      exact advances _ _
    · -- A logger that does not exist has no sinks.
      have nothing : ∀ world' : World (Watched δ) ε υ,
          world'.loggers.length = world.loggers.length → world'.logger ⟨ref.index⟩ = .empty := by
        intro world' count
        simp [World.logger, List.getElem?_eq_none (count.trans_le (Nat.le_of_not_lt inside))]
      rw [nothing world rfl, nothing _ (List.length_set ..)]
      exact .nil
  · have there : (world.onLogger ref call).2.logger ⟨n⟩ = world.logger ⟨n⟩ := by
      simp [World.logger, onLogger, List.getElem?_set_ne (Ne.symm same)]
    rw [there]
    simp only [same, if_false, decide_false, Bool.false_and]
    exact .refl _

/-- The loggers of one world and of another that has one more. -/
theorem logger_addLogger (world : World (Watched δ) ε υ) (logger : Logger (Watched δ)) {n : Nat}
    (inside : n < world.loggers.length) :
    (world.addLogger logger).2.logger ⟨n⟩ = world.logger ⟨n⟩ := by
  simp [World.logger, addLogger, List.getElem?_append_left inside]

theorem logger_addLogger_self (world : World (Watched δ) ε υ) (logger : Logger (Watched δ)) :
    (world.addLogger logger).2.logger ⟨world.loggers.length⟩ = logger := by
  simp [World.logger, addLogger]

/-- What becomes of the loggers when one of them, if any, is closed. -/
def Closes (able : Watched δ → Prop) (ref : Option LoggerRef)
    (before after : World (Watched δ) ε υ) : Prop :=
  Advances able (fun _ => []) (fun n => decide (ref = some ⟨n⟩)) before after

theorem Closes.of_onLogger [ByteStream δ ε]
    {call : Logger (Watched δ) → ε → LoggerStep (Watched δ) ε}
    (advances : ∀ logger around, Logger.Advances able [] true logger (call logger around).logger)
    (world : World (Watched δ) ε υ) (ref : LoggerRef) :
    Closes able (some ref) world (world.onLogger ref call).2 := by
  have called := advances_onLogger advances world ref
  simp only [ite_self, Bool.and_true] at called
  have same : (fun n => decide (some ref = some (⟨n⟩ : LoggerRef))) =
      fun n => decide (n = ref.index) := by
    funext n
    obtain ⟨index⟩ := ref
    simp [eq_comm]
  rw [Closes, same]
  exact called

theorem Closes.trans {ref : Option LoggerRef} {before middle after : World (Watched δ) ε υ}
    (first : Closes able ref before middle) (second : Closes able ref middle after) :
    Closes able ref before after := by
  have both := Advances.trans first second
  simp only [ite_self, List.append_nil, Bool.or_self] at both
  exact both

theorem Closes.of_none {before after : World (Watched δ) ε υ}
    (same : after.loggers = before.loggers) : Closes able none before after :=
  .of_loggers_eq same

theorem Closes.note {ref : Option LoggerRef} {before after : World (Watched δ) ε υ}
    (closes : Closes able ref before after) (notice : Notice) :
    Closes able ref before (after.note notice) :=
  ⟨closes.count, closes.logger⟩

/-- Closing a logger again changes nothing in the world. -/
theorem closeLogger_of_closed [ByteStream δ ε] {ref : LoggerRef}
    (closed : ∀ sink ∈ (world.logger ref).sinks, sink.closed = true) :
    world.closeLogger ref = (.ok (), world) := by
  have still : world.loggers.set ref.index (world.logger ref) = world.loggers := by
    by_cases inside : ref.index < world.loggers.length
    · simp [World.logger, List.getElem?_eq_getElem inside]
    · exact List.set_eq_of_length_le (Nat.le_of_not_lt inside)
  simp only [closeLogger, onLogger, Logger.close_of_closed closed, still, List.append_nil]
  rfl

end World

end Tapline
