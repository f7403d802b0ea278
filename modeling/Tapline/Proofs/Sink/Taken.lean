import Tapline.Proofs.Sink.History
/-!
# What a sink has taken

A sink that is shared has other calls between any two of one caller's, and its stream's
surroundings change in between. What it has taken, and how often it has closed, can still be told
from its stream. `Advances` says how far a sink has come by some records and perhaps a close; each
call on a sink is such an advance, whatever the surroundings, and advances add up.
-/

namespace Tapline

/-- Whether a call asks for a flush. -/
def Asked.isFlush : Asked → Bool
  | write .. => false
  | flush _ => true

namespace Sink

variable {δ : Type u} {ε : Type v} {able : Watched δ → Prop}

/-- Whether records that are given to a sink reach its stream, or will. -/
def listens (sink : Sink δ) : Bool :=
  !sink.closed && match sink.target with
    | .direct _ => true
    | .batched flusher => flusher.alive

/-- The lines that a sink has taken, in order. A direct sink has asked its stream to write each of
them. Those that a batched sink has not handed on, it still holds, unless it is closed. -/
inductive Took (able : Watched δ → Prop) : Sink (Watched δ) → List ByteArray → Prop where
  | direct {template : Template} {stream : Watched δ} {closed : Bool} (sort : able stream) :
    Took able ⟨template, .direct stream, closed⟩ stream.attempts
  | batched {template : Template} {flusher : Flusher (Watched δ)} {closed : Bool}
    {batches : List Batch} {waiting lines : List ByteArray}
    (carries : flusher.Carries able batches waiting lines)
    (shut : closed = true → waiting = [] ∧ flusher.queue = []) :
    Took able ⟨template, .batched flusher, closed⟩ lines

/-- How often a sink has passed everything on for good: a direct one has its stream flushed for
it, a batched one gives its stream up. -/
def closings (sink : Sink (Watched δ)) : Nat :=
  match sink.target with
  | .direct stream => stream.asked.countP Asked.isFlush
  | .batched flusher => flusher.stream.released

/-- How far a sink has come by records, and perhaps a close after them. -/
structure Advances (able : Watched δ → Prop) (records : List Bag) (shuts : Bool)
    (before after : Sink (Watched δ)) : Prop where
  template : after.template = before.template
  closed : after.closed = (before.closed || shuts)
  took : ∀ lines, before.Took able lines →
    after.Took able
        (lines ++ if before.listens then records.map before.template.bytes else []) ∧
      after.listens = (before.listens && !shuts) ∧
      after.closings = before.closings + if before.listens && shuts then 1 else 0

theorem Advances.refl (sink : Sink (Watched δ)) : Advances able [] false sink sink := by
  refine ⟨rfl, (Bool.or_false _).symm, fun lines took => ⟨?_, (Bool.and_true _).symm, ?_⟩⟩
  · simpa using took
  · simp

/-- Advances add up; what comes after a close does not count. -/
theorem Advances.trans {records more : List Bag} {shuts shuts' : Bool}
    {before middle after : Sink (Watched δ)} (first : Advances able records shuts before middle)
    (second : Advances able more shuts' middle after) :
    Advances able (records ++ if shuts then [] else more) (shuts || shuts') before after := by
  refine ⟨second.template.trans first.template, ?_, fun lines took => ?_⟩
  · rw [second.closed, first.closed, Bool.or_assoc]
  obtain ⟨took', listens, closings⟩ := first.took lines took
  obtain ⟨took'', listens', closings'⟩ := second.took _ took'
  rw [listens, first.template] at took''
  rw [listens] at listens' closings'
  rw [listens', closings', closings]
  -- A sink that does not listen any more takes nothing and is not closed again.
  cases listening : before.listens <;> cases shuts <;> simp_all

/-- A batched sink has taken what its history says. -/
theorem took_of_holds {template : Template} {capacity : Nat} {alive : Bool}
    {history : SinkHistory (Watched δ) ε} {flusher : Flusher (Watched δ)} {batches : List Batch}
    {waiting : List ByteArray}
    (holds : history.Holds able template capacity alive flusher batches waiting) :
    history.sink.Took able (history.records.map template.bytes) := by
  have sink_eq : history.sink = ⟨template, .batched flusher, history.sink.closed⟩ := by
    rw [← holds.same, ← holds.target]
  rw [sink_eq]
  exact .batched holds.carries holds.shut

variable [ByteStream δ ε]

/-- A sink over a stream that is watched from now on has taken nothing. -/
theorem took_ofStream (steady : Steady able) {stream : δ} (sort : able (.of stream))
    (template : Template) (delivery : Delivery) (around : ε) :
    (ofStreamIn template (Watched.of stream) delivery around).1.Took able [] := by
  cases delivery with
  | direct => exact .direct sort
  | batched interval capacity =>
    obtain ⟨flusher, holds, records, -⟩ :=
      SinkHistory.holds_ofStream steady sort template interval capacity around
    have took := took_of_holds holds
    rw [records] at took
    exact took

theorem advances_write (steady : Steady able) (sink : Sink (Watched δ)) (around : ε) (bag : Bag) :
    Advances able [bag] false sink (sink.write around bag).sink := by
  obtain ⟨template, target, closed⟩ := sink
  cases closed with
  | true =>
    have same : (Sink.write ⟨template, target, true⟩ around bag).sink =
        ⟨template, target, true⟩ := rfl
    rw [same]
    refine ⟨rfl, rfl, fun lines took => ⟨?_, rfl, rfl⟩⟩
    simpa [listens] using took
  | false =>
    cases target with
    | direct stream =>
      have written : (Sink.write ⟨template, .direct stream, false⟩ around bag).sink =
          ⟨template, .direct (ByteStream.writeAll stream around (template.bytes bag)).stream,
            false⟩ := by
        simp only [Sink.write, Bool.false_eq_true, if_false, sink_ofStream, Template.bytes_eq]
      rw [written]
      refine ⟨rfl, rfl, fun lines took => ⟨?_, rfl, ?_⟩⟩
      · cases took with
        | direct sort =>
          have asked : Took able ⟨template, .direct _, false⟩ _ :=
            .direct (steady.keeps.writeAll stream around (template.bytes bag) sort)
          rw [Watched.attempts_writeAll] at asked
          exact asked
      · simp [closings, listens, Asked.isFlush]
    | batched flusher =>
      cases living : flusher.alive with
      | true =>
        have sent : (Sink.write ⟨template, .batched flusher, false⟩ around bag).sink =
            ⟨template, .batched (flusher.send (template.bytes bag)), false⟩ := by
          simp [Sink.write, living, Template.bytes]
        rw [sent]
        refine ⟨rfl, rfl, fun lines took => ⟨?_, (Bool.and_true _).symm, ?_⟩⟩
        · cases took with
          | batched carries shut =>
            simp only [listens, living]
            exact .batched (carries.send living (template.bytes bag)) fun shut => absurd shut
              Bool.false_ne_true
        · simp [closings, Flusher.send]
      | false =>
        have same : (Sink.write ⟨template, .batched flusher, false⟩ around bag).sink =
            ⟨template, .batched flusher, false⟩ := by
          simp [Sink.write, living]
        rw [same]
        refine ⟨rfl, rfl, fun lines took => ⟨?_, (Bool.and_true _).symm, ?_⟩⟩
        · simpa [listens, living] using took
        · simp

theorem advances_move (steady : Steady able) (sink : Sink (Watched δ)) (around : ε)
    (which : FlusherMove) : Advances able [] false sink (sink.move around which).sink := by
  obtain ⟨template, target, closed⟩ := sink
  cases target with
  | direct stream => exact .refl _
  | batched flusher =>
    have moved : (Sink.move ⟨template, .batched flusher, closed⟩ around which).sink =
        ⟨template, .batched (flusher.move around which).flusher, closed⟩ := rfl
    rw [moved]
    refine ⟨rfl, (Bool.or_false _).symm, fun lines took => ?_⟩
    cases took with
    | batched carries shut =>
      obtain ⟨added, left, -, -, leaves⟩ := carries.move steady around which
      have shut' : closed = true → left = [] ∧ (flusher.move around which).flusher.queue = [] := by
        intro closed
        obtain ⟨rfl, empty⟩ := shut closed
        exact leaves.nothing carries empty
      refine ⟨?_, ?_, ?_⟩
      · simpa using Took.batched leaves.carries shut'
      · simp [listens, leaves.alive]
      · simp [closings, leaves.released]

theorem advances_close (steady : Steady able) (sink : Sink (Watched δ)) (around : ε) :
    Advances able [] true sink (sink.close around).sink := by
  obtain ⟨template, target, closed⟩ := sink
  cases closed with
  | true =>
    have same : (Sink.close ⟨template, target, true⟩ around).sink = ⟨template, target, true⟩ := rfl
    rw [same]
    refine ⟨rfl, rfl, fun lines took => ⟨?_, rfl, rfl⟩⟩
    simpa [listens] using took
  | false =>
    cases target with
    | direct stream =>
      -- Whatever the stream answers, it was asked once.
      have flushed : (Sink.close ⟨template, .direct stream, false⟩ around).sink =
          ⟨template, .direct (ByteStream.flush stream around).stream, true⟩ := by
        simp only [Sink.close, Bool.false_eq_true, if_false, sink_ofStream]
      rw [flushed]
      refine ⟨rfl, rfl, fun lines took => ⟨?_, rfl, ?_⟩⟩
      · cases took with
        | direct sort =>
          have asked : Took able ⟨template, .direct _, true⟩ _ :=
            .direct (steady.keeps.flush stream around sort)
          rw [Watched.attempts_flush] at asked
          simpa using asked
      · simp [closings, listens, Asked.isFlush]
    | batched flusher =>
      refine ⟨rfl, rfl, fun lines took => ?_⟩
      cases took with
      | batched carries shut =>
        have finished : (Sink.close ⟨template, .batched flusher, false⟩ around).sink =
            ⟨template, .batched (flusher.finish around).flusher, true⟩ := rfl
        rw [finished]
        cases living : flusher.alive with
        | true =>
          obtain ⟨added, -, queue, leaves⟩ := carries.finish steady living around
          refine ⟨?_, by simp [listens], ?_⟩
          · simpa using Took.batched leaves.carries fun _ => ⟨rfl, queue⟩
          · simp [closings, listens, leaves.released, living]
        | false =>
          obtain ⟨rfl, empty⟩ := carries.idle living
          rw [Flusher.finish_of_dead living empty]
          refine ⟨?_, by simp [listens], by simp [closings, listens, living]⟩
          simpa using Took.batched carries fun _ => ⟨rfl, empty⟩

theorem advances_drop (steady : Steady able) (sink : Sink (Watched δ)) (around : ε) :
    Advances able [] true sink (sink.drop around).sink := by
  have closes := advances_close steady sink around
  unfold Sink.drop
  generalize sink.close around = step at *
  obtain ⟨result, ⟨template, target, closed⟩, left, notices, background⟩ := step
  cases target with
  | batched flusher => exact closes
  | direct stream =>
    -- Closing comes first; giving the stream up afterwards makes no call that counts.
    have released : Advances able [] false ⟨template, .direct stream, closed⟩
        ⟨template, .direct (ByteStream.release stream left).1, closed⟩ := by
      refine ⟨rfl, (Bool.or_false _).symm, fun lines took => ?_⟩
      cases took with
      | direct sort =>
        refine ⟨?_, (Bool.and_true _).symm, ?_⟩
        · have asked : Took able ⟨template, .direct _, closed⟩ _ :=
            .direct (steady.keeps.release stream left sort)
          rw [Watched.attempts_release] at asked
          simpa using asked
        · simp [closings]
    exact closes.trans released

end Sink

end Tapline
