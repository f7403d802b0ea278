import Mathlib
import Tapline.Proofs.Sink.History
import Tapline.Proofs.Stream.Host
/-!
# The life of a sink

A direct sink asks its stream for one thing at most per call: to write a line, or to flush. What it
asks depends on the calls alone and never on the answers, so a record that fails takes no other with
it. The first close asks for a flush and is the last call that the sink makes by itself; after it
records are refused and closing does nothing. A batched sink that has been closed is at rest.

## Main results

- `direct_sink_life`, at every moment of every history of a direct sink, over any stream, and when
  the sink is given up.
- `flush_after_close`: what a flush does to a closed sink, direct or batched.

## Proof strategy

`direct_next` says what one event makes of a direct sink, by what it asks for. The two inductions
over a history, one for the calls on the stream and one for its content, only add this up. For a
batched sink the invariant is that a closed one has a flusher with nothing left (`Spent`).
-/

namespace Tapline

open RollingFile (joined joined_concat)

variable {δ : Type u} {ε : Type v}

/-! ### Requests -/

/-- What a stream is asked, whether it does it or not. -/
inductive Request where
  | write (bytes : ByteArray)
  | flush

namespace Request

/-- The request with its answer, as seen by whoever watches the stream. -/
def answered : Request → Bool → Asked
  | write bytes, done => .write bytes done
  | flush, done => .flush done

def make [ByteStream δ ε] (stream : δ) (around : ε) : Request → StreamStep δ ε
  | write bytes => ByteStream.writeAll stream around bytes
  | flush => ByteStream.flush stream around

theorem asked_make [ByteStream δ ε] (request : Request) (stream : Watched δ) (around : ε) :
    (request.make stream around).stream.asked =
      stream.asked ++ [request.answered (request.make stream around).result.isOk] := by
  cases request with
  | write bytes => exact stream.asked_writeAll around bytes
  | flush => exact stream.asked_flush around

end Request

def Asked.request : Asked → Request
  | write bytes _ => .write bytes
  | flush _ => .flush

theorem Request.request_answered (request : Request) (done : Bool) :
    (request.answered done).request = request := by
  cases request with
  | write bytes => rfl
  | flush => rfl

/-- What a fault of its stream is to the caller of a direct sink. -/
def StreamFault.told : StreamFault → SinkError
  | refused fault => .io fault
  | crashed _ => .flusherDead

theorem Sink.around_ofStream (sink : Sink δ) (step : StreamStep δ ε) :
    (sink.ofStream step).around = step.around := by
  unfold ofStream
  split <;> rfl

theorem Sink.result_ofStream (sink : Sink δ) (step : StreamStep δ ε) :
    (sink.ofStream step).result = step.result.mapError StreamFault.told := by
  unfold ofStream
  split
  next passed => rw [passed]; rfl
  next refused => rw [refused]; rfl
  next crashed => rw [crashed]; rfl

namespace SinkEvent

/-- What a call on a direct sink, open or closed, asks of the stream. -/
def request? (template : Template) (closed : Bool) : SinkEvent → Option Request
  | write bag => if closed then none else some (.write (template.bytes bag))
  | flush => some .flush
  | close => if closed then none else some .flush
  | move _ => none

theorem eq_write_of_request? {template : Template} {closed : Bool} {event : SinkEvent}
    {bytes : ByteArray} (asks : event.request? template closed = some (.write bytes)) :
    ∃ bag, event = .write bag ∧ template.bytes bag = bytes := by
  cases event with
  | write bag =>
    cases closed with
    | true => cases asks
    | false => exact ⟨bag, rfl, by simpa [request?] using asks⟩
  | close => cases closed <;> cases asks
  | flush => cases asks
  | move which => cases asks

/-- A call that asks for a flush brings no record. -/
theorem accepted_of_request? {template : Template} {closed : Bool} {event : SinkEvent}
    (asks : event.request? template closed = some .flush) (result : Except SinkError Unit) :
    event.accepted result = [] := by
  cases event with
  | write bag => cases closed <;> cases asks
  | _ => rfl

/-- What the stream of a direct sink is asked in the course of events. -/
def requests (template : Template) (closed : Bool) : List SinkEvent → List Request
  | [] => []
  | event :: rest =>
    (event.request? template closed).toList ++ requests template (closed || event.isClose) rest

def isFlush : SinkEvent → Bool
  | flush => true
  | _ => false

/-- After a close only flushes are passed on. -/
theorem requests_of_closed (template : Template) (events : List SinkEvent) :
    requests template true events = .replicate (events.countP isFlush) .flush := by
  induction events with
  | nil => rfl
  | cons event rest ih =>
    rw [requests, Bool.true_or, ih, List.countP_cons]
    cases event with
    | flush => rfl
    | _ => rfl

theorem requests_append (template : Template) (closed : Bool) (events later : List SinkEvent) :
    requests template closed (events ++ later) =
      requests template closed events ++
        requests template (closed || events.any isClose) later := by
  induction events generalizing closed with
  | nil => rw [List.any_nil, Bool.or_false]; rfl
  | cons event rest ih =>
    rw [List.cons_append, requests, requests, ih, List.any_cons, Bool.or_assoc, List.append_assoc]

theorem any_isClose {events : List SinkEvent} :
    events.any isClose = true ↔ SinkEvent.close ∈ events := by
  rw [List.any_eq_true]
  constructor
  · rintro ⟨event, member, closes⟩
    cases event with
    | close => exact member
    | _ => cases closes
  · intro member
    exact ⟨close, member, rfl⟩

end SinkEvent

/-! ### Direct sinks -/

/-- A call that asks the stream of a direct sink for one thing, and tells what that answers. -/
structure SinkStep.PassesOn [ByteStream δ ε] (step : SinkStep (Watched δ) ε) (request : Request)
    (stream : Watched δ) (around : ε) : Prop where
  result : step.result = (request.make stream around).result.mapError StreamFault.told
  asked : step.sink.stream.asked =
    stream.asked ++ [request.answered (request.make stream around).result.isOk]

/-- Closed or not, a direct sink passes a flush on. -/
theorem Sink.passesOn_flush [ByteStream δ ε] (template : Template) (stream : Watched δ)
    (closed : Bool) (around : ε) :
    (flush ⟨template, .direct stream, closed⟩ around).PassesOn .flush stream around := by
  constructor
  · exact result_ofStream _ _
  · rw [flush, sink_ofStream]
    exact stream.asked_flush around

namespace SinkHistory

variable [ByteStream δ ε] {template : Template} {closed : Bool}

/-- One event: the stream is asked at most once, and what it answers is what the caller is told. -/
theorem direct_next {history : SinkHistory δ ε} {stream : δ}
    (shape : history.sink = ⟨template, .direct stream, closed⟩) (event : SinkEvent) :
    match event.request? template closed with
    | none => (history.next event).sink = ⟨template, .direct stream, closed || event.isClose⟩ ∧
        (history.next event).around = history.around ∧
        (history.next event).records = history.records
    | some request =>
      let answer := request.make stream history.around
      (history.next event).sink = ⟨template, .direct answer.stream, closed || event.isClose⟩ ∧
        (history.next event).around = answer.around ∧
        (history.next event).records =
          history.records ++ event.accepted (answer.result.mapError StreamFault.told) := by
  cases event with
  | move which =>
    simp [SinkEvent.request?, next, Sink.handle, Sink.move, shape, Sink.unchanged,
      SinkEvent.isClose, SinkEvent.accepted]
  | flush =>
    simp [SinkEvent.request?, next, Sink.handle, Sink.flush, shape, Sink.sink_ofStream,
      Sink.around_ofStream, Sink.result_ofStream, Request.make, SinkEvent.isClose]
  | write bag =>
    cases closed with
    | true =>
      simp [SinkEvent.request?, next, Sink.handle, Sink.write, shape, Sink.unchanged,
        SinkEvent.accepted]
    | false =>
      simp [SinkEvent.request?, next, Sink.handle, Sink.write, shape, Sink.sink_ofStream,
        Sink.around_ofStream, Sink.result_ofStream, Template.bytes, Request.make,
        SinkEvent.isClose]
  | close =>
    cases closed with
    | true =>
      simp [SinkEvent.request?, next, Sink.handle, Sink.close, shape, Sink.unchanged,
        SinkEvent.accepted]
    | false =>
      simp [SinkEvent.request?, next, Sink.handle, Sink.close, shape, Sink.sink_ofStream,
        Sink.around_ofStream, Sink.result_ofStream, Request.make, SinkEvent.isClose]

/-- A direct sink stays direct, and its stream is asked what the events ask for. -/
theorem direct_run {history : SinkHistory (Watched δ) ε} {stream : Watched δ}
    (shape : history.sink = ⟨template, .direct stream, closed⟩) (events : List SinkEvent) :
    ∃ current : Watched δ,
      (history.run events).sink =
        ⟨template, .direct current, closed || events.any SinkEvent.isClose⟩ ∧
      current.asked.map Asked.request =
        stream.asked.map Asked.request ++ SinkEvent.requests template closed events := by
  induction events generalizing history stream closed with
  | nil => exact ⟨stream, by simpa [run] using shape, by simp [SinkEvent.requests]⟩
  | cons event rest ih =>
    have first := direct_next shape event
    rw [List.any_cons, ← Bool.or_assoc, SinkEvent.requests]
    cases asks : event.request? template closed with
    | none =>
      -- The stream is not touched, so it is the same run from the next event on.
      rw [asks] at first
      obtain ⟨current, reached, asked⟩ := ih first.1
      exact ⟨current, reached, asked⟩
    | some request =>
      rw [asks] at first
      obtain ⟨current, reached, asked⟩ := ih first.1
      refine ⟨current, reached, ?_⟩
      rw [asked, Request.asked_make, List.map_append, List.append_assoc]
      simp [Request.request_answered]

/-- A stream that takes all or nothing holds the lines of the records that were accepted. -/
theorem direct_content {able : δ → Prop} {content : δ → ByteArray}
    (whole : AllOrNothing able content) {history : SinkHistory δ ε} {stream : δ}
    (shape : history.sink = ⟨template, .direct stream, closed⟩) (sort : able stream)
    (start : ByteArray)
    (holds : content stream = start ++ joined (history.records.map template.bytes))
    (events : List SinkEvent) :
    able (history.run events).sink.stream ∧
      content (history.run events).sink.stream =
        start ++ joined ((history.run events).records.map template.bytes) := by
  induction events generalizing history stream closed with
  | nil =>
    have same : history.sink.stream = stream := by rw [shape]; rfl
    rw [← same] at sort holds
    exact ⟨sort, holds⟩
  | cons event rest ih =>
    have first := direct_next shape event
    cases asks : event.request? template closed with
    | none =>
      rw [asks] at first
      obtain ⟨shape', -, records⟩ := first
      exact ih shape' sort (by rw [records]; exact holds)
    | some request =>
      rw [asks] at first
      obtain ⟨shape', -, records⟩ := first
      cases request with
      | write bytes =>
        apply ih shape' (whole.keeps.writeAll stream history.around bytes sort)
        obtain ⟨bag, rfl, rfl⟩ := SinkEvent.eq_write_of_request? asks
        -- The record is accepted exactly if the stream took its line.
        rw [records, Request.make, whole.writeAll stream history.around _ sort, holds]
        cases (ByteStream.writeAll stream history.around (template.bytes bag)).result with
        | ok =>
          simp [Except.mapError, Except.isOk, Except.toBool, SinkEvent.accepted, joined_concat,
            ByteArray.append_assoc]
        | error fault => simp [Except.mapError, Except.isOk, Except.toBool, SinkEvent.accepted]
      | flush =>
        apply ih shape' (whole.keeps.flush stream history.around sort)
        rw [records, SinkEvent.accepted_of_request? asks, List.append_nil, Request.make,
          whole.flush stream history.around sort, holds]

/-! ### The life of a direct sink -/

/-- At every moment of its life a direct sink has asked its stream for what the events ask for, be
the answers as they may. Until it is closed, writing and closing pass one request on; afterwards
they pass nothing on. Giving it up asks for a flush exactly if nobody closed it. So a stream that
takes all or nothing of a write ends up with the lines of the records that were accepted. -/
theorem direct_sink_life (template : Template) (stream : δ) (around : ε)
    (events : List SinkEvent) :
    let run := (ofStream template (Watched.of stream) .direct around).run events
    let closed := events.any SinkEvent.isClose
    ∃ current : Watched δ,
      run.sink = ⟨template, .direct current, closed⟩ ∧
      current.asked.map Asked.request = SinkEvent.requests template false events ∧
      (run.sink.flush run.around).PassesOn .flush current run.around ∧
      (closed = false →
        (∀ bag, (run.sink.write run.around bag).PassesOn (.write (template.bytes bag)) current
          run.around) ∧
        (run.sink.close run.around).PassesOn .flush current run.around ∧
        (run.sink.close run.around).sink.closed = true ∧
        (run.sink.drop run.around).sink.stream.asked =
          current.asked ++ [.flush (ByteStream.flush current run.around).result.isOk]) ∧
      (closed = true →
        (∀ bag, run.sink.write run.around bag =
          { run.sink.unchanged run.around with result := .error .closed }) ∧
        run.sink.close run.around = run.sink.unchanged run.around ∧
        (run.sink.drop run.around).sink.stream.asked = current.asked) ∧
      ∀ able content, AllOrNothing able content → able stream →
        content current.inner = content stream ++ joined (run.records.map template.bytes) ∧
          content (run.sink.drop run.around).sink.stream.inner = content current.inner := by
  intro run closed
  have start : (ofStream template (Watched.of stream) .direct around).sink =
      ⟨template, .direct (Watched.of stream), false⟩ := rfl
  obtain ⟨current, reached, asked⟩ := direct_run start events
  have reached : run.sink = ⟨template, .direct current, closed⟩ := reached
  refine ⟨current, reached, asked, ?_, ?_, ?_, ?_⟩
  · rw [reached]
    exact Sink.passesOn_flush template current closed run.around
  · intro opened
    rw [reached, opened]
    refine ⟨fun bag => ⟨?_, ?_⟩, ⟨?_, ?_⟩, ?_, ?_⟩
    · exact Sink.result_ofStream _ _
    · simp only [Sink.write, Bool.false_eq_true, if_false, Sink.sink_ofStream]
      exact current.asked_writeAll run.around (template.bytes bag)
    · exact Sink.result_ofStream _ _
    · simp only [Sink.close, Bool.false_eq_true, if_false, Sink.sink_ofStream]
      exact current.asked_flush run.around
    · simp only [Sink.close, Bool.false_eq_true, if_false, Sink.sink_ofStream]
    · simp only [Sink.drop, Sink.close, Bool.false_eq_true, if_false, Sink.sink_ofStream]
      exact current.asked_flush run.around
  · intro shut
    rw [reached, shut]
    exact ⟨fun bag => rfl, rfl, rfl⟩
  · intro able content whole sort
    have whole' := whole.watched
    obtain ⟨sort', holds⟩ := direct_content whole' start sort (content stream)
      (by simp [ofStream, joined, Watched.of]) events
    have same : ((ofStream template (Watched.of stream) .direct around).run events).sink.stream =
        current := congrArg Sink.stream reached
    rw [same] at sort' holds
    refine ⟨holds, ?_⟩
    -- Neither the flush of a close nor letting go of the stream changes what it holds.
    rw [reached]
    cases closed with
    | true => exact whole'.release current run.around sort'
    | false =>
      have flushed := whole'.flush current run.around sort'
      simp only [Sink.drop, Sink.close, Bool.false_eq_true, if_false, Sink.sink_ofStream]
      exact (whole'.release _ _ (whole'.keeps.flush _ _ sort')).trans flushed

end SinkHistory

/-- The second write is refused and so is the flush of the close. The sink is closed all the same:
the third record is refused, and nothing more is asked when the sink is given up. -/
theorem direct_sink_of_script :
    let script := ScriptedStream.new [2] [1] none
    let events : List SinkEvent := [.write (keyBag "a"), .write (keyBag "b"), .write (keyBag "c"),
      .close, .write (keyBag "d"), .close]
    let run := (SinkHistory.ofStream keyTemplate (Watched.of (HostStream.scripted script)) .direct
      default).run events
    run.sink.stream.asked = [.write "a\n".toUTF8 true, .write "b\n".toUTF8 false,
      .write "c\n".toUTF8 true, .flush false] ∧
      (run.sink.drop run.around).sink.stream.asked = run.sink.stream.asked ∧
      HostStream.taken (run.sink.drop run.around).sink.stream.inner = "a\nc\n".toUTF8 := by
  intro script events run
  obtain ⟨current, reached, -, -, -, shut, whole⟩ :=
    SinkHistory.direct_sink_life keyTemplate (HostStream.scripted script) default events
  have same : run.sink.stream = current := congrArg Sink.stream reached
  have asked : (run.sink.drop run.around).sink.stream.asked = current.asked := (shut rfl).2.2
  refine ⟨by cbv, asked.trans (congrArg Watched.asked same.symm), ?_⟩
  obtain ⟨content, kept⟩ := whole _ _ HostStream.allOrNothing_scripted ⟨script, rfl, rfl⟩
  rw [kept, content]
  cbv

/-! ### Batched sinks at rest -/

/-- A flusher with nothing left to do. -/
def Flusher.Spent (flusher : Flusher δ) : Prop :=
  flusher.alive = false ∨ flusher.queue = [] ∧ flusher.pending = .empty

namespace Flusher

variable [ByteStream δ ε] {flusher : Flusher δ}

theorem Spent.move (spent : flusher.Spent) (around : ε) (which : FlusherMove) :
    flusher.move around which = ⟨.ok (), flusher, around, []⟩ := by
  rcases spent with dead | ⟨queue, pending⟩
  · simp [Flusher.move, dead]
  · unfold Flusher.move
    split
    · cases which with
      | receive => simp [receive, queue]
      | tick => simp [tick, pending, ByteArray.isEmpty]
    · rfl

theorem queue_receiveMany (n : Nat) (flusher : Flusher δ) (around : ε) :
    (flusher.receiveMany n around).flusher.queue = flusher.queue.drop n ∨
      (flusher.receiveMany n around).flusher.alive = false := by
  induction n generalizing flusher around with
  | zero => exact .inl rfl
  | succ n ih =>
    by_cases alive : flusher.alive = true
    · have first : flusher.move around .receive = flusher.receive around := by simp [move, alive]
      simp only [receiveMany, first]
      rcases flusher.queue_receive around with tail | dead
      · rw [← List.drop_tail, ← tail]
        exact ih _ _
      · rw [receiveMany_of_dead dead]
        exact .inr dead
    · -- A dead flusher receives no more, whatever is left in the queue.
      simp only [Bool.not_eq_true] at alive
      rw [receiveMany_of_dead alive]
      exact .inr alive

theorem spent_drain {flusher : Flusher δ} (queue : flusher.queue = []) (around : ε)
    (onLoss : Nat → IOFault → List Notice) : (flusher.drain around onLoss).flusher.Spent := by
  unfold drain
  simp only
  split
  · exact .inr ⟨queue, rfl⟩
  · exact .inr ⟨queue, rfl⟩
  · exact .inl rfl

/-- A flusher has finished, or it was dead before it could. -/
theorem spent_finish (flusher : Flusher δ) (around : ε) :
    (flusher.finish around).flusher.Spent := by
  have caught := queue_receiveMany flusher.queue.length flusher around
  rw [List.drop_length, ← catchUp] at caught
  unfold finish
  simp only
  split
  next alive =>
    -- It came through, so it has received the whole queue.
    have queue := caught.resolve_right (by simp [alive])
    have spent := spent_drain queue (flusher.catchUp around).around
      fun bytes fault => [.finalBatchLost bytes fault]
    split <;> exact spent
  next dead => exact .inl (by simpa using dead)

end Flusher

namespace SinkHistory

variable [ByteStream δ ε]

/-- A batched sink that is at rest if it is closed. -/
def RestsClosed (history : SinkHistory δ ε) : Prop :=
  ∃ flusher, history.sink.target = .batched flusher ∧
    (history.sink.closed = true → flusher.Spent)

variable {history : SinkHistory δ ε}

theorem RestsClosed.flush (rests : history.RestsClosed) (closed : history.sink.closed = true) :
    history.sink.flush history.around = history.sink.unchanged history.around := by
  obtain ⟨flusher, target, -⟩ := rests
  simp [Sink.flush, target, closed]

theorem RestsClosed.idle (rests : history.RestsClosed) (closed : history.sink.closed = true)
    (event : SinkEvent) : (history.next event).sink = history.sink ∧
      (history.next event).around = history.around := by
  have flushed := rests.flush closed
  obtain ⟨flusher, target, spent⟩ := rests
  have same : { history.sink with target := .batched flusher } = history.sink := by rw [← target]
  simp only [SinkHistory.next]
  cases event with
  | write bag => simp [Sink.handle, Sink.write, closed, Sink.unchanged]
  | flush => simp [Sink.handle, flushed, Sink.unchanged]
  | close => simp [Sink.handle, Sink.close, closed, Sink.unchanged]
  | move which => simp [Sink.handle, Sink.move, target, (spent closed).move, Sink.ofFlusher, same]

theorem RestsClosed.next (rests : history.RestsClosed) (event : SinkEvent) :
    (history.next event).RestsClosed := by
  by_cases closed : history.sink.closed = true
  · rw [RestsClosed, (rests.idle closed event).1]
    exact rests
  obtain ⟨flusher, target, -⟩ := rests
  -- Of the calls on an open sink only a close can close it, and that finishes its flusher.
  have opens : event.isClose = false → (history.next event).sink.closed ≠ true := by
    intro other
    have closed' : (history.next event).sink.closed = (history.sink.closed || event.isClose) :=
      history.sink.closed_handle history.around event
    rwa [closed', other, Bool.or_false]
  cases event with
  | write bag =>
    by_cases alive : flusher.alive = true
    · refine ⟨flusher.send (history.sink.template.bytes bag), ?_, fun shut => ?_⟩
      · simp [SinkHistory.next, Sink.handle, Sink.write, target, closed, alive, Template.bytes]
      · exact absurd shut (opens rfl)
    · refine ⟨flusher, ?_, fun shut => ?_⟩
      · simp [SinkHistory.next, Sink.handle, Sink.write, target, closed, alive]
      · exact absurd shut (opens rfl)
  | flush =>
    refine ⟨(flusher.sync history.around).flusher, ?_, fun shut => absurd shut (opens rfl)⟩
    simp [SinkHistory.next, Sink.handle, Sink.flush, target, closed, Sink.ofFlusher]
  | close =>
    refine ⟨(flusher.finish history.around).flusher, ?_, fun _ =>
      flusher.spent_finish history.around⟩
    simp [SinkHistory.next, Sink.handle, Sink.close, target, closed, Sink.ofFlusher]
  | move which =>
    refine ⟨(flusher.move history.around which).flusher, ?_, fun shut => absurd shut (opens rfl)⟩
    simp [SinkHistory.next, Sink.handle, Sink.move, target, Sink.ofFlusher]

theorem RestsClosed.run (rests : history.RestsClosed) (events : List SinkEvent) :
    (history.run events).RestsClosed := by
  induction events generalizing history with
  | nil => exact rests
  | cons event rest ih => exact ih (rests.next event)

/-- A batched sink that has been closed is left as it is by everything that comes later. -/
theorem RestsClosed.idle_run (rests : history.RestsClosed) (closed : history.sink.closed = true)
    (later : List SinkEvent) : (history.run later).sink = history.sink ∧
      (history.run later).around = history.around := by
  induction later generalizing history with
  | nil => exact ⟨rfl, rfl⟩
  | cons event rest ih =>
    obtain ⟨sink, around⟩ := rests.idle closed event
    obtain ⟨sink', around'⟩ := ih (rests.next event) (by rw [sink]; exact closed)
    exact ⟨sink'.trans sink, around'.trans around⟩

/-- Once it is closed, a batched sink answers a flush by itself and never asks its stream again. A
direct sink passes on every flush, and the caller is told what the stream says. -/
theorem flush_after_close (template : Template) (stream : δ) (delivery : Delivery) (around : ε)
    (events later : List SinkEvent) (closing : .close ∈ events) :
    let before := (ofStream template (Watched.of stream) delivery around).run events
    let run := before.run later
    match delivery with
    | .batched _ _ => run.sink = before.sink ∧ run.around = before.around ∧
        run.sink.flush run.around = run.sink.unchanged run.around
    | .direct => (run.sink.flush run.around).PassesOn .flush run.sink.stream run.around ∧
        run.sink.stream.asked.map Asked.request = before.sink.stream.asked.map Asked.request ++
          .replicate (later.countP SinkEvent.isFlush) .flush := by
  intro before run
  have closes : events.any SinkEvent.isClose = true := SinkEvent.any_isClose.mpr closing
  cases delivery with
  | batched interval capacity =>
    have start : (ofStream template (Watched.of stream) (.batched interval capacity)
        around).RestsClosed := ⟨_, rfl, nofun⟩
    have closed : before.sink.closed = true := by
      rw [closed_run, closes, Bool.or_true]
    -- The close has finished the flusher, so its own moves do nothing either.
    have rests : before.RestsClosed := start.run events
    obtain ⟨sink, around'⟩ := rests.idle_run closed later
    exact ⟨sink, around', (rests.run later).flush (by rw [sink]; exact closed)⟩
  | direct =>
    have start : (ofStream template (Watched.of stream) .direct around).sink =
        ⟨template, .direct (Watched.of stream), false⟩ := rfl
    obtain ⟨current, reached, asked⟩ := direct_run start events
    obtain ⟨final, reached', asked'⟩ := direct_run reached later
    have stream₁ : before.sink.stream = current := congrArg Sink.stream reached
    have stream₂ : run.sink.stream = final := congrArg Sink.stream reached'
    have shape : run.sink = _ := reached'
    -- Of what comes later only the flushes are passed on.
    rw [stream₁, stream₂, shape, asked', closes, Bool.or_true, SinkEvent.requests_of_closed]
    exact ⟨Sink.passesOn_flush template final _ run.around, rfl⟩

end SinkHistory

/-- After the close of a batched sink nothing more reaches its stream, which would have refused the
second flush. -/
theorem batched_sink_rests :
    let script := ScriptedStream.new [] [2] none
    let run := (SinkHistory.ofStream keyTemplate (Watched.of (HostStream.scripted script))
      (.batched .zero 100) default).run [.write (keyBag "a"), .close]
    (run.run [.flush]).sink = run.sink ∧ (run.sink.flush run.around).result = .ok () ∧
      run.sink.stream.asked = [.write "a\n".toUTF8 true, .flush true] := by
  intro script run
  obtain ⟨sink, around, idle⟩ := SinkHistory.flush_after_close keyTemplate
    (HostStream.scripted script) (.batched .zero 100) default [.write (keyBag "a"), .close] [.flush]
    (by simp)
  rw [sink, around] at idle
  exact ⟨sink, congrArg SinkStep.result idle, by cbv⟩

/-- A direct sink is closed, and its stream has been flushed. A second flush still reaches the
stream, which refuses it, and the caller is told so. -/
theorem closed_direct_sink_flushes :
    let script := ScriptedStream.new [] [2] none
    let run := (SinkHistory.ofStream keyTemplate (Watched.of (HostStream.scripted script)) .direct
      default).run [.write (keyBag "a"), .close]
    run.sink.closed = true ∧
      run.sink.stream.asked = [.write "a\n".toUTF8 true, .flush true] ∧
      (run.sink.flush run.around).result = .error (.io (.other "chunk flush refused")) ∧
      (run.sink.flush run.around).sink.stream.asked =
        [.write "a\n".toUTF8 true, .flush true, .flush false] := by
  intro script run
  exact ⟨by cbv, by cbv, by cbv, by cbv⟩

end Tapline
