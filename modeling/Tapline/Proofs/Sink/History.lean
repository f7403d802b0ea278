import Tapline.Proofs.Sink.Batches
import Tapline.Sink.Basic
/-!
# Histories of sinks

A history is what has come of a sequence of events: calls on a sink, and moves that its flusher
made by itself, in any order. A caller who waits for a flush, or for the sink to close, changes
nothing in the meantime, so the moves made while it waits are events before the call; the call
itself then receives what is left without a pause. A history remembers which records were
accepted, what the flusher had to tell, and how often a flush was answered by a refusal.
-/

namespace Tapline

open RollingFile (joined)

/-- A call on a sink, or a move of its flusher. -/
inductive SinkEvent where
  | write (bag : Bag)
  | flush
  | close
  | move (which : FlusherMove)

namespace SinkEvent

/-- The bag of a call to write. -/
def bag? : SinkEvent → Option Bag
  | write bag => some bag
  | _ => none

def isClose : SinkEvent → Bool
  | close => true
  | _ => false

/-- The records that a sink accepts by its answer. -/
def accepted : SinkEvent → Except SinkError Unit → List Bag
  | write bag, .ok () => [bag]
  | _, _ => []

/-- How many flushes a sink refuses by its answer, because its stream did. -/
def refusals : SinkEvent → Except SinkError Unit → Nat
  | flush, .error (.io _) => 1
  | _, _ => 0

/-- The bags that are given to a sink before it is closed. -/
def written (events : List SinkEvent) : List Bag :=
  (events.takeWhile fun event => !event.isClose).filterMap bag?

theorem written_cons (event : SinkEvent) (rest : List SinkEvent) :
    written (event :: rest) = event.bag?.toList ++ if event.isClose then [] else written rest := by
  cases event <;> rfl

end SinkEvent

/-- What has come of a sequence of events. -/
structure SinkHistory (δ : Type u) (ε : Type v) where
  sink : Sink δ
  around : ε
  records : List Bag
  background : List Notice
  refusedFlushes : Nat

/-- The line of a bag, as the stream is given it. -/
def Template.bytes (template : Template) (bag : Bag) : ByteArray :=
  (template.line bag).value.toUTF8

theorem Template.bytes_eq (template : Template) (bag : Bag) :
    (template.line bag).value.toUTF8 = template.bytes bag := rfl

namespace Sink

variable {δ : Type u} {ε : Type v}

theorem sink_ofStream (sink : Sink δ) (step : StreamStep δ ε) :
    (sink.ofStream step).sink = { sink with target := .direct step.stream } := by
  unfold ofStream
  split <;> rfl

variable [ByteStream δ ε]

/-- What an event makes of a sink. -/
def handle (sink : Sink δ) (around : ε) : SinkEvent → SinkStep δ ε
  | .write bag => sink.write around bag
  | .flush => sink.flush around
  | .close => sink.close around
  | .move which => sink.move around which

/-- Only a close changes whether a sink is closed. -/
theorem closed_handle (sink : Sink δ) (around : ε) (event : SinkEvent) :
    (sink.handle around event).sink.closed = (sink.closed || event.isClose) := by
  obtain ⟨template, target, closed⟩ := sink
  cases closed with
  | true =>
    cases target with
    | direct stream => cases event <;> first | rfl | simp [handle, flush, sink_ofStream]
    | batched flusher => cases event <;> rfl
  | false =>
    cases target with
    | direct stream =>
      cases event with
      | write bag => simp [handle, write, sink_ofStream, SinkEvent.isClose]
      | flush => simp [handle, flush, sink_ofStream, SinkEvent.isClose]
      | close => simp [handle, close, sink_ofStream, SinkEvent.isClose]
      | move which => rfl
    | batched flusher =>
      cases event with
      | write bag =>
        rw [handle, write]
        simp only [Bool.false_eq_true, if_false]
        split <;> rfl
      | _ => rfl

end Sink

namespace Flusher

variable {δ : Type u} {ε : Type v} [ByteStream δ ε]

theorem receiveMany_of_dead {flusher : Flusher δ} (dead : flusher.alive = false) (n : Nat)
    (around : ε) : flusher.receiveMany n around = ⟨.ok (), flusher, around, []⟩ := by
  induction n with
  | zero => rfl
  | succ n ih =>
    have still : flusher.move around .receive = ⟨.ok (), flusher, around, []⟩ := by
      simp [move, dead]
    simp only [receiveMany, still, ih, List.append_nil]

/-- A crash leaves nothing in the queue; otherwise draining does not touch it. -/
theorem queue_drain (flusher : Flusher δ) (around : ε) (onLoss : Nat → IOFault → List Notice) :
    (flusher.drain around onLoss).flusher.queue = flusher.queue ∨
      (flusher.drain around onLoss).flusher.alive = false := by
  unfold drain
  simp only
  split
  · exact .inl rfl
  · exact .inl rfl
  · exact .inr rfl

theorem queue_receive (flusher : Flusher δ) (around : ε) :
    (flusher.receive around).flusher.queue = flusher.queue.tail ∨
      (flusher.receive around).flusher.alive = false := by
  unfold receive
  split
  next empty => exact .inl (by rw [empty]; rfl)
  next line rest queue =>
    simp only
    split
    · rw [queue]
      exact queue_drain _ around _
    · rw [queue]
      exact .inl rfl

/-- Receiving a line first makes no difference to receiving them all. -/
theorem catchUp_of_receive (flusher : Flusher δ) (around : ε) :
    let first := flusher.move around .receive
    let later := first.flusher.catchUp first.around
    flusher.catchUp around = { later with notices := first.notices ++ later.notices } := by
  intro first later
  cases queue : flusher.queue with
  | nil =>
    have still : first = ⟨.ok (), flusher, around, []⟩ := by
      simp [first, move, receive, queue]
    simp [later, still]
  | cons line rest =>
    have all : flusher.catchUp around =
        { receiveMany rest.length first.flusher first.around with
          notices := first.notices ++
            (receiveMany rest.length first.flusher first.around).notices } := by
      rw [catchUp, queue]
      rfl
    -- After a crash the queue is empty, but then no further move does anything.
    have same : receiveMany rest.length first.flusher first.around = later := by
      by_cases alive : flusher.alive = true
      · have moved : first = flusher.receive around := by simp [first, move, alive]
        rcases flusher.queue_receive around with tail | dead
        · rw [← moved, queue, List.tail_cons] at tail
          rw [← tail]
          rfl
        · rw [← moved] at dead
          exact (receiveMany_of_dead dead _ _).trans (receiveMany_of_dead dead _ _).symm
      · have dead : first.flusher.alive = false := by simp [first, move, alive]
        exact (receiveMany_of_dead dead _ _).trans (receiveMany_of_dead dead _ _).symm
    rw [all, same]

theorem sync_of_receive (flusher : Flusher δ) (around : ε) :
    let first := flusher.move around .receive
    let later := first.flusher.sync first.around
    flusher.sync around = { later with notices := first.notices ++ later.notices } := by
  intro first later
  simp only [later, first, sync, flusher.catchUp_of_receive around]
  split <;> simp only [List.append_assoc]

theorem finish_of_receive (flusher : Flusher δ) (around : ε) :
    let first := flusher.move around .receive
    let later := first.flusher.finish first.around
    flusher.finish around = { later with notices := first.notices ++ later.notices } := by
  intro first later
  simp only [later, first, finish, flusher.catchUp_of_receive around]
  split
  · split <;> simp only [List.append_assoc]
  · rfl

end Flusher

namespace SinkHistory

variable {δ : Type u} {ε : Type v} [ByteStream δ ε]

/-- A sink over a stream, before anything has happened. -/
def ofStream (template : Template) (stream : δ) (delivery : Delivery) (around : ε) :
    SinkHistory δ ε :=
  let (sink, around) := Sink.ofStreamIn template stream delivery around
  ⟨sink, around, [], [], 0⟩

def next (history : SinkHistory δ ε) (event : SinkEvent) : SinkHistory δ ε :=
  let step := history.sink.handle history.around event
  { sink := step.sink
    around := step.around
    records := history.records ++ event.accepted step.result
    background := history.background ++ step.background
    refusedFlushes := history.refusedFlushes + event.refusals step.result }

def run (history : SinkHistory δ ε) (events : List SinkEvent) : SinkHistory δ ε :=
  events.foldl next history

theorem closed_run (history : SinkHistory δ ε) (events : List SinkEvent) :
    (history.run events).sink.closed = (history.sink.closed || events.any SinkEvent.isClose) := by
  induction events generalizing history with
  | nil => exact (Bool.or_false _).symm
  | cons event rest ih =>
    have first : (history.next event).sink.closed = (history.sink.closed || event.isClose) :=
      history.sink.closed_handle history.around event
    have later := ih (history.next event)
    rw [first, Bool.or_assoc] at later
    exact later

/-! ### Calls that wait -/

/-- A call that finds nothing to do, and accepts nothing. -/
theorem next_of_idle {history : SinkHistory δ ε} {event : SinkEvent}
    (result : Except SinkError Unit) (notices : List Notice)
    (idle : history.sink.handle history.around event =
      ⟨result, history.sink, history.around, notices, []⟩)
    (nothing : event.accepted result = []) (unrefused : event.refusals result = 0) :
    history.next event = history := by
  simp [next, idle, nothing, unrefused]

/-- A caller who waits, for a flush or for an open sink to close, waits for the flusher to receive
what has been sent: whether it does so before the call makes no difference. -/
theorem next_of_receive (history : SinkHistory δ ε) (opened : history.sink.closed = false)
    {event : SinkEvent} (waits : event = .flush ∨ event = .close) :
    (history.next (.move .receive)).next event = history.next event := by
  cases target : history.sink.target with
  | direct stream =>
    have idle : history.sink.handle history.around (.move .receive) =
        history.sink.unchanged history.around := by
      simp [Sink.handle, Sink.move, target]
    rw [next_of_idle (.ok ()) [] idle rfl rfl]
  | batched flusher =>
    rcases waits with rfl | rfl
    · have synced : flusher.sync history.around = _ := flusher.sync_of_receive history.around
      simp only [next, Sink.handle, Sink.move, Sink.flush, Sink.ofFlusher, target, opened, synced]
      simp [SinkEvent.accepted, SinkEvent.refusals]
    · have finished : flusher.finish history.around = _ := flusher.finish_of_receive history.around
      simp only [next, Sink.handle, Sink.move, Sink.close, Sink.ofFlusher, target, opened, finished]
      simp [SinkEvent.accepted, SinkEvent.refusals]

/-! ### A batched sink -/

variable {able : Watched δ → Prop}

/-- The history of a batched sink, by where the lines are that it has accepted. A closed sink has
handed all of them on. -/
structure Holds (able : Watched δ → Prop) (template : Template) (capacity : Nat) (alive : Bool)
    (history : SinkHistory (Watched δ) ε) (flusher : Flusher (Watched δ)) (batches : List Batch)
    (waiting : List ByteArray) : Prop where
  same : history.sink.template = template
  target : history.sink.target = .batched flusher
  carries : flusher.Carries able batches waiting (history.records.map template.bytes)
  small : flusher.Small
  capacity : flusher.capacity = capacity
  alive : flusher.alive = alive
  shut : history.sink.closed = true → waiting = [] ∧ flusher.queue = []
  noted : history.background.filterMap Notice.loss? = batches.filterMap Batch.noted?
  told : history.refusedFlushes = batches.countP Batch.told

variable {template : Template} {capacity : Nat} {alive : Bool}
  {history : SinkHistory (Watched δ) ε} {flusher : Flusher (Watched δ)} {batches : List Batch}
  {waiting : List ByteArray}

/-- An operation of the flusher that ends a call. -/
theorem Holds.ofLeaves (holds : Holds able template capacity alive history flusher batches waiting)
    {event : SinkEvent} {sink : Sink (Watched δ)} {step : FlusherStep (Watched δ) ε}
    {result : Except SinkError Unit} {added : List Batch} {left : List ByteArray} {times : Nat}
    (acts : history.sink.handle history.around event =
      { sink.ofFlusher step with result })
    (same : sink.template = history.sink.template)
    (leaves : Flusher.Leaves able flusher step batches added left
      (history.records.map template.bytes) times)
    (nothing : event.accepted result = [])
    (told : event.refusals result = added.countP Batch.told)
    (shut : sink.closed = true → left = [] ∧ step.flusher.queue = []) :
    Holds able template capacity alive (history.next event) step.flusher (batches ++ added)
      left := by
  simp only [next, acts, Sink.ofFlusher, nothing, List.append_nil]
  refine ⟨same.trans holds.same, rfl, leaves.carries, leaves.small holds.small,
    leaves.capacity.trans holds.capacity, leaves.alive.trans holds.alive, shut, ?_, ?_⟩
  · rw [List.filterMap_append, List.filterMap_append, holds.noted, leaves.noted]
  · rw [List.countP_append, holds.told, told]

/-- A batched sink begins with nothing. Its flusher is alive if it could be started. -/
theorem holds_ofStream (steady : Steady able) {stream : δ} (sort : able (.of stream))
    (template : Template) (interval : Duration) (capacity : Nat) (around : ε) :
    ∃ flusher, Holds able template capacity (decide (capacity ≤ Flusher.greatestCapacity))
        (ofStream template (Watched.of stream) (.batched interval capacity) around) flusher [] [] ∧
      (ofStream template (Watched.of stream) (.batched interval capacity) around).records = [] ∧
      (ofStream template (Watched.of stream) (.batched interval capacity) around).sink.closed =
        false := by
  by_cases fits : capacity ≤ Flusher.greatestCapacity
  · refine ⟨⟨.of stream, capacity, [], .empty, true⟩, ?_⟩
    simp only [ofStream, Sink.ofStreamIn, Flusher.start, fits, if_true, decide_true, and_true]
    exact ⟨rfl, rfl, ⟨sort, rfl, rfl, rfl, nofun⟩, .inl rfl, rfl, rfl, nofun, rfl, rfl⟩
  · refine ⟨⟨(ByteStream.release (Watched.of stream) around).1, capacity, [], .empty, false⟩, ?_⟩
    simp only [ofStream, Sink.ofStreamIn, Flusher.start, fits, if_false, decide_false, and_true]
    exact ⟨rfl, rfl, ⟨steady.keeps.release _ _ sort, rfl, rfl, rfl, fun _ => ⟨rfl, rfl⟩⟩,
      .inl rfl, rfl, rfl, nofun, rfl, rfl⟩

theorem Holds.write (holds : Holds able template capacity alive history flusher batches waiting)
    (bag : Bag) :
    ∃ flusher', Holds able template capacity alive (history.next (.write bag)) flusher' batches
        waiting ∧
      (history.next (.write bag)).sink.closed = history.sink.closed ∧
      (history.next (.write bag)).records =
        history.records ++ if alive && !history.sink.closed then [bag] else [] := by
  by_cases closed : history.sink.closed = true
  · have same : history.next (.write bag) = history :=
      next_of_idle (.error .closed) []
        (by simp [Sink.handle, Sink.write, closed, Sink.unchanged]) rfl rfl
    rw [same]
    exact ⟨flusher, holds, rfl, by simp [closed]⟩
  simp only [Bool.not_eq_true] at closed
  -- A flusher that could not be started accepts nothing, and its sink says so.
  by_cases living : flusher.alive = true
  · have sent : history.sink.handle history.around (.write bag) =
        ⟨.ok (), { history.sink with target := .batched (flusher.send (template.bytes bag)) },
          history.around, (template.line bag).notices, []⟩ := by
      simp [Sink.handle, Sink.write, closed, holds.target, living, holds.same, Template.bytes]
    refine ⟨flusher.send (template.bytes bag), ?_, by simp [next, sent], by
      simp [next, sent, closed, SinkEvent.accepted, ← holds.alive, living]⟩
    simp only [next, sent, SinkEvent.accepted, SinkEvent.refusals, List.append_nil,
      Nat.add_zero]
    refine ⟨holds.same, rfl, ?_, holds.small, holds.capacity, holds.alive, fun shut => ?_,
      holds.noted, holds.told⟩
    · rw [List.map_append]
      exact holds.carries.send living (template.bytes bag)
    · exact absurd (shut.symm.trans closed) Bool.noConfusion
  · have same : history.next (.write bag) = history :=
      next_of_idle (.error .flusherDead) (history.sink.template.line bag).notices
        (by simp [Sink.handle, Sink.write, closed, holds.target, living]) rfl rfl
    rw [same]
    exact ⟨flusher, holds, rfl, by simp [← holds.alive, living]⟩

theorem Holds.move (steady : Steady able)
    (holds : Holds able template capacity alive history flusher batches waiting)
    (which : FlusherMove) :
    ∃ flusher' added left, Holds able template capacity alive (history.next (.move which)) flusher'
        (batches ++ added) left ∧
      flusher'.queue =
        (match which with | .receive => flusher.queue.tail | .tick => flusher.queue) ∧
      (history.next (.move which)).sink.closed = history.sink.closed ∧
      (history.next (.move which)).records = history.records := by
  obtain ⟨added, left, own, queue, leaves⟩ := holds.carries.move steady history.around which
  have acts : history.sink.handle history.around (.move which) =
      { history.sink.ofFlusher (flusher.move history.around which) with result := .ok () } := by
    simp [Sink.handle, Sink.move, holds.target]
  refine ⟨_, added, left, holds.ofLeaves acts rfl leaves rfl (Batch.countP_told own).symm ?_,
    queue, by simp [next, acts, Sink.ofFlusher], by simp [next, acts, SinkEvent.accepted]⟩
  intro closed
  obtain ⟨rfl, empty⟩ := holds.shut closed
  exact leaves.nothing holds.carries empty

theorem Holds.flush (steady : Steady able)
    (holds : Holds able template capacity alive history flusher batches waiting) :
    ∃ flusher' added, Holds able template capacity alive (history.next .flush) flusher'
        (batches ++ added) [] ∧ flusher'.queue = [] ∧
      (history.next .flush).sink.closed = history.sink.closed ∧
      (history.next .flush).records = history.records := by
  by_cases closed : history.sink.closed = true
  · have same : history.next .flush = history :=
      next_of_idle (.ok ()) []
        (by simp [Sink.handle, Sink.flush, holds.target, closed, Sink.unchanged]) rfl rfl
    obtain ⟨rfl, empty⟩ := holds.shut closed
    rw [same]
    exact ⟨flusher, [], by rwa [List.append_nil], empty, rfl, rfl⟩
  have acts : history.sink.handle history.around .flush =
      history.sink.ofFlusher (flusher.sync history.around) := by
    simp [Sink.handle, Sink.flush, holds.target, closed]
  have closed' : (history.next .flush).sink.closed = history.sink.closed := by
    simp [next, acts, Sink.ofFlusher]
  have records' : (history.next .flush).records = history.records := by
    simp [next, acts, SinkEvent.accepted]
  by_cases living : flusher.alive = true
  · obtain ⟨added, last, own, asked, answer, queue, leaves⟩ :=
      holds.carries.sync steady living history.around
    refine ⟨_, added ++ [last], holds.ofLeaves acts rfl leaves rfl ?_ fun _ => ⟨rfl, queue⟩,
      queue, closed', records'⟩
    rw [List.countP_append, Batch.countP_told own]
    -- Whether the last batch is lost is what the caller is told.
    rcases answer with ⟨delivered, told⟩ | ⟨lost, fault, told⟩
    · simp [told, SinkEvent.refusals, Batch.told, delivered]
    · simp [told, SinkEvent.refusals, Batch.told, lost, asked]
  · simp only [Bool.not_eq_true] at living
    obtain ⟨rfl, empty⟩ := holds.carries.idle living
    rw [Flusher.sync_of_dead living empty] at acts
    exact ⟨_, [], holds.ofLeaves acts rfl (holds.carries.rest history.around _) rfl rfl
      fun _ => ⟨rfl, empty⟩, empty, closed', records'⟩

theorem Holds.close (steady : Steady able)
    (holds : Holds able template capacity alive history flusher batches waiting) :
    ∃ flusher' added, Holds able template capacity alive (history.next .close) flusher'
        (batches ++ added) [] ∧ flusher'.queue = [] ∧
      (history.next .close).sink.closed = true ∧
      (history.next .close).records = history.records := by
  by_cases closed : history.sink.closed = true
  · have same : history.next .close = history :=
      next_of_idle (.ok ()) [] (by simp [Sink.handle, Sink.close, closed, Sink.unchanged])
        rfl rfl
    obtain ⟨rfl, empty⟩ := holds.shut closed
    rw [same]
    exact ⟨flusher, [], by rwa [List.append_nil], empty, closed, rfl⟩
  have acts : history.sink.handle history.around .close =
      Sink.ofFlusher { history.sink with closed := true } (flusher.finish history.around) := by
    simp [Sink.handle, Sink.close, holds.target, closed]
  have closed' : (history.next .close).sink.closed = true := by
    simp [next, acts, Sink.ofFlusher]
  have records' : (history.next .close).records = history.records := by
    simp [next, acts, SinkEvent.accepted]
  by_cases living : flusher.alive = true
  · obtain ⟨added, own, queue, leaves⟩ := holds.carries.finish steady living history.around
    exact ⟨_, added, holds.ofLeaves acts rfl leaves rfl (Batch.countP_told own).symm
      fun _ => ⟨rfl, queue⟩, queue, closed', records'⟩
  · simp only [Bool.not_eq_true] at living
    obtain ⟨rfl, empty⟩ := holds.carries.idle living
    rw [Flusher.finish_of_dead living empty] at acts
    exact ⟨_, [], holds.ofLeaves acts rfl (holds.carries.rest history.around _) rfl rfl
      fun _ => ⟨rfl, empty⟩, empty, closed', records'⟩

theorem Holds.next (steady : Steady able)
    (holds : Holds able template capacity alive history flusher batches waiting)
    (event : SinkEvent) :
    ∃ flusher' batches' left, Holds able template capacity alive (history.next event) flusher'
        batches' left ∧
      (event = .flush ∨ event = .close → left = [] ∧ flusher'.queue = []) ∧
      (history.next event).sink.closed = (history.sink.closed || event.isClose) ∧
      (history.next event).records = history.records ++
        if alive && !history.sink.closed then event.bag?.toList else [] := by
  cases event with
  | write bag =>
    obtain ⟨flusher', holds', closed, records⟩ := holds.write bag
    exact ⟨flusher', batches, waiting, holds', by simp, by simp [closed, SinkEvent.isClose],
      records⟩
  | flush =>
    obtain ⟨flusher', added, holds', queue, closed, records⟩ := holds.flush steady
    exact ⟨flusher', _, [], holds', fun _ => ⟨rfl, queue⟩, by simp [closed, SinkEvent.isClose],
      by simp [records, SinkEvent.bag?]⟩
  | close =>
    obtain ⟨flusher', added, holds', queue, closed, records⟩ := holds.close steady
    exact ⟨flusher', _, [], holds', fun _ => ⟨rfl, queue⟩, by simp [closed, SinkEvent.isClose],
      by simp [records, SinkEvent.bag?]⟩
  | move which =>
    obtain ⟨flusher', added, left, holds', -, closed, records⟩ := holds.move steady which
    exact ⟨flusher', _, left, holds', by simp, by simp [closed, SinkEvent.isClose],
      by simp [records, SinkEvent.bag?]⟩

/-- By induction on the events, each of which starts from what the ones before it left. -/
theorem Holds.run (steady : Steady able) (events : List SinkEvent)
    (holds : Holds able template capacity alive history flusher batches waiting) :
    ∃ flusher' batches' left, Holds able template capacity alive (history.run events) flusher'
        batches' left ∧
      (events.getLast? = some .flush ∨ events.getLast? = some .close →
        left = [] ∧ flusher'.queue = []) ∧
      (history.run events).sink.closed = (history.sink.closed || events.any SinkEvent.isClose) ∧
      (history.run events).records = history.records ++
        if alive && !history.sink.closed then SinkEvent.written events else [] := by
  induction events generalizing history flusher batches waiting with
  | nil => exact ⟨flusher, batches, waiting, holds, by simp, by simp [SinkHistory.run], by
      simp [SinkHistory.run, SinkEvent.written]⟩
  | cons event rest ih =>
    obtain ⟨flusher₁, batches₁, left₁, holds₁, last₁, closed₁, records₁⟩ :=
      holds.next steady event
    obtain ⟨flusher₂, batches₂, left₂, holds₂, last₂, closed₂, records₂⟩ := ih holds₁
    have closed : (history.run (event :: rest)).sink.closed =
        (history.sink.closed || (event :: rest).any SinkEvent.isClose) := by
      rw [List.any_cons, ← Bool.or_assoc, ← closed₁]
      exact closed₂
    have records : (history.run (event :: rest)).records = history.records ++
        if alive && !history.sink.closed then SinkEvent.written (event :: rest) else [] := by
      refine records₂.trans ?_
      rw [records₁, closed₁, SinkEvent.written_cons]
      cases alive <;> cases history.sink.closed <;> cases event.isClose <;> simp
    -- The last event decides whether anything is left behind.
    cases rest with
    | nil => exact ⟨flusher₁, batches₁, left₁, holds₁, by simpa using last₁, closed, records⟩
    | cons later rest =>
      refine ⟨flusher₂, batches₂, left₂, holds₂, ?_, closed, records⟩
      rwa [List.getLast?_cons_cons]

/-- What has come of a batched sink over a stream that is watched. -/
theorem holds_run (steady : Steady able) {stream : δ} (sort : able (.of stream))
    (template : Template) (interval : Duration) (capacity : Nat) (around : ε)
    (events : List SinkEvent) :
    let run := (ofStream template (Watched.of stream) (.batched interval capacity) around).run
      events
    ∃ flusher batches waiting, Holds able template capacity
        (decide (capacity ≤ Flusher.greatestCapacity)) run flusher batches waiting ∧
      (events.getLast? = some .flush ∨ events.getLast? = some .close →
        waiting = [] ∧ flusher.queue = []) ∧
      (.close ∈ events → run.sink.closed = true) ∧
      (capacity ≤ Flusher.greatestCapacity → run.records = SinkEvent.written events) := by
  intro run
  obtain ⟨flusher, holds, records, closed⟩ :=
    holds_ofStream steady sort template interval capacity around
  obtain ⟨flusher', batches, waiting, holds', last, closed', records'⟩ := holds.run steady events
  refine ⟨flusher', batches, waiting, holds', last, fun closing => ?_, fun fits => ?_⟩
  · refine closed'.trans ?_
    rw [closed, Bool.false_or]
    exact List.any_eq_true.mpr ⟨.close, closing, rfl⟩
  · refine records'.trans ?_
    rw [records, closed, decide_eq_true fits]
    rfl

end SinkHistory

/-! ### Lines of one argument -/

/-- A template whose line is the text of one argument. -/
def keyTemplate : Template :=
  ⟨"%k", [.call fun bag => .done (.shown "k" (.text (bag.text "k")))]⟩

/-- A bag of that argument alone. -/
def keyBag (key : String) : Bag := KeyMap.ofList [("k", .text key)]

end Tapline
