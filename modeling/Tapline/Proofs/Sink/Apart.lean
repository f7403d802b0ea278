import Tapline.Proofs.Sink.History
import Tapline.Proofs.Stream.Apart
/-!
# Sinks over streams that are apart

A sink among others, and the same sink alone, differ in their streams and surroundings at most. If
the streams are alike then every call answers the same to both, leaves them alike, and goes
unnoticed by the sinks at other places. Each operation of a flusher makes calls on one stream one
after the other, so what is known of the calls adds up.
-/

namespace Tapline

variable {δ : Type u} {ε : Type v} {alike : Nat → δ → ε → δ → ε → Prop} {n : Nat}

/-! ### Flushers -/

namespace Flusher

/-- The same flusher over another stream. -/
def onto (flusher : Flusher δ) (stream : δ) : Flusher δ := { flusher with stream }

end Flusher

/-- A step of a flusher, and one of the same flusher over an alike stream. -/
structure FlusherStep.Agrees (alike : Nat → δ → ε → δ → ε → Prop) (n : Nat) (before : ε)
    (step step' : FlusherStep δ ε) : Prop where
  result : step'.result = step.result
  notices : step'.notices = step.notices
  flusher : step'.flusher = step.flusher.onto step'.flusher.stream
  stream : alike n step.flusher.stream step.around step'.flusher.stream step'.around
  unnoticed : Unnoticed alike (· ≠ n) before step.around

namespace Flusher

variable {flusher : Flusher δ} {stream stream' : δ} {around around' : ε}

theorem agrees_idle (same : alike n flusher.stream around stream' around')
    (result : Except SinkError Unit) (notices : List Notice) :
    FlusherStep.Agrees alike n around ⟨result, flusher, around, notices⟩
      ⟨result, flusher.onto stream', around', notices⟩ :=
  ⟨rfl, rfl, rfl, same, .refl around⟩

variable [ByteStream δ ε]

theorem writeBatch_agrees (apart : Apart alike) (same : alike n stream around stream' around')
    (batch : ByteArray) :
    (writeBatch stream around batch).Agrees alike n around (writeBatch stream' around' batch) := by
  have written := apart.writeAll n stream around stream' around' batch same
  unfold writeBatch
  generalize ByteStream.writeAll stream around batch = step at written ⊢
  generalize ByteStream.writeAll stream' around' batch = step' at written ⊢
  simp only [written.result]
  cases step.result with
  | error fault => exact written
  | ok =>
    have flushed := apart.flush n step.stream step.around step'.stream step'.around written.stream
    constructor
    · exact flushed.result
    · simp only [written.notices, flushed.notices]
    · exact flushed.stream
    · exact written.unnoticed.trans flushed.unnoticed

theorem drain_agrees (apart : Apart alike) (same : alike n flusher.stream around stream' around')
    (onLoss : Nat → IOFault → List Notice) :
    (flusher.drain around onLoss).Agrees alike n around
      ((flusher.onto stream').drain around' onLoss) := by
  have batch := writeBatch_agrees apart same flusher.pending
  unfold drain
  simp only [onto]
  generalize writeBatch flusher.stream around flusher.pending = step at batch ⊢
  generalize writeBatch stream' around' flusher.pending = step' at batch ⊢
  simp only [batch.result, batch.notices]
  split
  · exact ⟨rfl, rfl, rfl, batch.stream, batch.unnoticed⟩
  · exact ⟨rfl, rfl, rfl, batch.stream, batch.unnoticed⟩
  · -- A crash ends the flusher, which gives its stream up.
    obtain ⟨released, unnoticed⟩ :=
      apart.release n step.stream step.around step'.stream step'.around batch.stream
    exact ⟨rfl, rfl, rfl, released, batch.unnoticed.trans unnoticed⟩

theorem receive_agrees (apart : Apart alike)
    (same : alike n flusher.stream around stream' around') :
    (flusher.receive around).Agrees alike n around ((flusher.onto stream').receive around') := by
  obtain ⟨stream, capacity, queue, pending, alive⟩ := flusher
  cases queue with
  | nil => exact agrees_idle same (.ok ()) []
  | cons line queue =>
    have received : alike n (Flusher.mk stream capacity queue (pending ++ line) alive).stream
        around stream' around' := same
    have drained := drain_agrees apart received fun bytes fault => [.batchDropped bytes fault]
    by_cases full : capacity ≤ (pending ++ line).size
    · simp only [receive, onto, full, if_true]
      exact drained
    · simp only [receive, onto, full, if_false]
      exact agrees_idle received (.ok ()) []

theorem move_agrees (apart : Apart alike) (same : alike n flusher.stream around stream' around')
    (which : FlusherMove) :
    (flusher.move around which).Agrees alike n around
      ((flusher.onto stream').move around' which) := by
  have received := receive_agrees apart same
  have drained := drain_agrees apart same fun bytes fault => [.batchDropped bytes fault]
  have idle := agrees_idle same (.ok ()) []
  have alive : (flusher.onto stream').alive = flusher.alive := rfl
  unfold move
  rw [alive]
  by_cases living : flusher.alive = true
  · rw [if_pos living, if_pos living]
    cases which with
    | receive => exact received
    | tick =>
      simp only [tick]
      have pending : (flusher.onto stream').pending = flusher.pending := rfl
      rw [pending]
      by_cases nothing : flusher.pending.isEmpty = true
      · rw [if_pos nothing, if_pos nothing]
        exact idle
      · rw [if_neg nothing, if_neg nothing]
        exact drained
  · rw [if_neg living, if_neg living]
    exact idle

theorem receiveMany_agrees (apart : Apart alike) (count : Nat)
    (same : alike n flusher.stream around stream' around') :
    (flusher.receiveMany count around).Agrees alike n around
      ((flusher.onto stream').receiveMany count around') := by
  induction count generalizing flusher around stream' around' with
  | zero => exact agrees_idle same (.ok ()) []
  | succ count ih =>
    have first := move_agrees apart same .receive
    rw [receiveMany, receiveMany]
    generalize flusher.move around .receive = step at first ⊢
    generalize (flusher.onto stream').move around' .receive = step' at first ⊢
    -- What the first move leaves is again one flusher over two streams.
    have rest := ih first.stream
    rw [← first.flusher] at rest
    exact ⟨rest.result, by simp only [first.notices, rest.notices], rest.flusher, rest.stream,
      first.unnoticed.trans rest.unnoticed⟩

theorem catchUp_agrees (apart : Apart alike)
    (same : alike n flusher.stream around stream' around') :
    (flusher.catchUp around).Agrees alike n around ((flusher.onto stream').catchUp around') :=
  receiveMany_agrees apart flusher.queue.length same

/-- Lines that are on their way are received first, then everything is handed on. -/
theorem drain_agrees_of_catchUp (apart : Apart alike) {caught caught' : FlusherStep δ ε}
    (agrees : caught.Agrees alike n around caught') (onLoss : Nat → IOFault → List Notice) :
    (caught.flusher.drain caught.around onLoss).Agrees alike n around
      (caught'.flusher.drain caught'.around onLoss) := by
  have drained := drain_agrees apart agrees.stream onLoss
  rw [← agrees.flusher] at drained
  exact ⟨drained.result, drained.notices, drained.flusher, drained.stream,
    agrees.unnoticed.trans drained.unnoticed⟩

theorem sync_agrees (apart : Apart alike) (same : alike n flusher.stream around stream' around') :
    (flusher.sync around).Agrees alike n around ((flusher.onto stream').sync around') := by
  have caught := catchUp_agrees apart same
  unfold sync
  generalize flusher.catchUp around = step at caught ⊢
  generalize (flusher.onto stream').catchUp around' = step' at caught ⊢
  have alive : step'.flusher.alive = step.flusher.alive := by
    rw [caught.flusher]
    rfl
  have drained := drain_agrees_of_catchUp apart caught fun _ _ => []
  simp only [alive]
  split
  · exact ⟨drained.result, by simp only [caught.notices, drained.notices], drained.flusher,
      drained.stream, drained.unnoticed⟩
  · exact ⟨rfl, caught.notices, caught.flusher, caught.stream, caught.unnoticed⟩

theorem finish_agrees (apart : Apart alike)
    (same : alike n flusher.stream around stream' around') :
    (flusher.finish around).Agrees alike n around ((flusher.onto stream').finish around') := by
  have caught := catchUp_agrees apart same
  unfold finish
  generalize flusher.catchUp around = step at caught ⊢
  generalize (flusher.onto stream').catchUp around' = step' at caught ⊢
  have alive : step'.flusher.alive = step.flusher.alive := by
    rw [caught.flusher]
    rfl
  have drained := drain_agrees_of_catchUp apart caught fun bytes fault =>
    [.finalBatchLost bytes fault]
  simp only [alive]
  split
  · generalize step.flusher.drain step.around _ = last at drained ⊢
    generalize step'.flusher.drain step'.around _ = last' at drained ⊢
    have alive' : last'.flusher.alive = last.flusher.alive := by
      rw [drained.flusher]
      rfl
    have notices : step'.notices ++ last'.notices = step.notices ++ last.notices := by
      rw [caught.notices, drained.notices]
    simp only [alive', notices]
    split
    · -- Its work is done, so it gives its stream up.
      obtain ⟨released, unnoticed⟩ := apart.release n last.flusher.stream last.around
        last'.flusher.stream last'.around drained.stream
      refine ⟨drained.result, rfl, ?_, released, drained.unnoticed.trans unnoticed⟩
      rw [drained.flusher]
      rfl
    · exact ⟨drained.result, rfl, drained.flusher, drained.stream, drained.unnoticed⟩
  · exact ⟨rfl, caught.notices, caught.flusher, caught.stream, caught.unnoticed⟩

end Flusher

/-! ### Sinks -/

/-- The same sink over another stream. -/
def Sink.onto (sink : Sink δ) (stream : δ) : Sink δ :=
  { sink with target := match sink.target with
    | .direct _ => .direct stream
    | .batched flusher => .batched (flusher.onto stream) }

/-- The answer of a sink to a call, and that of the same sink over an alike stream. -/
structure SinkStep.Agrees (alike : Nat → δ → ε → δ → ε → Prop) (n : Nat) (before : ε)
    (step step' : SinkStep δ ε) : Prop where
  result : step'.result = step.result
  notices : step'.notices = step.notices
  background : step'.background = step.background
  sink : step'.sink = step.sink.onto step'.sink.stream
  stream : alike n step.sink.stream step.around step'.sink.stream step'.around
  unnoticed : Unnoticed alike (· ≠ n) before step.around

namespace Sink

variable {sink : Sink δ} {stream' : δ} {around around' : ε}

theorem stream_onto (sink : Sink δ) (stream : δ) : (sink.onto stream).stream = stream := by
  unfold Sink.stream onto
  cases sink.target with
  | direct => rfl
  | batched => rfl

theorem onto_stream (sink : Sink δ) : sink.onto sink.stream = sink := by
  obtain ⟨template, target, closed⟩ := sink
  cases target with
  | direct => rfl
  | batched => rfl

theorem agrees_idle (same : alike n sink.stream around stream' around')
    (result : Except SinkError Unit) (notices : List Notice) :
    SinkStep.Agrees alike n around ⟨result, sink, around, notices, []⟩
      ⟨result, sink.onto stream', around', notices, []⟩ := by
  refine ⟨rfl, rfl, rfl, ?_, ?_, .refl around⟩
  · rw [stream_onto]
  · rw [stream_onto]
    exact same

theorem ofStream_agrees {template : Template} {target target' : Target δ} {closed : Bool}
    {step step' : StreamStep δ ε} (agrees : step.Agrees alike n around step') :
    (ofStream ⟨template, target, closed⟩ step).Agrees alike n around
      (ofStream ⟨template, target', closed⟩ step') := by
  obtain ⟨result, stream, left, notices⟩ := step
  obtain ⟨result', stream', left', notices'⟩ := step'
  obtain ⟨rfl, rfl, alike_after, unnoticed⟩ := agrees
  unfold ofStream
  simp only
  split
  · exact ⟨rfl, rfl, rfl, rfl, alike_after, unnoticed⟩
  · exact ⟨rfl, rfl, rfl, rfl, alike_after, unnoticed⟩
  · exact ⟨rfl, rfl, rfl, rfl, alike_after, unnoticed⟩

theorem ofFlusher_agrees {template : Template} {target target' : Target δ} {closed : Bool}
    {step step' : FlusherStep δ ε} (agrees : step.Agrees alike n around step') :
    (ofFlusher ⟨template, target, closed⟩ step).Agrees alike n around
      (ofFlusher ⟨template, target', closed⟩ step') := by
  refine ⟨agrees.result, rfl, agrees.notices, ?_, agrees.stream, agrees.unnoticed⟩
  change (⟨template, .batched step'.flusher, closed⟩ : Sink δ) = _
  rw [agrees.flusher]
  rfl

variable [ByteStream δ ε]

theorem write_agrees (apart : Apart alike) (same : alike n sink.stream around stream' around')
    (bag : Bag) :
    (sink.write around bag).Agrees alike n around ((sink.onto stream').write around' bag) := by
  obtain ⟨template, target, closed⟩ := sink
  cases closed with
  | true => exact agrees_idle same (.error .closed) []
  | false =>
    cases target with
    | direct stream =>
      have written : SinkStep.Agrees alike n around
          (ofStream ⟨template, .direct stream, false⟩
            (ByteStream.writeAll stream around (template.bytes bag)))
          (ofStream ⟨template, .direct stream', false⟩
            (ByteStream.writeAll stream' around' (template.bytes bag))) :=
        ofStream_agrees (apart.writeAll n stream around stream' around' (template.bytes bag) same)
      have notices := congrArg ((template.line bag).notices ++ ·) written.notices
      exact ⟨written.result, notices, written.background, written.sink, written.stream,
        written.unnoticed⟩
    | batched flusher =>
      -- Sending makes no call on the stream.
      obtain ⟨stream, capacity, queue, pending, alive⟩ := flusher
      cases alive with
      | true => exact ⟨rfl, rfl, rfl, rfl, same, .refl around⟩
      | false => exact agrees_idle same (.error .flusherDead) (template.line bag).notices

theorem flush_agrees (apart : Apart alike) (same : alike n sink.stream around stream' around') :
    (sink.flush around).Agrees alike n around ((sink.onto stream').flush around') := by
  obtain ⟨template, target, closed⟩ := sink
  cases target with
  | direct stream =>
    exact ofStream_agrees (apart.flush n stream around stream' around' same)
  | batched flusher =>
    cases closed with
    | true => exact agrees_idle same (.ok ()) []
    | false => exact ofFlusher_agrees (Flusher.sync_agrees apart same)

theorem close_agrees (apart : Apart alike) (same : alike n sink.stream around stream' around') :
    (sink.close around).Agrees alike n around ((sink.onto stream').close around') := by
  obtain ⟨template, target, closed⟩ := sink
  cases closed with
  | true => exact agrees_idle same (.ok ()) []
  | false =>
    cases target with
    | direct stream =>
      exact ofStream_agrees (apart.flush n stream around stream' around' same)
    | batched flusher => exact ofFlusher_agrees (Flusher.finish_agrees apart same)

theorem move_agrees (apart : Apart alike) (same : alike n sink.stream around stream' around')
    (which : FlusherMove) :
    (sink.move around which).Agrees alike n around ((sink.onto stream').move around' which) := by
  obtain ⟨template, target, closed⟩ := sink
  cases target with
  | direct stream => exact agrees_idle same (.ok ()) []
  | batched flusher =>
    have moved : SinkStep.Agrees alike n around (ofFlusher ⟨template, .batched flusher, closed⟩ _)
        (ofFlusher ⟨template, .batched (flusher.onto stream'), closed⟩ _) :=
      ofFlusher_agrees (Flusher.move_agrees apart same which)
    exact ⟨rfl, moved.notices, moved.background, moved.sink, moved.stream, moved.unnoticed⟩

/-- **A sink over an alike stream is alike for good.** -/
theorem handle_agrees (apart : Apart alike) (same : alike n sink.stream around stream' around')
    (event : SinkEvent) :
    (sink.handle around event).Agrees alike n around
      ((sink.onto stream').handle around' event) := by
  cases event with
  | write bag => exact write_agrees apart same bag
  | flush => exact flush_agrees apart same
  | close => exact close_agrees apart same
  | move which => exact move_agrees apart same which

end Sink

end Tapline
